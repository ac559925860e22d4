import LetLang.Proofs.Value.NormalForm
import LetLang.Value.Arithmetic
import Mathlib.Data.List.Forall2

/-!
Folds of integers beside arithmetic without bounds. As long as the exact results are integers of 128
bits a fold goes through them and nothing is rounded; the first step that has none ends it.
-/
namespace LetLang

namespace ActionName

/-- The result on integers of any size, the fraction of a quotient dropped. A member is no number:
`get` is listed for completeness only. -/
def exact : ActionName → Int → Int → Int
  | add, a, b => a + b
  | subtract, a, b => a - b
  | multiply, a, b => a * b
  | divide, a, b => a.tdiv b
  | get, a, _ => a

def exactAfter (name : ActionName) (initial : Int) (operands : List Int) (steps : Nat) : Int :=
  (operands.take steps).foldl name.exact initial

inductive Refuses (name : ActionName) (initial : Int) (operands : List Int) (step : Nat) :
    Cause → Prop
  | zero (divides : name = .divide) (divisor : operands[step]? = some 0) :
      Refuses name initial operands step .divisionByZero
  | overflow (nonzero : ¬(name = .divide ∧ operands[step]? = some 0))
      (outside : ¬(-2 ^ 127 ≤ name.exactAfter initial operands (step + 1) ∧
        name.exactAfter initial operands (step + 1) < 2 ^ 127)) :
      Refuses name initial operands step .arithmeticOverflow

variable {name : ActionName} {initial operand : Int} {operands : List Int} {step : Nat}
variable {cause : Cause}

theorem refuses_front :
    name.Refuses initial (operand :: operands) 0 cause ↔
      cause = .divisionByZero ∧ name = .divide ∧ operand = 0 ∨
        cause = .arithmeticOverflow ∧ ¬(name = .divide ∧ operand = 0) ∧
          Int128.ofInt? (name.exact initial operand) = none := by
  have outside : Int128.ofInt? (name.exact initial operand) = none ↔
      ¬(-2 ^ 127 ≤ name.exact initial operand ∧ name.exact initial operand < 2 ^ 127) := by
    rw [Int128.ofInt?_eq_none]
    omega
  constructor
  · intro refuses
    cases refuses with
    | zero divides divisor => exact .inl ⟨rfl, divides, Option.some.inj divisor⟩
    | overflow nonzero past => exact .inr ⟨rfl, by simpa using nonzero, outside.mpr past⟩
  · rintro (⟨rfl, divides, rfl⟩ | ⟨rfl, nonzero, past⟩)
    · exact .zero divides rfl
    · exact .overflow (by simpa using nonzero) (outside.mp past)

theorem refuses_behind :
    name.Refuses initial (operand :: operands) (step + 1) cause ↔
      name.Refuses (name.exact initial operand) operands step cause := by
  constructor
  · intro refuses
    cases refuses with
    | zero divides divisor => exact .zero divides divisor
    | overflow nonzero outside => exact .overflow nonzero outside
  · intro refuses
    cases refuses with
    | zero divides divisor => exact .zero divides divisor
    | overflow nonzero outside => exact .overflow nonzero outside

end ActionName

namespace Value

open ActionName (Refuses refuses_front refuses_behind)

variable {kind : Kind} {name : ActionName} {left right initial : Value} {a b : Int128}
variable {operands : List Value} {integers : List Int128}

theorem applyIntegers_eq (arithmetic : name ≠ .get) (a b : Int128) :
    applyIntegers name a b =
      if name = .divide ∧ b.toInt = 0 then .error .divisionByZero
      else exactly (Int128.ofInt? (name.exact a.toInt b.toInt)) := by
  cases name with
  | get => exact absurd rfl arithmetic
  | divide =>
      rw [applyIntegers]
      simp only [true_and]
      rfl
  | _ => rfl

theorem apply_of_integers (integral : kind.isInteger = true) (first : left.asInteger? = some a)
    (second : right.asInteger? = some b) : apply kind name left right = applyIntegers name a b := by
  rw [apply, integral, first, second]

theorem apply_refused {cause : Cause} (integral : kind.isInteger = true) (arithmetic : name ≠ .get)
    (first : left.asInteger? = some a) (second : right.asInteger? = some b)
    (refuses : name.Refuses a.toInt (b.toInt :: integers.map Int128.toInt) 0 cause) :
    apply kind name left right = .error cause := by
  rw [apply_of_integers integral first second, applyIntegers_eq arithmetic]
  rcases refuses_front.mp refuses with ⟨rfl, zero⟩ | ⟨rfl, nonzero, outside⟩
  · rw [if_pos zero]
  · rw [if_neg nonzero, outside]
    rfl

theorem apply_exact (integral : kind.isInteger = true) (arithmetic : name ≠ .get)
    (first : left.asInteger? = some a) (second : right.asInteger? = some b)
    (fine : ∀ cause, ¬name.Refuses a.toInt (b.toInt :: integers.map Int128.toInt) 0 cause) :
    ∃ result, apply kind name left right = .ok (.integer result) ∧
      result.toInt = name.exact a.toInt b.toInt := by
  rw [apply_of_integers integral first second, applyIntegers_eq arithmetic]
  have nonzero : ¬(name = .divide ∧ b.toInt = 0) := fun zero =>
    fine _ (refuses_front.mpr (.inl ⟨rfl, zero⟩))
  rw [if_neg nonzero]
  cases held : Int128.ofInt? (name.exact a.toInt b.toInt) with
  | none => exact absurd (refuses_front.mpr (.inr ⟨rfl, nonzero, held⟩)) (fine _)
  | some result => exact ⟨result, rfl, Int128.ofInt?_eq_some.mp held⟩

theorem fold_cons_exact (integral : kind.isInteger = true) (arithmetic : name ≠ .get)
    (first : initial.asInteger? = some a) (second : right.asInteger? = some b)
    (fine : ∀ cause, ¬name.Refuses a.toInt (b.toInt :: integers.map Int128.toInt) 0 cause)
    (operands : List Value) :
    ∃ result, fold kind name initial (right :: operands) = fold kind name (.integer result) operands ∧
      result.toInt = name.exact a.toInt b.toInt := by
  rcases apply_exact integral arithmetic first second fine with ⟨result, applied, same⟩
  refine ⟨result, ?_, same⟩
  rw [fold, applied]
  rfl

theorem fold_integers (integral : kind.isInteger = true) (arithmetic : name ≠ .get)
    (read : List.Forall₂ (fun operand n => asInteger? operand = some n) operands integers)
    (fine : ∀ step < integers.length, ∀ cause,
      ¬name.Refuses a.toInt (integers.map Int128.toInt) step cause) :
    ∃ result, fold kind name (.integer a) operands = .ok (.integer result) ∧
      result.toInt = name.exactAfter a.toInt (integers.map Int128.toInt) integers.length := by
  induction read generalizing a with
  | nil => exact ⟨a, rfl, rfl⟩
  | @cons operand b operands integers second others ih =>
      have first := fine 0 (Nat.succ_pos _)
      rcases fold_cons_exact integral arithmetic (asInteger?_integer a) second first operands
        with ⟨middle, stepped, same⟩
      have behind : ∀ step < integers.length, ∀ cause,
          ¬name.Refuses middle.toInt (integers.map Int128.toInt) step cause := by
        intro step inside cause refuses
        rw [same] at refuses
        exact fine (step + 1) (Nat.succ_lt_succ inside) cause (refuses_behind.mpr refuses)
      rcases ih behind with ⟨result, folded, reached⟩
      refine ⟨result, stepped.trans folded, ?_⟩
      rw [reached, same]
      rfl

theorem fold_refused {step : Nat} {cause : Cause} (integral : kind.isInteger = true)
    (arithmetic : name ≠ .get)
    (read : List.Forall₂ (fun operand n => asInteger? operand = some n) operands integers)
    (inside : step < integers.length)
    (refuses : name.Refuses a.toInt (integers.map Int128.toInt) step cause)
    (earlier : ∀ before < step, ∀ other,
      ¬name.Refuses a.toInt (integers.map Int128.toInt) before other) :
    fold kind name (.integer a) operands = .error cause := by
  induction read generalizing a step with
  | nil => cases inside
  | @cons operand b operands integers second others ih =>
      cases step with
      | zero =>
          rw [fold, apply_refused integral arithmetic rfl second refuses]
          rfl
      | succ step =>
          have first := earlier 0 (Nat.succ_pos _)
          rcases fold_cons_exact integral arithmetic (asInteger?_integer a) second first operands
            with ⟨middle, stepped, same⟩
          rw [stepped]
          refine ih (Nat.lt_of_succ_lt_succ inside) ?_ ?_
          · rw [same]
            exact refuses_behind.mp refuses
          · intro before sooner other refused
            rw [same] at refused
            exact earlier (before + 1) (Nat.succ_lt_succ sooner) other (refuses_behind.mpr refused)

theorem fold_of_integer (integral : kind.isInteger = true) (first : initial.asInteger? = some a)
    (second : right.asInteger? = some b) (operands : List Value) :
    fold kind name initial (right :: operands) = fold kind name (.integer a) (right :: operands) := by
  rw [fold, fold, apply_of_integers integral first second, apply_of_integers integral rfl second]

/-- A fold of an integer kind over numbers that are integers is the fold of these without bounds. It
fails at the first step that divides by zero or leaves the integers of 128 bits, for just that
cause, and has the exact result if there is none. -/
theorem fold_exact (integral : kind.isInteger = true) (arithmetic : name ≠ .get)
    (first : initial.asInteger? = some a)
    (read : List.Forall₂ (fun operand n => asInteger? operand = some n) operands integers)
    (nonempty : operands ≠ []) :
    ((∀ step < operands.length, ∀ cause,
        ¬name.Refuses a.toInt (integers.map Int128.toInt) step cause) →
      ∃ result, fold kind name initial operands = .ok (.integer result) ∧
        result.toInt = name.exactAfter a.toInt (integers.map Int128.toInt) operands.length) ∧
    ∀ step < operands.length, ∀ cause,
      name.Refuses a.toInt (integers.map Int128.toInt) step cause →
      (∀ before < step, ∀ other,
        ¬name.Refuses a.toInt (integers.map Int128.toInt) before other) →
      fold kind name initial operands = .error cause := by
  have length := read.length_eq
  have whole : fold kind name initial operands = fold kind name (.integer a) operands := by
    cases read with
    | nil => exact absurd rfl nonempty
    | cons second others => exact fold_of_integer integral first second _
  rw [whole, length]
  refine ⟨fold_integers integral arithmetic read, ?_⟩
  intro step inside cause refuses earlier
  exact fold_refused integral arithmetic read inside refuses earlier

theorem fold_truncates_and_overflows :
    (∃ result, fold .i8 .divide (.integer { toInt := -7 }) [.float (.ofInt 2)] =
        .ok (.integer result) ∧ result.toInt = -3) ∧
      fold .u8 .divide (.integer { toInt := -2 ^ 127 })
        [.integer { toInt := 1 }, .integer { toInt := -1 }, .integer { toInt := 0 }] =
          .error .arithmeticOverflow := by
  constructor
  · have two : (Value.float (.ofInt 2)).asInteger? = some { toInt := 2 } := by
      decide +kernel
    have fine : ∀ step < 1, ∀ cause, ¬Refuses .divide (-7) [2] step cause := by
      intro step inside cause refuses
      obtain rfl : step = 0 := by omega
      rcases refuses_front.mp refuses with ⟨_, _, zero⟩ | ⟨_, _, outside⟩
      · exact absurd zero (by decide)
      · exact absurd outside (by decide)
    exact (@fold_exact .i8 .divide _ { toInt := -7 } _ [_] rfl nofun rfl (.cons two .nil)
      (List.cons_ne_nil _ _)).1 fine
  · have fine : ∀ before < 1, ∀ other, ¬Refuses .divide (-2 ^ 127) [1, -1, 0] before other := by
      intro before sooner other refuses
      obtain rfl : before = 0 := by omega
      rcases refuses_front.mp refuses with ⟨_, _, zero⟩ | ⟨_, _, outside⟩
      · exact absurd zero (by decide)
      · exact absurd outside (by decide)
    have past : Refuses .divide (-2 ^ 127) [1, -1, 0] 1 .arithmeticOverflow :=
      .overflow (by decide) (by decide)
    exact (@fold_exact .u8 .divide _ { toInt := -2 ^ 127 } _
      [{ toInt := 1 }, { toInt := -1 }, { toInt := 0 }] rfl nofun rfl
      (.cons rfl (.cons rfl (.cons rfl .nil))) (List.cons_ne_nil _ _)).2 1 (by decide) _ past fine

end Value
end LetLang
