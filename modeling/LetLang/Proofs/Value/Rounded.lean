import LetLang.Proofs.Value.Exact
import LetLang.Proofs.Variable.Sound

/-!
Folds of numbers in doubles. A step rounds unless it finds two integers, the number reached so far
and its operand. Where no step finds two, a fold is the one of the doubles; a step that does brings
the fold of an integer kind back to integers, whatever was rounded before it.
-/
namespace LetLang

def ActionName.rounded : ActionName → Binary64 → Binary64 → Binary64
  | add, x, y => x.add y
  | subtract, x, y => x.sub y
  | multiply, x, y => x.mul y
  | divide, x, y => x.div y
  | get, x, _ => x

namespace Value

def double (value : Value) : Binary64 := value.asFloat?.getD .nan

def roundedAfter (name : ActionName) (initial : Value) (operands : List Value) (steps : Nat) :
    Binary64 :=
  ((operands.take steps).map double).foldl name.rounded initial.double

/-- What a fold in doubles has reached before a step. The first step finds the value that the fold
starts with, which need not be a double. -/
def reached (name : ActionName) (initial : Value) (operands : List Value) : Nat → Value
  | 0 => initial
  | steps + 1 => .float (roundedAfter name initial operands (steps + 1))

structure FindsIntegers (name : ActionName) (initial : Value) (operands : List Value) (step : Nat)
    (found : Int128) : Prop where
  left : (reached name initial operands step).asInteger? = some found
  right : ∃ operand b, operands[step]? = some operand ∧ operand.asInteger? = some b

variable {kind : Kind} {name : ActionName} {left right initial operand : Value}
variable {operands : List Value} {step : Nat}

@[simp] theorem double_float (x : Binary64) : (float x).double = x := rfl

@[simp] theorem double_integer (n : Int128) : (integer n).double = .ofInt n.toInt := by
  rw [double, asFloat?, Option.getD_some]

theorem asFloat?_eq_double (number : left.IsNumber) : left.asFloat? = some left.double := by
  cases left with
  | integer n => rw [double_integer, asFloat?]
  | float x => rfl
  | _ => cases number

theorem eq_float_double (number : left.IsNumber) (fractional : left.asInteger? = none) :
    left = .float left.double := by
  cases left with
  | integer n => cases fractional
  | float x => rfl
  | _ => cases number

theorem applyFloats_eq (arithmetic : name ≠ .get) (x y : Binary64) :
    applyFloats name x y = .ok (.float (name.rounded x y)) := by
  cases name with
  | get => exact absurd rfl arithmetic
  | _ => rfl

theorem apply_rounded (arithmetic : name ≠ .get) (first : left.IsNumber) (second : right.IsNumber)
    (apart : ∀ a b, kind.isInteger = true → left.asInteger? = some a →
      right.asInteger? = some b → False) :
    apply kind name left right = .ok (.float (name.rounded left.double right.double)) := by
  unfold apply
  split
  · rename_i integral whole other
    exact (apart _ _ integral whole other).elim
  · rw [asFloat?_eq_double first, asFloat?_eq_double second]
    exact applyFloats_eq arithmetic _ _

theorem not_findsIntegers (fractional : ∀ {operand}, operands[step]? = some operand →
    operand.asInteger? = none) (found : Int128) :
    ¬FindsIntegers name initial operands step found := by
  intro finds
  obtain ⟨operand, b, here, whole⟩ := finds.right
  rw [fractional here] at whole
  cases whole

theorem double_reached (name : ActionName) (initial : Value) (operands : List Value) (step : Nat) :
    (reached name initial operands step).double = roundedAfter name initial operands step := by
  cases step with
  | zero => rfl
  | succ step => rfl

theorem isNumber_reached (number : initial.IsNumber) (name : ActionName) (operands : List Value)
    (step : Nat) : (reached name initial operands step).IsNumber := by
  cases step with
  | zero => exact number
  | succ step => trivial

theorem reached_succ (here : operands[step]? = some operand) :
    reached name initial operands (step + 1) =
      .float (name.rounded (reached name initial operands step).double operand.double) := by
  rw [double_reached, reached, roundedAfter, List.take_add_one, here]
  simp [roundedAfter]

theorem fold_reached (arithmetic : name ≠ .get) (number : initial.IsNumber)
    (numbers : ∀ operand ∈ operands, operand.IsNumber) (inside : step ≤ operands.length)
    (apart : ∀ before < step, ∀ found, ¬FindsIntegers name initial operands before found) :
    fold kind name initial operands =
      fold kind name (reached name initial operands step) (operands.drop step) := by
  -- The induction is on the steps, none of which finds two integers.
  induction step with
  | zero => rfl
  | succ step ih =>
      have here : operands[step]? = some operands[step] := List.getElem?_eq_getElem inside
      have rounds : apply kind name (reached name initial operands step) operands[step] =
          .ok (reached name initial operands (step + 1)) := by
        rw [reached_succ here]
        apply apply_rounded arithmetic (isNumber_reached number name operands step)
        · exact numbers _ (List.getElem_mem inside)
        · intro a b _ whole other
          exact apart step (Nat.lt_succ_self step) a ⟨whole, _, b, here, other⟩
      have earlier : ∀ before < step, ∀ found,
          ¬FindsIntegers name initial operands before found :=
        fun before sooner => apart before (Nat.lt_succ_of_lt sooner)
      calc
        _ = fold kind name (reached name initial operands step)
            (operands[step] :: operands.drop (step + 1)) := by
          rw [ih (Nat.le_of_succ_le inside) earlier, List.drop_eq_getElem_cons inside]
        _ = _ := by
          rw [fold, rounds]
          rfl

theorem reached_length (number : initial.IsNumber)
    (fractional : initial.asInteger? = none ∨ ∃ operand ∈ operands, operand.asInteger? = none) :
    reached name initial operands operands.length =
      .float ((operands.map double).foldl name.rounded initial.double) := by
  cases operands with
  | nil =>
      have alone : initial.asInteger? = none := by simpa using fractional
      exact eq_float_double number alone
  | cons operand operands =>
      rw [List.length_cons, reached, roundedAfter, ← List.length_cons, List.take_length]

/-- A fold of an integer kind over numbers of which not all are integers is the fold of the doubles
if no step finds two integers. The first step that does, though it may come behind a fraction, goes
on in integers as if nothing had been rounded. -/
theorem fold_rounded (integral : kind.isInteger = true) (arithmetic : name ≠ .get)
    (number : initial.IsNumber) (numbers : ∀ operand ∈ operands, operand.IsNumber)
    (fractional : initial.asInteger? = none ∨ ∃ operand ∈ operands, operand.asInteger? = none) :
    ((∀ step < operands.length, ∀ found, ¬FindsIntegers name initial operands step found) →
      fold kind name initial operands =
        .ok (.float ((operands.map double).foldl name.rounded initial.double))) ∧
    ∀ step found, FindsIntegers name initial operands step found →
      (∀ before < step, ∀ other, ¬FindsIntegers name initial operands before other) →
      fold kind name initial operands =
        fold kind name (.integer found) (operands.drop step) := by
  constructor
  · intro apart
    have whole := @fold_reached kind _ _ _ _ arithmetic number numbers (Nat.le_refl _) apart
    rw [whole, List.drop_length, reached_length number fractional, fold]
  · intro step found finds earlier
    obtain ⟨operand, b, here, second⟩ := finds.right
    obtain ⟨inside, same⟩ := List.getElem?_eq_some_iff.mp here
    have goesOn := @fold_reached kind _ _ _ _ arithmetic number numbers (Nat.le_of_lt inside)
      earlier
    rw [goesOn, List.drop_eq_getElem_cons inside, same]
    exact fold_of_integer integral finds.left second _

theorem fold_rounds_and_returns :
    fold .u8 .add (.integer { toInt := 1 })
        [.float (.ofScientific false 5 (-1)), .float (.ofScientific false 25 (-2))] =
          .ok (.float (.ofScientific false 175 (-2))) ∧
      fold .i32 .divide (.integer { toInt := 1 })
        [.float (.ofScientific false 5 (-1)), .integer { toInt := 0 }] =
          fold .i32 .divide (.integer { toInt := 2 }) [.integer { toInt := 0 }] := by
  have half : (Value.float (.ofScientific false 5 (-1))).asInteger? = none := by decide +kernel
  have quarter : (Value.float (.ofScientific false 25 (-2))).asInteger? = none := by
    decide +kernel
  -- The doubles are named, so that nothing evaluates them while terms are compared.
  generalize first : Binary64.ofScientific false 5 (-1) = x at half ⊢
  generalize second : Binary64.ofScientific false 25 (-2) = y at quarter ⊢
  constructor
  · have fractions : ∀ operand ∈ [Value.float x, .float y], operand.asInteger? = none := by
      simp [half, quarter]
    have total : ((Binary64.ofInt 1).add x).add y = .ofScientific false 175 (-2) := by
      rw [← first, ← second]
      decide +kernel
    have sum := (@fold_rounded .u8 .add (.integer { toInt := 1 }) [.float x, .float y] rfl
      (by decide) trivial (by simp [IsNumber]) (.inr ⟨_, List.mem_cons_self, half⟩)).1
    simp only [List.map_cons, List.map_nil, double_float, double_integer, List.foldl_cons,
      List.foldl_nil, ActionName.rounded, total] at sum
    apply sum
    intro step _ found
    exact not_findsIntegers (fun here => fractions _ (List.mem_of_getElem? here)) found
  · have two : (reached .divide (.integer { toInt := 1 }) [.float x, .integer { toInt := 0 }]
        1).asInteger? = some { toInt := 2 } := by
      rw [← first]
      decide +kernel
    have returns := (@fold_rounded .i32 .divide (.integer { toInt := 1 })
      [.float x, .integer { toInt := 0 }] rfl (by decide) trivial (by simp [IsNumber])
      (.inr ⟨_, List.mem_cons_self, half⟩)).2
    apply returns 1 _ ⟨two, _, _, rfl, rfl⟩
    intro before sooner other
    obtain rfl : before = 0 := by omega
    apply not_findsIntegers
    intro operand here
    obtain rfl : Value.float x = operand := Option.some.inj here
    exact half

/-- A double that is divided by zero is an infinity, and yet a zero is refused behind a fraction. -/
theorem not_rounded_behind_half :
    (Value.float (.ofScientific false 5 (-1))).asInteger? = none ∧
      ([Value.float (.ofScientific false 5 (-1)), .integer { toInt := 0 }].map double).foldl
        ActionName.divide.rounded (Value.integer { toInt := 1 }).double = .infinite false ∧
      fold .i32 .divide (.integer { toInt := 1 })
        [.float (.ofScientific false 5 (-1)), .integer { toInt := 0 }] =
          .error .divisionByZero := by
  have half : (Value.float (.ofScientific false 5 (-1))).asInteger? = none := by decide +kernel
  have limit : ([Value.float (.ofScientific false 5 (-1)), .integer { toInt := 0 }].map
      double).foldl ActionName.divide.rounded (Value.integer { toInt := 1 }).double =
        .infinite false := by
    decide +kernel
  have two : (Value.float (ActionName.divide.rounded (Value.integer { toInt := 1 }).double
      (Value.float (.ofScientific false 5 (-1))).double)).asInteger? = some { toInt := 2 } := by
    decide +kernel
  refine ⟨half, limit, ?_⟩
  generalize Binary64.ofScientific false 5 (-1) = x at half two ⊢
  have apart : ∀ a b, Kind.i32.isInteger = true →
      (Value.integer { toInt := 1 }).asInteger? = some a →
      (Value.float x).asInteger? = some b → False := by
    intro a b _ _ whole
    rw [half] at whole
    cases whole
  have rounds := @apply_rounded .i32 .divide (.integer { toInt := 1 }) (.float x) (by decide)
    trivial trivial apart
  generalize ActionName.divide.rounded (Value.integer { toInt := 1 }).double
    (Value.float x).double = y at two rounds
  calc
    _ = fold .i32 .divide (.float y) [.integer { toInt := 0 }] := by
      rw [fold, rounds]
      rfl
    _ = fold .i32 .divide (.integer { toInt := 2 }) [.integer { toInt := 0 }] :=
      fold_of_integer rfl two rfl []
    _ = .error .divisionByZero := rfl

end Value
end LetLang
