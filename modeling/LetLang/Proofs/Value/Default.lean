import LetLang.Proofs.Variable.Sound

/-!
The kind that a value has by itself. A number goes by its text, which has a point where it is a
double, and the kind takes every value that a variable can hold but the integers past 64 signed
bits.
-/
namespace LetLang

/-- An integer that the kind of the numbers without a point does not reach. -/
def Value.Oversized (value : Value) : Prop := ∃ n, value = .integer n ∧ 2 ^ 63 ≤ n.toInt

namespace Text

theorem point_not_mem_of_digits {chars : List Char} (digits : ∀ c ∈ chars, c.isDigit = true) :
    '.' ∉ chars := by
  intro member
  have digit := digits '.' member
  cases digit

theorem toList_toString_negSucc (m : Nat) :
    (toString (Int.negSucc m)).toList = '-' :: Nat.toDigits 10 (m + 1) := by
  rw [show toString (Int.negSucc m) = "-" ++ Nat.repr (m + 1) from rfl, String.toList_append,
    Nat.toList_repr]
  rfl

theorem point_not_mem_toString (n : Int) : '.' ∉ (toString n).toList := by
  have absolute : ∀ m, '.' ∉ Nat.toDigits 10 m := fun m =>
    point_not_mem_of_digits fun _ member =>
      Nat.isDigit_of_mem_toDigits (by decide) (by decide) member
  cases n with
  | ofNat m =>
      have written : (toString (Int.ofNat m)).toList = Nat.toDigits 10 m := Nat.toList_repr
      rw [written]
      exact absolute m
  | negSucc m =>
      rw [toList_toString_negSucc, List.mem_cons]
      exact not_or.mpr ⟨by decide, absolute (m + 1)⟩

end Text

namespace Binary64

open Decimal (pointed positional)

theorem point_mem_positional (x : Decimal) : '.' ∈ x.positional := by
  rw [positional]
  split
  · simp [pointed]
  · simp

theorem point_mem_text {x : Binary64} (finite : x.isFinite = true) : '.' ∈ x.text.toList := by
  cases x with
  | finite negative rank =>
      rw [text, String.toList_ofList, List.mem_append]
      right
      exact iteInduction (motive := ('.' ∈ ·))
        (fun _ => List.mem_append_right _ List.mem_cons_self) fun _ => point_mem_positional _
  | infinite negative => cases finite
  | nan => cases finite

theorem le_greatest_of_isFinite {x : Binary64} (finite : x.isFinite = true) :
    (greatest true).le x = true ∧ x.le (greatest false) = true := by
  cases x with
  | finite negative rank =>
      have bound := rank.isLt
      unfold rankLimit at bound
      cases negative with
      | true => simp [le, place?, greatest]; omega
      | false => simp [le, place?, greatest]; omega
  | infinite negative => cases finite
  | nan => cases finite

end Binary64

namespace Kind

theorem ofNumericText_toString (n : Int) : ofNumericText (toString n) = .i64 := by
  rw [ofNumericText, if_neg]
  simpa using Text.point_not_mem_toString n

theorem ofNumericText_text {x : Binary64} (finite : x.isFinite = true) :
    ofNumericText x.text = .f64 := by
  rw [ofNumericText, if_pos]
  simpa using Binary64.point_mem_text finite

theorem ofValue_integer (n : Int128) : ofValue (.integer n) = .i64 :=
  ofNumericText_toString n.toInt

theorem ofValue_float {x : Binary64} (finite : x.isFinite = true) : ofValue (.float x) = .f64 :=
  ofNumericText_text finite

theorem accepts_i64_integer (n : Int128) :
    i64.accepts (.integer n) = true ↔ -2 ^ 63 ≤ n.toInt ∧ n.toInt < 2 ^ 63 := by
  have bounds : i64.accepts (.integer n) = true ↔ -2 ^ 63 ≤ n.toInt ∧ n.toInt ≤ 2 ^ 63 - 1 := by
    simp only [accepts, bounds?, Value.asInteger?_integer, Bool.and_eq_true, decide_eq_true_eq]
    rfl
  rw [bounds]
  omega

theorem accepts_f64_float {x : Binary64} (finite : x.isFinite = true) :
    f64.accepts (.float x) = true := by
  simp only [accepts, bounds?, Value.asFloat?_float, Bool.and_eq_true]
  exact Binary64.le_greatest_of_isFinite finite

theorem least_le {kind : Kind} {least greatest : Int128}
    (bounds : kind.bounds? = some (.integer least greatest)) : -2 ^ 63 ≤ least.toInt := by
  cases kind with
  | f32 | f64 | string | bool | char | object => cases bounds
  | _ =>
      cases bounds
      decide

theorem greatest_lt {kind : Kind} {least greatest : Int128}
    (bounds : kind.bounds? = some (.integer least greatest)) (other : kind ≠ .u64) :
    greatest.toInt < 2 ^ 63 := by
  cases kind with
  | u64 => exact absurd rfl other
  | f32 | f64 | string | bool | char | object => cases bounds
  | _ =>
      cases bounds
      decide

variable {kind : Kind} {value : Value}

/-- A value that a variable can hold is an integer above every lower bound, a finite double, or no
number at all. -/
theorem Holds.cases (held : kind.Holds value) :
    (∃ n, value = .integer n ∧ -2 ^ 63 ≤ n.toInt) ∨
      (∃ x, value = .float x ∧ x.isFinite = true) ∨
        (ofValue value).bounds? = none ∧ (ofValue value).accepts value = true := by
  unfold Holds at held
  split at held
  · rename_i bounds
    rcases held with ⟨n, rfl, above, _⟩
    exact .inl ⟨n, rfl, Int.le_trans (least_le bounds) above⟩
  · rcases held with ⟨x, rfl, finite, _⟩
    exact .inr (.inl ⟨x, rfl, finite⟩)
  · right
    right
    split at held
    all_goals
      rcases held with ⟨_, rfl⟩
      exact ⟨rfl, rfl⟩

theorem Holds.kind_of_oversized (held : kind.Holds value) (oversized : value.Oversized) :
    kind = .u64 := by
  rcases oversized with ⟨n, rfl, past⟩
  unfold Holds at held
  split at held
  · rename_i bounds
    rcases held with ⟨_, ⟨⟩, _, below⟩
    refine Decidable.byContradiction fun other => ?_
    exact absurd (Int.lt_of_le_of_lt below (greatest_lt bounds other)) (Int.not_lt.mpr past)
  · rcases held with ⟨_, ⟨⟩, _⟩
  · split at held
    all_goals rcases held with ⟨_, ⟨⟩⟩

/-- The kind of a held value takes it, but for the integers that are too large. -/
theorem accepts_ofValue (held : kind.Holds value) :
    (ofValue value).accepts value = true ↔ ¬value.Oversized := by
  rcases held.cases with ⟨n, rfl, low⟩ | ⟨x, rfl, finite⟩ | ⟨unbounded, fits⟩
  · rw [ofValue_integer, accepts_i64_integer]
    constructor
    · rintro within ⟨_, ⟨⟩, past⟩
      omega
    · intro reached
      exact ⟨low, Int.not_le.mp fun past => reached ⟨n, rfl, past⟩⟩
  · rw [ofValue_float finite]
    refine iff_of_true (accepts_f64_float finite) ?_
    rintro ⟨_, ⟨⟩, _⟩
  · refine iff_of_true fits ?_
    rintro ⟨n, rfl, _⟩
    rw [ofValue_integer] at unbounded
    cases unbounded

theorem normalise_ofValue (held : kind.Holds value) : (ofValue value).normalise value = value := by
  rcases held.cases with ⟨n, rfl, _⟩ | ⟨x, rfl, finite⟩ | ⟨unbounded, _⟩
  · rw [ofValue_integer]
    rfl
  · rw [ofValue_float finite]
    rfl
  · rw [normalise, unbounded]

end Kind
end LetLang
