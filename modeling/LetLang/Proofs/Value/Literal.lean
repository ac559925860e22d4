import LetLang.Proofs.Lexeme.Printed
import LetLang.Proofs.Value.Default

/-!
The values of number literals. A literal goes by the kind of its spelling before any other kind is
asked, and that kind takes what another one takes, but for the integers that are too large.
-/
namespace LetLang

open Lexeme (IsDigit Numeral)

variable {text : String} {kind : Kind} {value : Value}

namespace Int128

theorem ofText?_of_numeral (numeral : Numeral text.toList) :
    ofText? text = ofDigits? false text.toList := by
  rcases numeral.opens with ⟨c, others, whole, digit⟩
  have unsigned : c ≠ '-' ∧ c ≠ '+' := by
    constructor
    all_goals
      rintro rfl
      simp [IsDigit] at digit
  rw [ofText?, whole]
  split
  · rename_i first
    exact absurd (List.cons.inj first).1 unsigned.1
  · rename_i first
    exact absurd (List.cons.inj first).1 unsigned.2
  · rfl

theorem nonneg_of_numeral {n : Int128} (numeral : Numeral text.toList)
    (read : ofText? text = some n) : 0 ≤ n.toInt := by
  rw [ofText?_of_numeral numeral] at read
  rcases Option.bind_eq_some_iff.mp read with ⟨m, _, made⟩
  rw [ofInt?_eq_some.mp made]
  exact Int.natCast_nonneg m

end Int128

namespace Value

theorem ofNumericLiteral_cases (read : ofNumericLiteral text = .ok value) :
    (∃ n, value = .integer n ∧ Int128.ofText? text = some n ∧ Kind.ofNumericText text = .i64) ∨
      ∃ x, value = .float x ∧ Kind.ofNumericText text = .f64 := by
  rw [ofNumericLiteral] at read
  rw [Kind.ofNumericText]
  by_cases point : text.toList.contains '.' = true
  · rw [if_pos point] at read
    cases made : Binary64.ofText? text with
    | none => simp [made] at read
    | some x =>
        simp only [made, Option.map_some, Except.ok.injEq] at read
        exact .inr ⟨x, read.symm, if_pos point⟩
  · rw [if_neg point] at read
    cases made : Int128.ofText? text with
    | none => simp [made] at read
    | some n =>
        simp only [made, Option.map_some, Except.ok.injEq] at read
        exact .inl ⟨n, read.symm, rfl, if_neg point⟩

theorem ofNumericLiteral_of_point {x : Binary64} (point : '.' ∈ text.toList)
    (read : Binary64.ofText? text = some x) : ofNumericLiteral text = .ok (.float x) := by
  rw [ofNumericLiteral, if_pos (List.contains_iff_mem.mpr point), read]
  rfl

theorem ofNumericLiteral_of_whole {n : Int128} (whole : '.' ∉ text.toList)
    (read : Int128.ofText? text = some n) : ofNumericLiteral text = .ok (.integer n) := by
  rw [ofNumericLiteral, if_neg (whole ∘ List.contains_iff_mem.mp), read]
  rfl

theorem ofNumericLiteral_of_unread (whole : '.' ∉ text.toList)
    (unread : Int128.ofText? text = none) :
    ofNumericLiteral text = .error (.malformedNumber text) := by
  rw [ofNumericLiteral, if_neg (whole ∘ List.contains_iff_mem.mp), unread]
  rfl

theorem toList_toString (n : Nat) : (toString n).toList = Nat.toDigits 10 n := Nat.toList_repr

theorem numeral_toString (n : Nat) : Numeral (toString n).toList := by
  rw [toList_toString]
  refine .whole Nat.toDigits_ne_nil fun c member => ?_
  exact Lexeme.isDigit_iff.mp (Nat.isDigit_of_mem_toDigits (by decide) (by decide) member)

theorem ofNumericLiteral_toString {n : Nat} {m : Int128} (same : m.toInt = n) :
    ofNumericLiteral (toString n) = .ok (.integer m) := by
  refine ofNumericLiteral_of_whole (Text.point_not_mem_toString n) ?_
  rw [Int128.ofText?_of_numeral (numeral_toString n), toList_toString]
  exact Option.bind_eq_some_iff.mpr
    ⟨n, Text.natural?_toDigits n, Int128.ofInt?_eq_some.mpr same⟩

end Value

namespace Kind

theorem isFinite_of_accepts {x : Binary64} (fits : kind.accepts (.float x) = true) :
    x.isFinite = true := by
  unfold accepts at fits
  split at fits
  · cases x with
    | finite negative rank => rfl
    | infinite negative => cases fits
    | nan => cases fits
  · rename_i bounds
    have ends := isFinite_bounds bounds
    have within := Bool.and_eq_true_iff.mp fits
    exact Binary64.isFinite_of_le ends.1 ends.2 within.1 within.2
  · rename_i unbounded
    cases kind with
    | string | bool | char | object => cases fits
    | _ => cases unbounded

theorem accepts_integer {least greatest n : Int128}
    (bounds : kind.bounds? = some (.integer least greatest)) :
    kind.accepts (.integer n) = true ↔ least ≤ n ∧ n ≤ greatest := by
  simp only [accepts, bounds, Value.asInteger?_integer, Bool.and_eq_true, decide_eq_true_eq]

theorem least_nonpos {least greatest : Int128}
    (bounds : kind.bounds? = some (.integer least greatest)) : least.toInt ≤ 0 := by
  cases kind with
  | f32 | f64 | string | bool | char | object => cases bounds
  | _ =>
      cases bounds
      decide

/-- A number that some kind accepts is accepted by the kind of its spelling, unless it is too large
for it. -/
theorem accepts_ofNumericText (numeral : Numeral text.toList)
    (read : Value.ofNumericLiteral text = .ok value) (fits : kind.accepts value = true) :
    (ofNumericText text).accepts value = true ↔ ¬value.Oversized := by
  rcases Value.ofNumericLiteral_cases read with ⟨n, rfl, digits, whole⟩ | ⟨x, rfl, point⟩
  · have sign := Int128.nonneg_of_numeral numeral digits
    rw [whole, accepts_i64_integer]
    constructor
    · rintro within ⟨_, ⟨⟩, past⟩
      omega
    · intro reached
      exact ⟨by omega, Int.not_le.mp fun past => reached ⟨n, rfl, past⟩⟩
  · rw [point]
    refine iff_of_true (accepts_f64_float (isFinite_of_accepts fits)) ?_
    rintro ⟨_, ⟨⟩, _⟩

theorem normalise_ofNumericText (read : Value.ofNumericLiteral text = .ok value) :
    (ofNumericText text).normalise value = value := by
  rcases Value.ofNumericLiteral_cases read with ⟨n, rfl, _, whole⟩ | ⟨x, rfl, point⟩
  · rw [whole]
    rfl
  · rw [point]
    rfl

end Kind

end LetLang
