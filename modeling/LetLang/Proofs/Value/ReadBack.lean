import LetLang.Proofs.Binary64.ReadBack
import LetLang.Proofs.Value.Literal

/-!
The text of a number is read as that number, whether it is any integer of 128 bits or any finite
double: a point in the text says which of the two was written.
-/
namespace LetLang.Value

inductive FiniteNumber : Value → Prop where
  | integer (n : Int128) : FiniteNumber (.integer n)
  | float {x : Binary64} (finite : x.isFinite = true) : FiniteNumber (.float x)

/-- The sign comes first, so that the least integer is read too, whose magnitude alone would not
fit. -/
theorem ofNumericLiteral_integer (n : Int128) :
    ofNumericLiteral (toString n.toInt) = .ok (.integer n) := by
  cases sign : n.toInt with
  | ofNat m => exact ofNumericLiteral_toString sign
  | negSucc m =>
      refine ofNumericLiteral_of_whole (Text.point_not_mem_toString _) ?_
      rw [Int128.ofText?, Text.toList_toString_negSucc]
      exact Option.bind_eq_some_iff.mpr
        ⟨m + 1, Text.natural?_toDigits (m + 1), Int128.ofInt?_eq_some.mpr sign⟩

/-- The point is written for the doubles alone, and a number is read as what was written: for a
double its sign as well as its magnitude. -/
theorem ofNumericLiteral_text {value : Value} (number : value.FiniteNumber) :
    ('.' ∈ value.text.toList ↔ ∃ x, value = .float x) ∧
      ofNumericLiteral value.text = .ok value := by
  cases number with
  | integer n =>
      refine ⟨iff_of_false (Text.point_not_mem_toString n.toInt) ?_, ofNumericLiteral_integer n⟩
      rintro ⟨_, ⟨⟩⟩
  | @float x finite =>
      have point : '.' ∈ x.text.toList := Binary64.point_mem_text finite
      exact ⟨iff_of_true point ⟨x, rfl⟩,
        ofNumericLiteral_of_point point (Binary64.ofText?_text finite)⟩

theorem ofNumericLiteral_text_extremes :
    (integer ⟨-2 ^ 127, by decide, by decide⟩).FiniteNumber ∧
      ofNumericLiteral "-170141183460469231731687303715884105728" =
        .ok (integer ⟨-2 ^ 127, by decide, by decide⟩) ∧
      (float (.zero true)).FiniteNumber ∧ '.' ∈ "-0.0".toList ∧
      ofNumericLiteral "-0.0" = .ok (float (.zero true)) := by
  have least := FiniteNumber.integer ⟨-2 ^ 127, by decide, by decide⟩
  have zero : (float (.zero true)).FiniteNumber := .float rfl
  have written : (float (.zero true)).text = "-0.0" := by decide +kernel
  refine ⟨least, (ofNumericLiteral_text least).2, zero, ?_, ?_⟩
  · exact written ▸ (ofNumericLiteral_text zero).1.mpr ⟨_, rfl⟩
  · exact written ▸ (ofNumericLiteral_text zero).2

end LetLang.Value
