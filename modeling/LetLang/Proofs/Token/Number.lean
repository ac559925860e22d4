import LetLang.Proofs.Binary64.ReadBack
import LetLang.Proofs.Binary64.Rounding
import LetLang.Proofs.Token.Literal
import LetLang.Proofs.Value.Literal
import Mathlib.Data.List.Induction
import Mathlib.Data.Nat.Digits.Defs

/-!
What number tokens stand for, by the number that their digits denote. Digits alone are an integer
of 64 bits, or too large for the kind, or too large for an integer; with a point among them they are
the nearest double, or too large for a finite one.
-/
namespace LetLang

open Binary64 (NearestTo Pointed nearestRank nearestTo_places rankLimit)
open Lexeme (IsDigit Numeral isDigit_iff)

namespace Text

structure Digits (chars : List Char) : Prop where
  nonempty : chars ≠ []
  inside : ∀ c ∈ chars, IsDigit c

def denoted (digits : List Char) : Nat :=
  Nat.ofDigits 10 (digits.reverse.map fun c => c.toNat - '0'.toNat)

def decimal (whole fraction : List Char) : ℚ :=
  denoted whole + denoted fraction / 10 ^ fraction.length

theorem denoted_append_singleton (digits : List Char) (c : Char) :
    denoted (digits ++ [c]) = 10 * denoted digits + (c.toNat - '0'.toNat) := by
  rw [denoted, List.reverse_append, List.reverse_singleton, List.singleton_append, List.map_cons,
    Nat.ofDigits_cons, Nat.add_comm]
  rfl

theorem ofDigitChars_eq_denoted (digits : List Char) :
    Nat.ofDigitChars 10 digits 0 = denoted digits := by
  -- The digits are read from the first to the last, so the induction takes them off behind.
  induction digits using List.reverseRecOn with
  | nil => rfl
  | append_singleton digits c ih =>
      rw [Nat.ofDigitChars_append, ih, Nat.ofDigitChars_cons, Nat.ofDigitChars_nil,
        denoted_append_singleton]

theorem denoted_append (whole fraction : List Char) :
    denoted (whole ++ fraction) = denoted whole * 10 ^ fraction.length + denoted fraction := by
  rw [denoted, List.reverse_append, List.map_append, Nat.ofDigits_append, List.length_map,
    List.length_reverse, Nat.add_comm, Nat.mul_comm]
  rfl

theorem decimal_eq (whole fraction : List Char) :
    decimal whole fraction =
      (Nat.ofDigitChars 10 (whole ++ fraction) 0 : ℚ) / 10 ^ fraction.length := by
  have scale : (10 : ℚ) ^ fraction.length ≠ 0 := pow_ne_zero _ (by norm_num)
  rw [ofDigitChars_eq_denoted, denoted_append, Nat.cast_add, Nat.cast_mul, Nat.cast_pow,
    Nat.cast_ofNat, add_div, mul_div_cancel_right₀ _ scale, decimal]

end Text

open Text (Digits decimal denoted)

variable {text : String} {whole fraction : List Char} {token : Token} {n : Int128}

namespace Text.Digits

theorem pointless (written : Digits text.toList) : '.' ∉ text.toList :=
  point_not_mem_of_digits fun c member => isDigit_iff.mpr (written.inside c member)

theorem kind (written : Digits text.toList) : Kind.ofNumericText text = .i64 := by
  rw [Kind.ofNumericText, if_neg (written.pointless ∘ List.contains_iff_mem.mp)]

theorem ofText? (written : Digits text.toList) :
    Int128.ofText? text = Int128.ofInt? (denoted text.toList) := by
  have natural : natural? text.toList = some (denoted text.toList) := by
    have all : text.toList.all Char.isDigit = true :=
      List.all_eq_true.mpr fun c member => isDigit_iff.mpr (written.inside c member)
    rw [natural?, all, List.isEmpty_eq_false_iff.mpr written.nonempty, ← ofDigitChars_eq_denoted]
    rfl
  rw [Int128.ofText?_of_numeral (.whole written.nonempty written.inside), Int128.ofDigits?, natural,
    Option.bind_eq_bind, Option.bind_some, if_neg Bool.false_ne_true]

theorem ofNumericLiteral (written : Digits text.toList) (same : n.toInt = denoted text.toList) :
    Value.ofNumericLiteral text = .ok (.integer n) := by
  refine Value.ofNumericLiteral_of_whole written.pointless ?_
  rw [written.ofText?]
  exact Int128.ofInt?_eq_some.mpr same

theorem literal_small (written : Digits token.value.toList) (number : token.kind = .number)
    (same : n.toInt = denoted token.value.toList) (small : denoted token.value.toList < 2 ^ 63) :
    token.literal = .ok ⟨none, .i64, some (.integer n), Action.number⟩ := by
  have fits : (Kind.ofNumericText token.value).accepts (.integer n) = true := by
    rw [written.kind, Kind.accepts_i64_integer]
    omega
  rw [Token.literal_of_accepts number (written.ofNumericLiteral same) fits, written.kind]
  rfl

theorem literal_large (written : Digits token.value.toList) (number : token.kind = .number)
    (same : n.toInt = denoted token.value.toList) (large : 2 ^ 63 ≤ denoted token.value.toList) :
    token.literal =
      .error ⟨.valueKindMismatch (toString (denoted token.value.toList)) "i64", token.start⟩ := by
  have misfits : ¬(Kind.ofNumericText token.value).accepts (.integer n) = true := by
    rw [written.kind, Kind.accepts_i64_integer]
    omega
  have text : (Value.integer n).text = toString (denoted token.value.toList) :=
    congrArg toString same
  rw [Token.literal_of_not_accepts number (written.ofNumericLiteral same) misfits, written.kind,
    text]
  rfl

theorem literal_huge (written : Digits token.value.toList) (number : token.kind = .number)
    (huge : 2 ^ 127 ≤ denoted token.value.toList) :
    token.literal = .error ⟨.malformedNumber token.value, token.start⟩ := by
  have unread : Int128.ofText? token.value = none := by
    rw [written.ofText?]
    exact Int128.ofInt?_eq_none.mpr (.inr (by exact_mod_cast huge))
  exact Token.literal_of_unread number (Value.ofNumericLiteral_of_unread written.pointless unread)

theorem outcome (written : Digits token.value.toList) (number : token.kind = .number) :
    (denoted token.value.toList < 2 ^ 63 ∧ ∃ n : Int128, n.toInt = denoted token.value.toList ∧
        token.literal = .ok ⟨none, .i64, some (.integer n), Action.number⟩) ∨
      (2 ^ 63 ≤ denoted token.value.toList ∧ denoted token.value.toList < 2 ^ 127 ∧
        token.literal =
          .error ⟨.valueKindMismatch (toString (denoted token.value.toList)) "i64", token.start⟩) ∨
        2 ^ 127 ≤ denoted token.value.toList ∧
          token.literal = .error ⟨.malformedNumber token.value, token.start⟩ := by
  by_cases huge : 2 ^ 127 ≤ denoted token.value.toList
  · exact .inr (.inr ⟨huge, written.literal_huge number huge⟩)
  · have lower : -2 ^ 127 ≤ (denoted token.value.toList : Int) := by omega
    have upper : (denoted token.value.toList : Int) < 2 ^ 127 := by omega
    have same : (⟨_, lower, upper⟩ : Int128).toInt = denoted token.value.toList := rfl
    by_cases small : denoted token.value.toList < 2 ^ 63
    · exact .inl ⟨small, _, same, written.literal_small number same small⟩
    · have large := Nat.not_lt.mp small
      exact .inr (.inl ⟨large, Nat.not_le.mp huge, written.literal_large number same large⟩)

end Text.Digits

namespace Binary64.Pointed

theorem point (split : Pointed text.toList whole fraction) : '.' ∈ text.toList := by
  rw [split.text]
  exact List.mem_append_right _ List.mem_cons_self

theorem kind (split : Pointed text.toList whole fraction) : Kind.ofNumericText text = .f64 := by
  rw [Kind.ofNumericText, if_pos (List.contains_iff_mem.mpr split.point)]

theorem ofText?_round (split : Pointed text.toList whole fraction) :
    Binary64.ofText? text = some (round false
      (Nat.ofDigitChars 10 (whole ++ fraction) 0 * 2 ^ 1074) (Nat.pow 10 fraction.length)) := by
  have unsigned : String.ofList (signChars false ++ text.toList) = text := String.ofList_toList
  rw [← ofScientific_places, ← split.ofText? false, unsigned]

theorem ofNumericLiteral_finite (split : Pointed text.toList whole fraction)
    {rank : Fin rankLimit} (near : NearestTo (decimal whole fraction) rank) :
    Value.ofNumericLiteral text = .ok (.float (.finite false rank)) := by
  refine Value.ofNumericLiteral_of_point split.point ?_
  rw [Text.decimal_eq] at near
  rw [split.ofText?_round, round_of_nearest false ((nearestTo_places _ _).unique near)]

theorem ofNumericLiteral_infinite (split : Pointed text.toList whole fraction)
    (far : ∀ rank : Fin rankLimit, ¬NearestTo (decimal whole fraction) rank) :
    Value.ofNumericLiteral text = .ok (.float (.infinite false)) := by
  refine Value.ofNumericLiteral_of_point split.point ?_
  have near := nearestTo_places (Nat.ofDigitChars 10 (whole ++ fraction) 0) fraction.length
  rw [← Text.decimal_eq] at near
  rw [split.ofText?_round, round_of_past false (Nat.not_lt.mp fun bound => far ⟨_, bound⟩ near)]

theorem literal_finite (split : Pointed token.value.toList whole fraction)
    (number : token.kind = .number) {rank : Fin rankLimit}
    (near : NearestTo (decimal whole fraction) rank) :
    token.literal = .ok ⟨none, .f64, some (.float (.finite false rank)), Action.number⟩ := by
  have fits : (Kind.ofNumericText token.value).accepts (.float (.finite false rank)) = true := by
    rw [split.kind]
    exact Kind.accepts_f64_float rfl
  rw [Token.literal_of_accepts number (split.ofNumericLiteral_finite near) fits, split.kind]
  rfl

theorem literal_infinite (split : Pointed token.value.toList whole fraction)
    (number : token.kind = .number)
    (far : ∀ rank : Fin rankLimit, ¬NearestTo (decimal whole fraction) rank) :
    token.literal = .error ⟨.valueKindMismatch "inf" "f64", token.start⟩ := by
  have misfits : ¬(Kind.ofNumericText token.value).accepts (.float (.infinite false)) = true := by
    rw [split.kind]
    decide
  rw [Token.literal_of_not_accepts number (split.ofNumericLiteral_infinite far) misfits, split.kind]
  rfl

end Binary64.Pointed

namespace Token

/-- Leading zeros count toward neither bound, and digits around a point are always a number. What is
refused is refused at the start of the token. -/
theorem literal_number_iff (number : token.kind = .number) :
    (Digits token.value.toList →
      ((∃ n : Int128, n.toInt = denoted token.value.toList ∧
          token.literal = .ok ⟨none, .i64, some (.integer n), Action.number⟩) ↔
        denoted token.value.toList ≤ 2 ^ 63 - 1) ∧
      (token.literal =
          .error ⟨.valueKindMismatch (toString (denoted token.value.toList)) "i64", token.start⟩ ↔
        2 ^ 63 ≤ denoted token.value.toList ∧ denoted token.value.toList ≤ 2 ^ 127 - 1) ∧
      (token.literal = .error ⟨.malformedNumber token.value, token.start⟩ ↔
        2 ^ 127 ≤ denoted token.value.toList)) ∧
    ∀ whole fraction, Pointed token.value.toList whole fraction →
      (∀ text position, token.literal ≠ .error ⟨.malformedNumber text, position⟩) ∧
      (∀ made, token.literal = .ok made ↔
        ∃ rank : Fin rankLimit, NearestTo (decimal whole fraction) rank ∧
          made = ⟨none, .f64, some (.float (.finite false rank)), Action.number⟩) ∧
      ∀ error, token.literal = .error error ↔
        error = ⟨.valueKindMismatch "inf" "f64", token.start⟩ ∧
          ∀ rank : Fin rankLimit, ¬NearestTo (decimal whole fraction) rank := by
  refine ⟨fun written => ?_, fun whole fraction split => ?_⟩
  · rcases written.outcome number with ⟨small, n, same, made⟩ | ⟨large, fits, made⟩ | ⟨huge, made⟩
    · rw [made]
      exact ⟨iff_of_true ⟨n, same, rfl⟩ (by omega), iff_of_false nofun (by omega),
        iff_of_false nofun (by omega)⟩
    · rw [made]
      exact ⟨iff_of_false (fun ⟨_, _, taken⟩ => nomatch taken) (by omega),
        iff_of_true rfl (by omega), iff_of_false nofun (by omega)⟩
    · rw [made]
      exact ⟨iff_of_false (fun ⟨_, _, taken⟩ => nomatch taken) (by omega),
        iff_of_false nofun (by omega), iff_of_true rfl huge⟩
  · by_cases near : ∃ rank : Fin rankLimit, NearestTo (decimal whole fraction) rank
    · rcases near with ⟨rank, near⟩
      rw [split.literal_finite number near]
      refine ⟨nofun, fun made => ?_, fun error => ?_⟩
      · constructor
        · rintro ⟨⟩
          exact ⟨rank, near, rfl⟩
        · rintro ⟨other, nearest, rfl⟩
          rw [Fin.ext (near.unique nearest)]
      · exact iff_of_false nofun fun refused => refused.2 rank near
    · have far := not_exists.mp near
      rw [split.literal_infinite number far]
      refine ⟨nofun, fun made => ?_, fun error => ?_⟩
      · exact iff_of_false nofun fun ⟨rank, nearest, _⟩ => far rank nearest
      · constructor
        · rintro ⟨⟩
          exact ⟨rfl, far⟩
        · rintro ⟨rfl, _⟩
          rfl

theorem literal_large_and_tenth :
    Digits "009223372036854775808".toList ∧
      literal ⟨.number, "009223372036854775808", ⟨⟨8, "a"⟩, ⟨29, "a"⟩⟩⟩ =
        .error ⟨.valueKindMismatch "9223372036854775808" "i64", ⟨8, "a"⟩⟩ ∧
      Pointed "0.1".toList ['0'] ['1'] ∧
      literal ⟨.number, "0.1", ⟨⟨8, "a"⟩, ⟨11, "a"⟩⟩⟩ =
        .ok ⟨none, .f64, some (.float (.finite false ⟨0x3FB999999999999A, by decide⟩)),
          Action.number⟩ := by
  have written : Digits "009223372036854775808".toList :=
    ⟨by decide, fun c member => isDigit_iff.mp (List.all_eq_true.mp rfl c member)⟩
  have large : denoted "009223372036854775808".toList = 2 ^ 63 := by decide
  have split : Pointed "0.1".toList ['0'] ['1'] := ⟨rfl, List.cons_ne_nil _ _,
    List.forall_mem_singleton.mpr rfl, List.forall_mem_singleton.mpr rfl⟩
  have near : NearestTo (decimal ['0'] ['1']) 0x3FB999999999999A := by
    have tenth : nearestRank (1 * 2 ^ 1074) (Nat.pow 10 1) = 0x3FB999999999999A := by decide +kernel
    rw [Text.decimal_eq, ← tenth]
    exact nearestTo_places 1 1
  refine ⟨written, ?_, split, ?_⟩
  · refine ((@literal_number_iff ⟨.number, "009223372036854775808", ⟨⟨8, "a"⟩, ⟨29, "a"⟩⟩⟩ rfl).1
      written).2.1.mpr ?_
    show 2 ^ 63 ≤ denoted "009223372036854775808".toList ∧ _
    rw [large]
    decide
  · refine (((@literal_number_iff ⟨.number, "0.1", ⟨⟨8, "a"⟩, ⟨11, "a"⟩⟩⟩ rfl).2
      _ _ split).2.1 _).mpr ?_
    exact ⟨⟨0x3FB999999999999A, by decide⟩, near, rfl⟩

end Token

end LetLang
