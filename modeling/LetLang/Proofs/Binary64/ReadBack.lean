import LetLang.Proofs.Binary64.Written

/-!
The text of a finite double is read as that double, sign and all: the exact digits of a whole one as
well as the shortest digits of any other.
-/
namespace LetLang.Binary64

variable {chars whole fraction : List Char}

theorem Pointed.ofUnsigned? (split : Pointed chars whole fraction) (negative : Bool) :
    ofUnsigned? negative chars = some (ofScientific negative
      (Nat.ofDigitChars 10 (whole ++ fraction) 0) (-(fraction.length : Int))) := by
  have before : Text.cut Char.isDigit (whole ++ '.' :: fraction) = (whole, '.' :: fraction) :=
    cut_digits split.digits (by simp)
  have behind : Text.cut Char.isDigit fraction = (fraction, []) := by
    simpa using @cut_digits fraction [] split.decimals nofun
  have some : whole.isEmpty = false := by simpa using split.nonempty
  rw [split.text, Binary64.ofUnsigned?, before]
  simp [behind, some]

theorem ofText?_unsigned {c : Char} {others : List Char} (digit : c.isDigit = true) :
    ofText? (String.ofList (c :: others)) = ofUnsigned? false (c :: others) := by
  rw [Binary64.ofText?, String.toList_ofList]
  split
  · rename_i sign
    cases sign
    cases digit
  · rename_i sign
    cases sign
    cases digit
  · rfl

theorem Pointed.ofText? (split : Pointed chars whole fraction) (negative : Bool) :
    ofText? (String.ofList (signChars negative ++ chars)) = some (ofScientific negative
      (Nat.ofDigitChars 10 (whole ++ fraction) 0) (-(fraction.length : Int))) := by
  rw [← split.ofUnsigned? negative]
  cases negative with
  | true =>
      show Binary64.ofText? (String.ofList ('-' :: chars)) = _
      rw [Binary64.ofText?, String.toList_ofList]
      rfl
  | false =>
      rcases List.exists_cons_of_ne_nil split.nonempty with ⟨c, others, rfl⟩
      show Binary64.ofText? (String.ofList chars) = _
      rw [split.text]
      exact ofText?_unsigned (split.digits c List.mem_cons_self)

theorem ofDigitChars_places (n : Nat) {places : Nat} (short : places ≤ 1074) :
    Nat.ofDigitChars 10 (Nat.toDigits 10 n ++ List.replicate places '0') 0 *
      Nat.pow 10 (1074 - places) = n * 2 ^ 1074 * 5 ^ 1074 := by
  rw [ofDigitChars_append_zeros, Nat.ofDigitChars_toDigits (by decide) (by decide), Nat.mul_assoc,
    ← ten_pow_add, Nat.sub_add_cancel short, ten_pow, Nat.mul_assoc]

/-- A whole magnitude is written with all its digits and a zero behind the point. -/
theorem reads_whole {rank : Fin rankLimit} (integral : units rank % 2 ^ 1074 = 0) :
    ∃ whole fraction, Pointed (Nat.toDigits 10 (units rank / 2 ^ 1074) ++ ['.', '0'])
      whole fraction ∧ Reads rank (Nat.toDigits 10 (units rank / 2 ^ 1074) ++ ['.', '0']) := by
  generalize magnitude : units rank / 2 ^ 1074 = n
  have split : Pointed (Nat.toDigits 10 n ++ ['.', '0']) (Nat.toDigits 10 n)
      (List.replicate 1 '0') :=
    ⟨rfl, Nat.toDigits_ne_nil, isDigit_toDigits n, isDigit_zero⟩
  have fixed : n * 2 ^ 1074 = units rank := by omega
  refine ⟨_, _, split, split.reads (by decide) ?_⟩
  rw [List.length_replicate, ofDigitChars_places n (by decide), fixed]
  exact nearestRank_units rank five_pow_pos

theorem text_finite (negative : Bool) (rank : Fin rankLimit) :
    ∃ chars whole fraction,
      (finite negative rank).text = String.ofList (signChars negative ++ chars) ∧
        Pointed chars whole fraction ∧ Reads rank chars := by
  rw [text]
  by_cases integral : units rank % 2 ^ 1074 = 0
  · rcases reads_whole integral with ⟨whole, fraction, split, reads⟩
    exact ⟨_, whole, fraction, by rw [if_pos integral], split, reads⟩
  · rcases (Decimal.shortest .up rank).positional_split with ⟨whole, fraction, split, _⟩
    have reads := reads_positional (Decimal.readsBack_shortest .up rank)
    exact ⟨_, whole, fraction, by rw [if_neg integral], split, reads⟩

theorem ofText?_text {x : Binary64} (finite : x.isFinite = true) :
    Binary64.ofText? x.text = some x := by
  cases x with
  | finite negative rank =>
      rcases text_finite negative rank with ⟨chars, whole, fraction, written, split, reads⟩
      have number := reads.number negative
      rw [split.text, parts_pointed split.digits split.decimals] at number
      rw [written, split.ofText? negative]
      exact congrArg some number
  | infinite negative => cases finite
  | nan => cases finite

end LetLang.Binary64
