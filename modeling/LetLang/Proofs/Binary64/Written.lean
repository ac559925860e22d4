import LetLang.Binary64.Decimal
import LetLang.Proofs.Binary64.Nearest
import LetLang.Proofs.Lexeme.Cut

/-!
Decimal text read back. The digits of a magnitude, with the point wherever it is put, are read as
that magnitude: they were chosen because they are nearest to it.
-/
namespace LetLang.Binary64

open Text (cut cut_eq_iff)

def parts (chars : List Char) : Nat × Int :=
  let (whole, rest) := cut Char.isDigit chars
  let (fraction, rest) := match rest with
    | '.' :: rest => cut Char.isDigit rest
    | _ => ([], rest)
  let exponent := match rest with
    | 'e' :: rest => (exponent? rest).getD 0
    | _ => 0
  (Nat.ofDigitChars 10 (whole ++ fraction) 0, exponent - fraction.length)

def ofNumber : List Char → Binary64
  | '-' :: chars => ofScientific true (parts chars).1 (parts chars).2
  | chars => ofScientific false (parts chars).1 (parts chars).2

theorem cut_digits {digits rest : List Char} (inside : ∀ c ∈ digits, c.isDigit = true)
    (ends : ∀ c, rest.head? = some c → c.isDigit = false) :
    cut Char.isDigit (digits ++ rest) = (digits, rest) := by
  refine (cut_eq_iff fun _ => Iff.rfl).mpr ⟨rfl, inside, ?_⟩
  rintro ⟨c, first, digit⟩
  rw [ends c first] at digit
  cases digit

theorem isDigit_toDigits (n : Nat) : ∀ c ∈ Nat.toDigits 10 n, c.isDigit = true :=
  fun _ member => Nat.isDigit_of_mem_toDigits (by decide) (by decide) member

theorem isDigit_zero : ∀ c ∈ ['0'], c.isDigit = true := by
  intro c member
  rw [List.mem_singleton.mp member]
  rfl

theorem exponent?_written (exponent : Int) :
    exponent? ((if exponent < 0 then '-' else '+') :: Nat.toDigits 10 exponent.natAbs) =
      some exponent := by
  by_cases negative : exponent < 0
  · have same : -(exponent.natAbs : Int) = exponent := by omega
    rw [if_pos negative, exponent?, Text.natural?_toDigits]
    exact congrArg some same
  · have same : (exponent.natAbs : Int) = exponent := by omega
    rw [if_neg negative, exponent?, Text.natural?_toDigits]
    exact congrArg some same

theorem parts_pointed {whole fraction : List Char} (digits : ∀ c ∈ whole, c.isDigit = true)
    (decimals : ∀ c ∈ fraction, c.isDigit = true) :
    parts (whole ++ '.' :: fraction) =
      (Nat.ofDigitChars 10 (whole ++ fraction) 0, -(fraction.length : Int)) := by
  have behind : cut Char.isDigit fraction = (fraction, []) := by
    simpa using @cut_digits fraction [] decimals nofun
  rw [parts, cut_digits digits (by simp)]
  simp [behind]

theorem ofDigitChars_zeros (count : Nat) (digits : List Char) :
    Nat.ofDigitChars 10 (List.replicate count '0' ++ digits) 0 = Nat.ofDigitChars 10 digits 0 := by
  induction count with
  | zero => rfl
  | succ count ih => exact ih

theorem ofDigitChars_append_zeros (count : Nat) (digits : List Char) :
    Nat.ofDigitChars 10 (digits ++ List.replicate count '0') 0 =
      Nat.ofDigitChars 10 digits 0 * Nat.pow 10 count := by
  induction count with
  | zero => simp
  | succ count ih =>
      rw [List.replicate_succ', ← List.append_assoc, Nat.ofDigitChars_append, ih,
        Nat.ofDigitChars_cons, Nat.ofDigitChars_nil, Nat.mul_comm 10, Nat.mul_assoc]
      rfl

structure Pointed (chars whole fraction : List Char) : Prop where
  text : chars = whole ++ '.' :: fraction
  nonempty : whole ≠ []
  digits : ∀ c ∈ whole, c.isDigit = true
  decimals : ∀ c ∈ fraction, c.isDigit = true

namespace Decimal

theorem ofDigitChars_digitChars (x : Decimal) : Nat.ofDigitChars 10 x.digitChars 0 = x.digits :=
  Nat.ofDigitChars_toDigits (by decide) (by decide)

theorem pointed_split {digits : List Char} (inside : ∀ c ∈ digits, c.isDigit = true)
    (places : Nat) :
    ∃ whole fraction, Pointed (pointed digits places) whole fraction ∧
      fraction.length = places ∧
      Nat.ofDigitChars 10 (whole ++ fraction) 0 = Nat.ofDigitChars 10 digits 0 := by
  rw [← ofDigitChars_zeros (places + 1 - digits.length), pointed]
  have all : ∀ c ∈ List.replicate (places + 1 - digits.length) '0' ++ digits,
      c.isDigit = true := by
    intro c member
    rcases List.mem_append.mp member with zero | digit
    · rw [(List.mem_replicate.mp zero).2]
      rfl
    · exact inside c digit
  have long : places < (List.replicate (places + 1 - digits.length) '0' ++ digits).length := by
    rw [List.length_append, List.length_replicate]
    omega
  generalize List.replicate (places + 1 - digits.length) '0' ++ digits = padded at all long ⊢
  refine ⟨padded.take (padded.length - places), padded.drop (padded.length - places), ?_, ?_, ?_⟩
  · refine ⟨rfl, ?_, fun c member => all c (List.mem_of_mem_take member),
      fun c member => all c (List.mem_of_mem_drop member)⟩
    rw [← List.length_pos_iff, List.length_take]
    omega
  · rw [List.length_drop]
    omega
  · rw [List.take_append_drop]

theorem positional_split (x : Decimal) :
    ∃ whole fraction, Pointed x.positional whole fraction ∧ fraction.length ≤ 1074 ∧
      Nat.ofDigitChars 10 (whole ++ fraction) 0 * Nat.pow 10 (1074 - fraction.length) =
        x.digits * Nat.pow 10 x.place := by
  have digits : ∀ c ∈ x.digitChars, c.isDigit = true := isDigit_toDigits x.digits
  rw [positional]
  by_cases behind : x.place < 1074
  · rcases pointed_split digits (1074 - x.place) with ⟨whole, fraction, split, length, value⟩
    have back : 1074 - (1074 - x.place) = x.place := by omega
    refine ⟨whole, fraction, (if_pos behind).symm ▸ split, by omega, ?_⟩
    rw [length, value, ofDigitChars_digitChars, back]
  · have places : 1074 - ['0'].length + (x.place - 1074 + 1) = x.place := by
      rw [List.length_singleton]
      omega
    refine ⟨x.digitChars ++ List.replicate (x.place - 1074) '0', ['0'], ?_, by decide, ?_⟩
    · rw [if_neg behind]
      refine ⟨by simp, by simp [digitChars, Nat.toDigits_ne_nil], ?_, isDigit_zero⟩
      intro c member
      rcases List.mem_append.mp member with digit | zero
      · exact digits c digit
      · rw [(List.mem_replicate.mp zero).2]
        rfl
    · have zeros : List.replicate (x.place - 1074) '0' ++ ['0'] =
          List.replicate (x.place - 1074 + 1) '0' := List.replicate_succ'.symm
      rw [List.append_assoc, zeros, ofDigitChars_append_zeros, ofDigitChars_digitChars,
        Nat.mul_assoc, ← ten_pow_add, places]

theorem mantissa_split (x : Decimal) (exponent : Int) :
    ∃ whole fraction point, x.scientific exponent = whole ++ (point ++ (fraction ++
        'e' :: (if exponent < 0 then '-' else '+') :: Nat.toDigits 10 exponent.natAbs)) ∧
      (point = ['.'] ∨ point = [] ∧ fraction = []) ∧ whole.length = 1 ∧
      whole ++ fraction = x.digitChars := by
  rw [scientific]
  rcases digits : x.digitChars with _ | ⟨first, _ | ⟨second, others⟩⟩
  · exact absurd digits Nat.toDigits_ne_nil
  · exact ⟨[first], [], [], by simp, .inr ⟨rfl, rfl⟩, rfl, rfl⟩
  · exact ⟨[first], second :: others, ['.'], by simp, .inl rfl, rfl, rfl⟩

theorem parts_scientific (x : Decimal) :
    parts (x.scientific x.leading) = (x.digits, (x.place : Int) - 1074) := by
  rcases mantissa_split x x.leading with ⟨whole, fraction, point, text, points, single, digits⟩
  have inside : ∀ c ∈ whole ++ fraction, c.isDigit = true := by
    rw [digits]
    exact isDigit_toDigits x.digits
  have before : ∀ c ∈ whole, c.isDigit = true := fun c member =>
    inside c (List.mem_append_left _ member)
  have behind : ∀ c ∈ fraction, c.isDigit = true := fun c member =>
    inside c (List.mem_append_right _ member)
  have read : parts (x.scientific x.leading) =
      (Nat.ofDigitChars 10 (whole ++ fraction) 0, x.leading - fraction.length) := by
    have power := exponent?_written x.leading
    generalize _ :: Nat.toDigits 10 x.leading.natAbs = written at text power
    rw [text, parts]
    rcases points with rfl | ⟨rfl, rfl⟩
    · have last : cut Char.isDigit (fraction ++ 'e' :: written) = (fraction, 'e' :: written) :=
        cut_digits behind (by simp)
      rw [cut_digits before (by simp)]
      simp [last, power]
    · rw [cut_digits before (by simp)]
      simp [power]
  rw [read, digits, ofDigitChars_digitChars]
  refine congrArg (Prod.mk x.digits) ?_
  have count : whole.length + fraction.length = x.digitChars.length := by
    rw [← digits, List.length_append]
  rw [leading, ← count, single]
  omega

end Decimal

def IsNumberChar (c : Char) : Prop := c.isDigit = true ∨ c ∈ ['-', '+', '.', 'e']

instance (c : Char) : Decidable (IsNumberChar c) :=
  inferInstanceAs (Decidable (_ ∨ _))

/-- A text that starts with a digit, has a point or an exponent, and is read as a magnitude. -/
structure Reads (rank : Fin rankLimit) (chars : List Char) : Prop where
  number : ∀ negative,
    ofScientific negative (parts chars).1 (parts chars).2 = .finite negative rank
  front : ∃ c rest, chars = c :: rest ∧ c.isDigit = true
  inside : ∀ c ∈ chars, IsNumberChar c
  real : '.' ∈ chars ∨ 'e' ∈ chars

variable {rank : Fin rankLimit} {x : Decimal}

theorem Pointed.reads {chars whole fraction : List Char} (split : Pointed chars whole fraction)
    (short : fraction.length ≤ 1074)
    (nearest : nearestRank (Nat.ofDigitChars 10 (whole ++ fraction) 0 *
      Nat.pow 10 (1074 - fraction.length)) (5 ^ 1074) = rank) : Reads rank chars := by
  have place : -(fraction.length : Int) = ((1074 - fraction.length : Nat) : Int) - 1074 := by
    omega
  constructor
  · intro negative
    rw [split.text, parts_pointed split.digits split.decimals, place]
    exact ofScientific_of_nearest negative nearest
  · rcases List.exists_cons_of_ne_nil split.nonempty with ⟨c, others, rfl⟩
    exact ⟨c, _, split.text, split.digits c List.mem_cons_self⟩
  · rw [split.text]
    intro c member
    rcases List.mem_append.mp member with digit | behind
    · exact .inl (split.digits c digit)
    · rcases List.mem_cons.mp behind with rfl | decimal
      · exact .inr (by decide)
      · exact .inl (split.decimals c decimal)
  · left
    rw [split.text]
    simp

theorem reads_zero : Reads ⟨0, by decide⟩ ['0', '.', '0'] := by
  have split : Pointed ['0', '.', '0'] ['0'] ['0'] := ⟨rfl, by decide, isDigit_zero, isDigit_zero⟩
  refine split.reads (by decide) ?_
  rw [show Nat.ofDigitChars 10 (['0'] ++ ['0']) 0 = 0 from rfl, Nat.zero_mul]
  exact nearestRank_eq_zero five_pow_pos

theorem reads_positional (back : x.readsBack rank = true) : Reads rank x.positional := by
  rcases x.positional_split with ⟨whole, fraction, split, short, value⟩
  refine split.reads short ?_
  rw [value]
  exact beq_iff_eq.mp back

theorem reads_scientific (back : x.readsBack rank = true) :
    Reads rank (x.scientific x.leading) := by
  have digits : ∀ c ∈ x.digitChars, c.isDigit = true := isDigit_toDigits x.digits
  rcases x.mantissa_split x.leading with ⟨whole, fraction, point, text, points, single, same⟩
  constructor
  · intro negative
    rw [x.parts_scientific]
    exact ofScientific_of_nearest negative (beq_iff_eq.mp back)
  · rcases List.length_eq_one_iff.mp single with ⟨first, rfl⟩
    exact ⟨first, _, text, digits first (by rw [← same]; simp)⟩
  · rw [text]
    intro c member
    simp only [List.mem_append, List.mem_cons] at member
    rcases member with digit | mark | decimal | rfl | rfl | power
    · exact .inl (digits c (by rw [← same]; exact List.mem_append_left _ digit))
    · rcases points with rfl | ⟨rfl, _⟩
      · rw [List.mem_singleton.mp mark]
        exact .inr (by decide)
      · cases mark
    · exact .inl (digits c (by rw [← same]; exact List.mem_append_right _ decimal))
    · exact .inr (by decide)
    · right
      split
      · decide
      · decide
    · exact .inl (isDigit_toDigits _ c power)
  · right
    rw [Decimal.scientific]
    simp

/-- The text of a finite double: a sign, and a magnitude that is read as what it was. -/
theorem jsonText?_finite (negative : Bool) (rank : Fin rankLimit) :
    ∃ chars, (finite negative rank).jsonText? = some (String.ofList (signChars negative ++ chars)) ∧
      Reads rank chars := by
  rw [jsonText?]
  by_cases none : rank.val = 0
  · rw [if_pos none]
    obtain rfl : rank = ⟨0, by decide⟩ := Fin.ext none
    exact ⟨_, rfl, reads_zero⟩
  · have back := Decimal.readsBack_shortest .even rank
    rw [if_neg none]
    dsimp only
    split
    · exact ⟨_, rfl, reads_positional back⟩
    · exact ⟨_, rfl, reads_scientific back⟩

theorem Reads.ofNumber {chars : List Char} (reads : Reads rank chars) (negative : Bool) :
    ofNumber (signChars negative ++ chars) = .finite negative rank := by
  rcases reads.front with ⟨c, rest, front, digit⟩
  rw [← reads.number negative]
  cases negative with
  | true => rfl
  | false =>
      have unsigned : c ≠ '-' := by
        rintro rfl
        cases digit
      show Binary64.ofNumber chars = _
      rw [front, Binary64.ofNumber]
      exact fun _ same => unsigned (List.cons.inj same).1

end LetLang.Binary64
