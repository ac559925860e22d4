import LetLang.Json
import LetLang.Proofs.Binary64.Written

/-!
The strings and numbers of JSON as a code. What a text begins with says where it stops and what it
stands for, numbers as long as nothing behind them can belong to a number.
-/
namespace LetLang.Json

open Binary64 (IsNumberChar signChars isDigit_toDigits)

def hexValue (c : Char) : Nat := if c.isDigit then c.toNat - 48 else c.toNat - 87

def unescape : List Char → Char × List Char
  | '\\' :: 'u' :: _ :: _ :: high :: low :: rest =>
    (Char.ofNat (16 * hexValue high + hexValue low), rest)
  | '\\' :: 'b' :: rest => ('\x08', rest)
  | '\\' :: 'f' :: rest => ('\x0c', rest)
  | '\\' :: 'n' :: rest => ('\n', rest)
  | '\\' :: 'r' :: rest => ('\r', rest)
  | '\\' :: 't' :: rest => ('\t', rest)
  | '\\' :: c :: rest => (c, rest)
  | c :: rest => (c, rest)
  | [] => ('\x00', [])

theorem hexValue_control (c : Char) (control : c.toNat < 0x20) :
    Char.ofNat (16 * hexValue (Nat.digitChar (c.toNat / 16)) +
      hexValue (Nat.digitChar (c.toNat % 16))) = c := by
  have digits : ∀ n < 0x20, 16 * hexValue (Nat.digitChar (n / 16)) +
      hexValue (Nat.digitChar (n % 16)) = n := by
    decide
  rw [digits _ control, Char.ofNat_toNat]

theorem unescape_escape (c : Char) (rest : List Char) :
    unescape (escape c ++ rest) = (c, rest) := by
  unfold escape
  -- The characters with an escape of their own.
  iterate 7
    split
    case isTrue same =>
      rw [same]
      rfl
  split
  case isTrue control => exact congrArg (·, rest) (hexValue_control c control)
  case isFalse plain =>
    show unescape (c :: rest) = (c, rest)
    unfold unescape
    split
    all_goals simp_all

theorem escape_append_inj {c d : Char} {rest others : List Char}
    (same : escape c ++ rest = escape d ++ others) : c = d ∧ rest = others := by
  have read := congrArg unescape same
  rw [unescape_escape, unescape_escape] at read
  exact Prod.mk.inj read

theorem escape_ne_quote (c : Char) (rest others : List Char) :
    escape c ++ rest ≠ '"' :: others := by
  unfold escape
  repeat' split
  all_goals simp_all

theorem escaped_append_inj {chars others rest left : List Char}
    (same : chars.flatMap escape ++ '"' :: rest = others.flatMap escape ++ '"' :: left) :
    chars = others ∧ rest = left := by
  induction chars generalizing others with
  | nil =>
      cases others with
      | nil => exact ⟨rfl, (List.cons.inj same).2⟩
      | cons d others =>
          rw [List.flatMap_cons, List.append_assoc] at same
          exact absurd same.symm (escape_ne_quote _ _ _)
  | cons c chars ih =>
      cases others with
      | nil =>
          rw [List.flatMap_cons, List.append_assoc] at same
          exact absurd same (escape_ne_quote _ _ _)
      | cons d others =>
          rw [List.flatMap_cons, List.flatMap_cons, List.append_assoc, List.append_assoc] at same
          rcases escape_append_inj same with ⟨rfl, behind⟩
          rcases ih behind with ⟨rfl, ends⟩
          exact ⟨rfl, ends⟩

theorem stringChars_append_inj {text other : String} {rest left : List Char}
    (same : stringChars text ++ rest = stringChars other ++ left) : text = other ∧ rest = left := by
  have escaped : text.toList.flatMap escape ++ '"' :: rest =
      other.toList.flatMap escape ++ '"' :: left := by
    simpa [stringChars] using same
  rcases escaped_append_inj escaped with ⟨chars, ends⟩
  exact ⟨String.toList_inj.mp chars, ends⟩

def Ends (rest : List Char) : Prop := ¬Lexeme.Follows IsNumberChar rest

theorem ends_nil : Ends [] := nofun

theorem ends_cons {c : Char} {rest : List Char} (other : ¬IsNumberChar c) : Ends (c :: rest) := by
  rintro ⟨d, first, number⟩
  obtain rfl : c = d := Option.some.inj first
  exact other number

/-- A number as it is written: it starts with a sign or a digit, and runs on to what ends it. -/
structure Numeral (chars : List Char) : Prop where
  front : ∃ c rest, chars = c :: rest ∧ (c = '-' ∨ c.isDigit = true)
  inside : ∀ c ∈ chars, IsNumberChar c

theorem Numeral.append_inj {chars others rest left : List Char} (numeral : Numeral chars)
    (numeral' : Numeral others) (ends : Ends rest) (ends' : Ends left)
    (same : chars ++ rest = others ++ left) : chars = others ∧ rest = left := by
  have one : ∀ c, decide (IsNumberChar c) = true ↔ IsNumberChar c := fun _ => decide_eq_true_iff
  have cut := (Text.cut_eq_iff one).mpr ⟨rfl, numeral.inside, ends⟩
  rw [same, (Text.cut_eq_iff one).mpr ⟨rfl, numeral'.inside, ends'⟩] at cut
  exact (Prod.mk.inj cut).imp Eq.symm Eq.symm

theorem numeral_signed (negative : Bool) {chars : List Char}
    (front : ∃ c rest, chars = c :: rest ∧ c.isDigit = true)
    (inside : ∀ c ∈ chars, IsNumberChar c) : Numeral (signChars negative ++ chars) := by
  cases negative with
  | false => exact ⟨front.imp fun _ => Exists.imp fun _ => And.imp_right .inr, inside⟩
  | true =>
      refine ⟨⟨'-', chars, rfl, .inl rfl⟩, ?_⟩
      intro c member
      rcases List.mem_cons.mp member with rfl | behind
      · exact .inr (by decide)
      · exact inside c behind

theorem front_toDigits (n : Nat) : ∃ c rest, Nat.toDigits 10 n = c :: rest ∧ c.isDigit = true := by
  rcases List.exists_cons_of_ne_nil (@Nat.toDigits_ne_nil n 10) with ⟨c, rest, same⟩
  exact ⟨c, rest, same, isDigit_toDigits n c (same ▸ List.mem_cons_self)⟩

theorem numeral_integerChars (value : Int) : Numeral (integerChars value) :=
  numeral_signed _ (front_toDigits _) fun c member => .inl (isDigit_toDigits _ c member)

theorem floatChars_finite {value : Binary64} (finite : value.isFinite = true) :
    Numeral (floatChars value) ∧ Binary64.ofNumber (floatChars value) = value ∧
      ('.' ∈ floatChars value ∨ 'e' ∈ floatChars value) := by
  cases value with
  | finite negative rank =>
      rcases Binary64.jsonText?_finite negative rank with ⟨chars, text, reads⟩
      have same : floatChars (.finite negative rank) = signChars negative ++ chars := by
        simp only [floatChars, text, String.toList_ofList]
      rw [same]
      exact ⟨numeral_signed negative reads.front reads.inside, reads.ofNumber negative,
        reads.real.imp (List.mem_append_right _) (List.mem_append_right _)⟩
  | _ => cases finite

def readNumber (chars : List Char) : Json :=
  if '.' ∈ chars ∨ 'e' ∈ chars then .float (Binary64.ofNumber chars)
  else .integer ((Binary64.exponent? chars).getD 0)

theorem exponent?_integerChars (value : Int) :
    Binary64.exponent? (integerChars value) = some value := by
  rw [integerChars]
  by_cases negative : value < 0
  · have same : -(value.natAbs : Int) = value := by omega
    rw [decide_eq_true negative, signChars, if_pos rfl, List.singleton_append, Binary64.exponent?,
      Text.natural?_toDigits]
    exact congrArg some same
  · have same : (value.natAbs : Int) = value := by omega
    have read := Text.natural?_toDigits value.natAbs
    rcases front_toDigits value.natAbs with ⟨c, rest, digits, digit⟩
    rw [decide_eq_false negative, signChars, if_neg Bool.false_ne_true, List.nil_append]
    rw [digits] at read ⊢
    rw [Binary64.exponent?]
    · rw [read]
      exact congrArg some same
    · rintro _ ⟨⟩
      cases digit
    · rintro _ ⟨⟩
      cases digit

theorem readNumber_integerChars (value : Int) :
    readNumber (integerChars value) = .integer value := by
  have whole : ∀ c ∈ integerChars value, c ≠ '.' ∧ c ≠ 'e' := by
    intro c member
    rcases List.mem_append.mp member with sign | digit
    · rw [signChars] at sign
      split at sign
      · rw [List.mem_singleton.mp sign]
        decide
      · cases sign
    · have digit := isDigit_toDigits _ c digit
      constructor <;> rintro rfl <;> cases digit
  rw [readNumber, if_neg, exponent?_integerChars]
  · rfl
  · rintro (point | letter)
    · exact (whole _ point).1 rfl
    · exact (whole _ letter).2 rfl

theorem readNumber_floatChars {value : Binary64} (finite : value.isFinite = true) :
    readNumber (floatChars value) = .float value := by
  rcases floatChars_finite finite with ⟨_, back, real⟩
  rw [readNumber, if_pos real, back]

end LetLang.Json
