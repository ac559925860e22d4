import LetLang.Proofs.Lexeme.Printed
import LetLang.Proofs.Lexeme.Replace

/-!
What is wrong with a text that no piece can be cut off. Each of these defects is one of the end of
the text, which some characters behind it mend, or a character that nothing behind it mends.
-/
namespace LetLang

namespace Lexeme

open Text (byteLength)

structure IsStrange (c : Char) : Prop where
  visible : ¬IsBlank c
  nameless : ¬IsNameStart c
  digitless : ¬IsDigit c
  unquoted : c ≠ '"'
  unmarked : ∀ kind, (c, kind) ∉ marks
  unlisted : c ∉ operators

inductive Defect : List Char → Cause → Prop
  | string {body : List Char} (inside : '"' ∉ body) : Defect ('"' :: body) .unterminatedString
  | comment {body : List Char} (unclosed : ¬['*', '/'] <:+: body) :
      Defect ('/' :: '*' :: body) .unterminatedComment
  | number {digits : List Char} (numeral : Numeral digits) :
      Defect digits (.unterminatedNumber (String.ofList digits))
  | character {c : Char} {behind : List Char} (strange : IsStrange c) :
      Defect (c :: behind) (.unrecognisedToken (String.singleton c))

variable {file : String} {offset : Nat} {c : Char} {cause : Cause} {lexeme : Lexeme}
variable {chars front back rest text gap : List Char} {tokens : List Token}

theorem cutComment_eq_none {seen : List Char} (unclosed : Token.cutComment seen chars = none) :
    ¬['*', '/'] <:+: chars := by
  fun_induction Token.cutComment seen chars with
  | case1 => cases unclosed
  | case2 seen c others goesOn ih =>
      intro closed
      rcases List.infix_cons_iff.mp closed with starts | behind
      · rcases List.cons_prefix_cons.mp starts with ⟨star, slash⟩
        rcases slash with ⟨after, same⟩
        exact goesOn after star.symm same.symm
      · exact ih unclosed behind
  | case3 => simp

theorem not_closed_append_star (unclosed : ¬['*', '/'] <:+: chars) :
    ¬['*', '/'] <:+: chars ++ ['*'] := by
  intro closed
  rcases List.infix_concat_iff.mp closed with ends | inside
  · rcases List.suffix_concat_iff.mp ends with empty | ⟨front, split, _⟩
    · cases empty
    · have last := congrArg List.getLast? split
      simp at last
  · exact unclosed inside

theorem number_eq_error :
    Token.number (text, rest) = .error cause ↔
      rest = [] ∧ cause = .unterminatedNumber (String.ofList text) := by
  cases rest with
  | nil => simp [Token.number, eq_comm]
  | cons c others => simp [Token.number]

theorem defect_number (digit : IsDigit c)
    (failed : Token.number (Token.cutNumber (c :: chars)) = .error cause) :
    Defect (c :: chars) cause := by
  rcases Token.cutNumber_cases digit chars with
    ⟨digits, nonempty, inside, ⟨rest, whole, cut, _⟩ | ⟨decimals, rest, whole, cut, more, behind, _⟩⟩
  · rw [cut] at failed
    rcases number_eq_error.mp failed with ⟨rfl, rfl⟩
    rw [whole, List.append_nil]
    exact .number (.whole nonempty inside)
  · rw [cut] at failed
    rcases number_eq_error.mp failed with ⟨rfl, rfl⟩
    rw [whole, List.append_nil]
    exact .number (.fraction nonempty inside more behind)

theorem defect_string (failed : Token.quoted chars = .error cause) :
    Defect ('"' :: chars) cause := by
  rcases split : Text.cut (· ≠ '"') chars with ⟨body, rest⟩
  rcases Text.cut_until_iff.mp split with ⟨whole, inside, ends⟩
  simp only [Token.quoted, split] at failed
  cases rest with
  | nil =>
      cases failed
      rw [whole, List.append_nil]
      exact .string inside
  | cons quote after => cases failed

theorem defect_symbol (visible : ¬IsBlank c) (nameless : ¬IsNameStart c) (digitless : ¬IsDigit c)
    (unquoted : c ≠ '"') (failed : Token.symbol c chars = .error cause) :
    Defect (c :: chars) cause := by
  rw [Token.symbol] at failed
  split at failed
  · cases failed
  · rename_i unstructured
    split at failed
    · cases failed
    · rename_i unspelled
      cases failed
      refine .character ⟨visible, nameless, digitless, unquoted, ?_, ?_⟩
      · intro kind listed
        have known := (mark_symbol listed).1
        rw [unstructured] at known
        cases known
      · exact fun listed => unspelled (isOperator_iff.mpr listed)

theorem defect_of_scan (failed : Token.scan c chars = .error cause) :
    Defect (c :: chars) cause := by
  rw [Token.scan] at failed
  split at failed
  · cases failed
  rename_i visible
  split at failed
  · cases failed
  split at failed
  · rename_i block
    rcases block with ⟨rfl, second⟩
    rcases List.head?_eq_some_iff.mp second with ⟨others, rfl⟩
    split at failed
    · cases failed
    · rename_i unclosed
      cases failed
      exact .comment (cutComment_eq_none unclosed)
  split at failed
  · cases failed
  rename_i nameless
  split at failed
  · rename_i digit
    exact defect_number (isDigit_iff.mp digit) failed
  rename_i digitless
  split at failed
  · rename_i quote
    rw [quote]
    exact defect_string failed
  · rename_i unquoted
    rw [isBlank_iff] at visible
    rw [isNameStart_iff] at nameless
    rw [isDigit_iff] at digitless
    exact defect_symbol visible nameless digitless unquoted failed

theorem IsStrange.scan_eq (strange : IsStrange c) (rest : List Char) :
    Token.scan c rest = .error (.unrecognisedToken (String.singleton c)) := by
  have visible := mt isBlank_iff.mp strange.visible
  have nameless := mt isNameStart_iff.mp strange.nameless
  have digitless := mt isDigit_iff.mp strange.digitless
  have other : c ≠ '/' := by
    intro slash
    apply strange.unlisted
    rw [slash]
    decide
  have unstructured : Token.structural? c = none := by
    cases known : Token.structural? c with
    | none => rfl
    | some kind => exact absurd (mem_marks known) (strange.unmarked kind)
  have unspelled := mt isOperator_iff.mp strange.unlisted
  simp [Token.scan, Token.symbol, visible, nameless, digitless, other, strange.unquoted,
    unstructured, unspelled]

/-- No defect opens with a point, which could go on with a number in front of it. -/
theorem Defect.replacedBy_append (defect : Defect back cause) (more : List Char) :
    ReplacedBy back (back ++ more) := by
  cases defect with
  | string inside => exact .opening rfl (by decide)
  | comment unclosed => exact .opening rfl (by decide)
  | number numeral =>
      rcases numeral.opens with ⟨c, rest, rfl, digit⟩
      apply ReplacedBy.opening rfl
      intro point
      rw [point] at digit
      simp [IsDigit] at digit
  | character strange =>
      apply ReplacedBy.opening rfl
      intro point
      apply strange.unlisted
      rw [point]
      decide

theorem Settled.finish (settled : Settled file offset front back tokens)
    (replaced : ReplacedBy back (lexeme.text ++ gap)) (stands : Stands gap lexeme)
    (blank : ∀ c ∈ gap, IsBlank c) :
    Token.tokenizeFrom file offset [] (front ++ (lexeme.text ++ gap)) =
      .ok (tokens ++ (Token.Piece.token ⟨lexeme.token?, lexeme.text, gap⟩ file
        (offset + byteLength front)).toList) := by
  have passed : ∀ offset before,
      Token.tokenizeFrom file offset before gap = .ok before.reverse := by
    intro offset before
    have done := @tokenizeFrom_blanks file offset before gap blank []
    rwa [List.append_nil, Token.tokenizeFrom] at done
  have order := reverse_toList_append (Token.Piece.token ⟨lexeme.token?, lexeme.text, gap⟩ file
    (offset + byteLength front)) (tokens.reverse ++ []) []
  simp only [List.append_nil, List.reverse_reverse] at order
  rw [settled _ replaced, tokenizeFrom_stands stands, passed, List.append_nil, order]

end Lexeme

namespace Token

open Lexeme (Defect IsBlank Settled Stands)
open Text (byteLength)

/-- What comes of a text that is refused at an offset, behind its first tokens. The end of the text
can be mended; the first character of what stands there cannot. -/
inductive Mends (source : String) (file? : Option String) (offset : Nat) (tokens : List Token) :
    String → Error → Prop
  | string {body : String} {position : Position}
      (closed : tokenize (source ++ "\"") file? =
        .ok (tokens ++ [placed (file?.getD unnamedFile) offset (.string, body)])) :
      Mends source file? offset tokens ("\"" ++ body) ⟨.unterminatedString, position⟩
  | comment {body : String} {position : Position}
      (closed : tokenize (source ++ "*/") file? = .ok tokens) :
      Mends source file? offset tokens ("/*" ++ body) ⟨.unterminatedComment, position⟩
  | number {digits : String} {position : Position}
      (followed : tokenize (source ++ " ") file? =
        .ok (tokens ++ [placed (file?.getD unnamedFile) offset (.number, digits)])) :
      Mends source file? offset tokens digits ⟨.unterminatedNumber digits, position⟩
  | character {c : Char} {behind : String} {position : Position}
      (stays : ∀ more, tokenize (source ++ more) file? =
        .error ⟨.unrecognisedToken (String.singleton c), position⟩) :
      Mends source file? offset tokens (String.singleton c ++ behind)
        ⟨.unrecognisedToken (String.singleton c), position⟩

variable {file? : Option String} {source more : String} {front back gap : List Char}
variable {tokens : List Token} {cause : Cause} {error : Error} {lexeme : Lexeme}

/-- What is put behind a defect makes a lexeme of the rest, so this is the last piece. -/
theorem tokenize_mended (settled : Settled (file?.getD unnamedFile) 0 front back tokens)
    (defect : Defect back cause) (whole : source.toList = front ++ back)
    (mended : back ++ more.toList = lexeme.text ++ gap) (stands : Stands gap lexeme)
    (blank : ∀ c ∈ gap, IsBlank c) :
    tokenize (source ++ more) file? =
      .ok (tokens ++ (Piece.token ⟨lexeme.token?, lexeme.text, gap⟩ (file?.getD unnamedFile)
        (0 + byteLength front)).toList) := by
  have replaced := defect.replacedBy_append more.toList
  rw [mended] at replaced
  rw [tokenize, String.toList_append, whole, List.append_assoc, mended]
  exact settled.finish replaced stands blank

theorem mends_of_defect (settled : Settled (file?.getD unnamedFile) 0 front back tokens)
    (defect : Defect back cause) (whole : source.toList = front ++ back) :
    Mends source file? (0 + byteLength front) tokens (String.ofList back)
      ⟨cause, ⟨.ofNat (0 + byteLength front), file?.getD unnamedFile⟩⟩ := by
  have kept := defect
  -- Each defect but the last is mended by what ends the lexeme that it is the start of.
  cases defect with
  | @string body inside =>
      have mended : '"' :: body ++ "\"".toList = '"' :: (body ++ ['"']) ++ [] := by simp
      have closed := tokenize_mended settled kept whole mended (.string inside)
        (List.forall_mem_nil _)
      have text : '"' :: (body ++ ['"']) = written (.string, String.ofList body) := by
        simp [written]
      simp only [Lexeme.token?, List.tail_cons, List.dropLast_concat] at closed
      rw [text] at closed
      rw [String.ofList_cons]
      exact .string closed
  | @comment body unclosed =>
      have mended : '/' :: '*' :: body ++ "*/".toList =
          '/' :: '*' :: (body ++ ['*', '/']) ++ [] := by
        simp
      have first := Lexeme.not_closed_append_star unclosed
      have closed := tokenize_mended settled kept whole mended (.blockComment first)
        (List.forall_mem_nil _)
      have text : String.ofList ('/' :: '*' :: body) = "/*" ++ String.ofList body := by
        apply String.toList_inj.mp
        simp
      simp only [Piece.token, Lexeme.token?, Option.map_none, Option.toList_none,
        List.append_nil] at closed
      rw [text]
      exact .comment closed
  | number numeral =>
      have blank : ∀ c ∈ [' '], IsBlank c := by simp [IsBlank]
      have mended : back ++ " ".toList = back ++ [' '] := by simp
      have followed := tokenize_mended settled kept whole mended (stands_of_numeral numeral) blank
      have text : back = written (.number, String.ofList back) := by simp [written]
      apply Mends.number
      rw [placed, ← text]
      exact followed
  | character strange =>
      rw [String.ofList_cons]
      apply Mends.character
      intro more
      have replaced := kept.replacedBy_append more.toList
      rw [tokenize, String.toList_append, whole, List.append_assoc, settled _ replaced]
      exact Lexeme.tokenizeFrom_stuck (strange.scan_eq _)

/-- A text is refused at its first defect: before it stand tokens, and the error says what is wrong
from there on. -/
theorem tokenize_mends (source : String) (file? : Option String)
    (short : source.utf8ByteSize < 2 ^ 32) (failed : tokenize source file? = .error error) :
    ∃ front rest tokens, source = front ++ rest ∧
      error.position.offset.toNat = front.utf8ByteSize ∧
      error.position.file = file?.getD unnamedFile ∧
      tokenize (front ++ "\n") file? = .ok tokens ∧
      Mends source file? front.utf8ByteSize tokens rest error := by
  obtain ⟨front, c, behind, tokens, whole, settled, refused, place⟩ :=
    Lexeme.settled_of_error failed
  obtain ⟨cause, position⟩ := error
  cases place
  have mends := mends_of_defect settled (Lexeme.defect_of_scan refused) whole
  have bytes : 0 + byteLength front = (String.ofList front).utf8ByteSize := by
    rw [Text.utf8ByteSize_ofList, Nat.zero_add]
  have fits : (String.ofList front).utf8ByteSize < 2 ^ 32 := by
    rw [← Text.byteLength_toList, whole, Text.byteLength_append] at short
    rw [Text.utf8ByteSize_ofList]
    omega
  rw [bytes] at mends ⊢
  refine ⟨String.ofList front, String.ofList (c :: behind), tokens, ?_, ?_, rfl, ?_, mends⟩
  · rw [← String.ofList_append, ← whole, String.ofList_toList]
  · exact UInt32.toNat_ofNat_of_lt' fits
  · have chars : (String.ofList front ++ "\n").toList = front ++ ['\n'] := by simp
    rw [tokenize, chars, settled.feed [] [], tokenizeFrom, List.append_nil, List.reverse_reverse]

/-- The second slash closes no comment that the first one opened. -/
theorem tokenize_mends_comment :
    ∃ front rest tokens, "x /*/" = front ++ rest ∧ (2 : UInt32).toNat = front.utf8ByteSize ∧
      "shell" = unnamedFile ∧ tokenize (front ++ "\n") none = .ok tokens ∧
      Mends "x /*/" none front.utf8ByteSize tokens rest
        ⟨.unterminatedComment, ⟨2, "shell"⟩⟩ := by
  have failed : tokenize "x /*/" none = .error ⟨.unterminatedComment, ⟨2, "shell"⟩⟩ := by
    cbv
  exact tokenize_mends "x /*/" none (by decide) failed

end Token
end LetLang
