import LetLang.Action
import LetLang.Text.Basic
import LetLang.Token.Basic

/-!
Source text into tokens. The text is cut into pieces from the front, each as long as it can be;
blanks and comments are dropped, every other piece is one token.
-/
namespace LetLang.Token

open Text (cut byteLength cut_append cut_ne_nil)

/-- A stretch of text cut off the front: the token it is, if it is one, and what follows it. -/
structure Piece where
  token? : Option (TokenKind × String)
  text : List Char
  rest : List Char

def isBlank (c : Char) : Bool := c = ' ' || c = '\t' || c = '\r' || c = '\n'

def isNameStart (c : Char) : Bool := c.isAlpha || c = '_'

def isNamePart (c : Char) : Bool := c.isAlphanum || c = '_'

def structural? (c : Char) : Option TokenKind :=
  match c with
  | '\x7b' => some .openCurly
  | '\x7d' => some .closeCurly
  | '(' => some .openParen
  | ')' => some .closeParen
  | '=' => some .assignment
  | ';' => some .semicolon
  | ',' => some .comma
  | _ => none

def isOperator (c : Char) : Bool := Operator.symbols.contains c

def skip (parts : List Char × List Char) : Piece := ⟨none, parts.1, parts.2⟩

def word (parts : List Char × List Char) : Piece :=
  let text := String.ofList parts.1
  ⟨some (.ofWord text, text), parts.1, parts.2⟩

/-- Cuts after the first end of a comment; `seen` holds what came before, latest first. -/
def cutComment (seen : List Char) : List Char → Option (List Char × List Char)
  | '*' :: '/' :: rest => some (seen.reverse ++ ['*', '/'], rest)
  | c :: rest => cutComment (c :: seen) rest
  | [] => none

def cutFraction (chars : List Char) : List Char × List Char :=
  match chars with
  | '.' :: digits =>
    let (fraction, rest) := cut Char.isDigit digits
    if fraction.isEmpty then ([], chars) else ('.' :: fraction, rest)
  | _ => ([], chars)

def cutNumber (chars : List Char) : List Char × List Char :=
  let (whole, rest) := cut Char.isDigit chars
  let (fraction, rest) := cutFraction rest
  (whole ++ fraction, rest)

def number (parts : List Char × List Char) : Except Cause Piece :=
  let text := String.ofList parts.1
  if parts.2.isEmpty then .error (.unterminatedNumber text)
  else .ok ⟨some (.number, text), parts.1, parts.2⟩

def quoted (chars : List Char) : Except Cause Piece :=
  match cut (· ≠ '"') chars with
  | (body, close :: rest) =>
    .ok ⟨some (.string, String.ofList body), '"' :: (body ++ [close]), rest⟩
  | (_, []) => .error .unterminatedString

def symbol (c : Char) (rest : List Char) : Except Cause Piece :=
  let text := String.singleton c
  match structural? c with
  | some kind => .ok ⟨some (kind, text), [c], rest⟩
  | none =>
    if isOperator c then .ok ⟨some (.identifier, text), [c], rest⟩
    else .error (.unrecognisedToken text)

def scan (c : Char) (rest : List Char) : Except Cause Piece :=
  if isBlank c then .ok (skip (cut isBlank (c :: rest)))
  else if c = '/' ∧ rest.head? = some '/' then .ok (skip (cut (· ≠ '\n') (c :: rest)))
  else if c = '/' ∧ rest.head? = some '*' then
    match cutComment [] rest.tail with
    | some (body, rest) => .ok ⟨none, '/' :: '*' :: body, rest⟩
    | none => .error .unterminatedComment
  else if isNameStart c then .ok (word (cut isNamePart (c :: rest)))
  else if c.isDigit then number (cutNumber (c :: rest))
  else if c = '"' then quoted rest
  else symbol c rest

theorem cutComment_append {seen chars : List Char} {cut : List Char × List Char}
    (found : cutComment seen chars = some cut) : cut.1 ++ cut.2 = seen.reverse ++ chars := by
  fun_induction cutComment seen chars with
  | case1 seen rest => cases found; simp
  | case2 seen c rest _ ih => simpa using ih found
  | case3 => cases found

theorem cutFraction_append (chars : List Char) :
    (cutFraction chars).1 ++ (cutFraction chars).2 = chars := by
  unfold cutFraction
  split
  · dsimp only
    split
    · rfl
    · simp
  · rfl

theorem cutNumber_append (chars : List Char) :
    (cutNumber chars).1 ++ (cutNumber chars).2 = chars := by
  simp [cutNumber, cutFraction_append]

theorem cutNumber_ne_nil {c : Char} (digit : c.isDigit = true) (rest : List Char) :
    (cutNumber (c :: rest)).1 ≠ [] := by
  simp [cutNumber, cut_ne_nil digit]

theorem quoted_split {chars : List Char} {piece : Piece} (scanned : quoted chars = .ok piece) :
    piece.text ++ piece.rest = '"' :: chars ∧ piece.text ≠ [] := by
  unfold quoted at scanned
  split at scanned
  · rename_i body close rest split
    cases scanned
    have whole := cut_append (· ≠ '"') chars
    rw [split] at whole
    simp [← whole]
  · cases scanned

theorem symbol_split {c : Char} {rest : List Char} {piece : Piece}
    (scanned : symbol c rest = .ok piece) :
    piece.text ++ piece.rest = c :: rest ∧ piece.text ≠ [] := by
  unfold symbol at scanned
  split at scanned
  · cases scanned; simp
  · split at scanned <;> cases scanned
    simp

theorem scan_split {c : Char} {rest : List Char} {piece : Piece}
    (scanned : scan c rest = .ok piece) :
    piece.text ++ piece.rest = c :: rest ∧ piece.text ≠ [] := by
  unfold scan at scanned
  split at scanned
  case isTrue blank =>
    cases scanned
    exact ⟨cut_append _ _, cut_ne_nil blank _⟩
  split at scanned
  case isTrue line =>
    obtain ⟨rfl, _⟩ := line
    cases scanned
    have first : (cut (· ≠ '\n') ('/' :: rest)).1 ≠ [] := cut_ne_nil (by decide) rest
    exact ⟨cut_append _ _, first⟩
  split at scanned
  case isTrue block =>
    obtain ⟨rfl, second⟩ := block
    cases rest with
    | nil => cases second
    | cons star rest =>
      cases second
      split at scanned
      case h_1 found =>
        cases scanned
        simpa using cutComment_append found
      case h_2 => cases scanned
  split at scanned
  case isTrue start =>
    cases scanned
    refine ⟨cut_append _ _, cut_ne_nil ?_ _⟩
    simp only [isNameStart, isNamePart, Char.isAlphanum, Bool.or_eq_true] at start ⊢
    exact start.imp_left .inl
  split at scanned
  case isTrue digit =>
    unfold number at scanned
    split at scanned <;> cases scanned
    exact ⟨cutNumber_append _, cutNumber_ne_nil digit _⟩
  split at scanned
  case isTrue opened =>
    subst opened
    exact quoted_split scanned
  exact symbol_split scanned

theorem scan_shorter {c : Char} {rest : List Char} {piece : Piece}
    (scanned : scan c rest = .ok piece) : piece.rest.length < (c :: rest).length := by
  obtain ⟨whole, nonempty⟩ := scan_split scanned
  rw [← whole, List.length_append]
  have := List.length_pos_iff.mpr nonempty
  omega

def Piece.token (piece : Piece) (file : String) (offset : Nat) : Option Token :=
  let stop := offset + byteLength piece.text
  piece.token?.map fun (kind, value) =>
    ⟨kind, value, ⟨.ofNat offset, file⟩, ⟨.ofNat stop, file⟩⟩

/-- Goes on at `offset` with the text that is left; `tokens` are those before it, latest first. -/
def tokenizeFrom (file : String) (offset : Nat) (tokens : List Token) :
    List Char → Except Error (List Token)
  | [] => .ok tokens.reverse
  | c :: rest =>
    match _ : scan c rest with
    | .error cause => .error ⟨cause, ⟨.ofNat offset, file⟩⟩
    | .ok piece =>
      tokenizeFrom file (offset + byteLength piece.text)
        ((piece.token file offset).toList ++ tokens) piece.rest
termination_by chars => chars.length
decreasing_by exact scan_shorter ‹_›

def unnamedFile : String := "shell"

def tokenize (source : String) (file? : Option String) : Except Error (List Token) :=
  tokenizeFrom (file?.getD unnamedFile) 0 [] source.toList

end LetLang.Token
