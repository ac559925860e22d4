import LetLang.Token.Lexer

/-!
The lexical grammar. A source text is a row of pieces, each of which is of some shape and as long as
it can be; what a piece may be depends on the text behind it.
-/
namespace LetLang

def Token.content (token : Token) : TokenKind × String := (token.kind, token.value)

inductive Shape where
  | blanks
  | lineComment
  | blockComment
  | word
  | number
  | string
  | mark
  | operator
  deriving DecidableEq

@[ext] structure Lexeme where
  shape : Shape
  text : List Char
  deriving DecidableEq

namespace Lexeme

def IsBlank (c : Char) : Prop := c = ' ' ∨ c = '\t' ∨ c = '\r' ∨ c = '\n'

def IsDigit (c : Char) : Prop := '0' ≤ c ∧ c ≤ '9'

def IsNameStart (c : Char) : Prop := 'a' ≤ c ∧ c ≤ 'z' ∨ 'A' ≤ c ∧ c ≤ 'Z' ∨ c = '_'

def IsNamePart (c : Char) : Prop := IsNameStart c ∨ IsDigit c

def Follows (holds : Char → Prop) (rest : List Char) : Prop :=
  ∃ c, rest.head? = some c ∧ holds c

def FollowsFraction (rest : List Char) : Prop :=
  rest.head? = some '.' ∧ Follows IsDigit rest.tail

def marks : List (Char × TokenKind) :=
  [('(', .openParen), (')', .closeParen), ('\x7b', .openCurly), ('\x7d', .closeCurly),
    ('=', .assignment), (';', .semicolon), (',', .comma)]

def operators : List Char := ['*', '+', '-', '.', '/']

inductive Stands (rest : List Char) : Lexeme → Prop
  | blanks {text : List Char} (nonempty : text ≠ []) (inside : ∀ c ∈ text, IsBlank c)
      (ends : ¬Follows IsBlank rest) : Stands rest ⟨.blanks, text⟩
  | lineComment {body : List Char} (inside : '\n' ∉ body)
      (ends : rest = [] ∨ rest.head? = some '\n') : Stands rest ⟨.lineComment, '/' :: '/' :: body⟩
  | blockComment {body : List Char} (first : ¬['*', '/'] <:+: body ++ ['*']) :
      Stands rest ⟨.blockComment, '/' :: '*' :: (body ++ ['*', '/'])⟩
  | word {c : Char} {others : List Char} (starts : IsNameStart c)
      (inside : ∀ d ∈ others, IsNamePart d) (ends : ¬Follows IsNamePart rest) :
      Stands rest ⟨.word, c :: others⟩
  | whole {digits : List Char} (nonempty : digits ≠ []) (inside : ∀ c ∈ digits, IsDigit c)
      (ends : ¬Follows IsDigit rest) (unbroken : ¬FollowsFraction rest) (followed : rest ≠ []) :
      Stands rest ⟨.number, digits⟩
  | fraction {digits decimals : List Char} (nonempty : digits ≠ [])
      (inside : ∀ c ∈ digits, IsDigit c) (more : decimals ≠ [])
      (behind : ∀ c ∈ decimals, IsDigit c) (ends : ¬Follows IsDigit rest)
      (followed : rest ≠ []) : Stands rest ⟨.number, digits ++ '.' :: decimals⟩
  | string {body : List Char} (inside : '"' ∉ body) :
      Stands rest ⟨.string, '"' :: (body ++ ['"'])⟩
  | mark {c : Char} {kind : TokenKind} (listed : (c, kind) ∈ marks) : Stands rest ⟨.mark, [c]⟩
  | operator {c : Char} (listed : c ∈ operators)
      (opens : c = '/' → ¬Follows (fun next => next = '/' ∨ next = '*') rest) :
      Stands rest ⟨.operator, [c]⟩

/-- A text as a row of lexemes, each in front of what follows it. -/
inductive Reads : List Char → List Lexeme → Prop
  | done : Reads [] []
  | piece {lexeme : Lexeme} {rest : List Char} {lexemes : List Lexeme} (first : Stands rest lexeme)
      (others : Reads rest lexemes) : Reads (lexeme.text ++ rest) (lexeme :: lexemes)

def token? (lexeme : Lexeme) : Option (TokenKind × String) :=
  let value := String.ofList lexeme.text
  match lexeme.shape with
  | .blanks | .lineComment | .blockComment => none
  | .word =>
    if value = "let" then some (.letKeyword, value)
    else if value = "as" then some (.asKeyword, value)
    else some (.identifier, value)
  | .number => some (.number, value)
  | .string => some (.string, String.ofList lexeme.text.tail.dropLast)
  | .mark => (lexeme.text.head?.bind fun c => marks.lookup c).map fun kind => (kind, value)
  | .operator => some (.identifier, value)

/-- A token for a lexeme that starts at an offset: its kind, its value, and exactly its bytes. -/
structure Spells (file : String) (offset : Nat) (lexeme : Lexeme) (token : Token) : Prop where
  written : lexeme.token? = some (token.kind, token.value)
  start : token.span.start.offset.toNat = offset
  stop : token.span.stop.offset.toNat = offset + Text.byteLength lexeme.text
  startFile : token.span.start.file = file
  stopFile : token.span.stop.file = file

inductive Yields (file : String) : Nat → List Lexeme → List Token → Prop
  | done {offset : Nat} : Yields file offset [] []
  | dropped {offset : Nat} {lexeme : Lexeme} {lexemes : List Lexeme} {tokens : List Token}
      (unmarked : lexeme.token? = none)
      (others : Yields file (offset + Text.byteLength lexeme.text) lexemes tokens) :
      Yields file offset (lexeme :: lexemes) tokens
  | token {offset : Nat} {lexeme : Lexeme} {lexemes : List Lexeme} {token : Token}
      {tokens : List Token} (first : Spells file offset lexeme token)
      (others : Yields file (offset + Text.byteLength lexeme.text) lexemes tokens) :
      Yields file offset (lexeme :: lexemes) (token :: tokens)

end Lexeme
end LetLang
