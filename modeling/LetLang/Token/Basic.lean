import LetLang.Outcome

/-! Tokens: what they are, what they are spelled with, and where they stand. -/
namespace LetLang

inductive TokenKind where
  | number
  | string
  | identifier
  | openCurly
  | closeCurly
  | openParen
  | closeParen
  | assignment
  | semicolon
  | comma
  | letKeyword
  | asKeyword
  deriving DecidableEq

namespace TokenKind

def name : TokenKind → String
  | number => "Number"
  | string => "String"
  | identifier => "Identifier"
  | openCurly => "OpenCurly"
  | closeCurly => "CloseCurly"
  | openParen => "OpenParen"
  | closeParen => "CloseParen"
  | assignment => "Assignment"
  | semicolon => "Semicolon"
  | comma => "Comma"
  | letKeyword => "Let"
  | asKeyword => "As"

def all : List TokenKind :=
  [number, string, identifier, openCurly, closeCurly, openParen, closeParen, assignment, semicolon,
    comma, letKeyword, asKeyword]

def ofName? (name : String) : Option TokenKind := all.find? (·.name == name)

def reserved : List (String × TokenKind) := [("let", letKeyword), ("as", asKeyword)]

def ofWord (word : String) : TokenKind := (reserved.lookup word).getD identifier

theorem ofName?_name (kind : TokenKind) : ofName? kind.name = some kind := by
  cases kind <;> decide

end TokenKind

structure Token where
  kind : TokenKind
  value : String
  span : Span
  deriving DecidableEq

namespace Token

def start (token : Token) : Position := token.span.start

def summary (token : Token) : String :=
  match token.kind with
  | .string | .identifier | .number => token.kind.name ++ " (" ++ token.value ++ ")"
  | _ => token.kind.name ++ " ()"

def text (token : Token) : String :=
  "Token \x7b\nkind: " ++ token.kind.name ++ ",\nvalue: " ++ token.value ++ "\x7d"

end Token
end LetLang
