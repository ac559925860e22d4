import LetLang.Proofs.Loop
import LetLang.Proofs.Outcome
import LetLang.Proofs.Scanner.Bytes

/-!
The lexer by the byte. It stands at an offset in its source and tries patterns on the text from there
on; what handles the first one that matches says how many bytes it goes on. Each slice crashes where
its offsets are not good for one.
-/
namespace LetLang

namespace Scanner

open Text (byteLength cut)
open Token (isBlank isNameStart isNamePart isOperator cutNumber)

inductive Pattern where
  | blanks
  | lineComment
  | blockComment
  | word
  | number
  | string
  | quote
  | mark (c : Char) (kind : TokenKind)
  | operator

/-- In the order in which they are tried. -/
def patterns : List Pattern :=
  [.blanks, .lineComment, .blockComment, .word, .number, .string, .quote, .mark '\x7b' .openCurly,
    .mark '\x7d' .closeCurly, .mark '(' .openParen, .mark ')' .closeParen, .mark '=' .assignment,
    .mark ';' .semicolon, .mark ',' .comma, .operator]

namespace Pattern

def opens (c : Char) (rest : List Char) : Pattern → Bool
  | blanks => isBlank c
  | lineComment => c = '/' ∧ rest.head? = some '/'
  | blockComment => c = '/' ∧ rest.head? = some '*'
  | word => isNameStart c
  | number => c.isDigit
  | string => c = '"' ∧ '"' ∈ rest
  | quote => c = '"'
  | mark written _ => c = written
  | operator => isOperator c

def text (c : Char) (rest : List Char) : Pattern → List Char
  | blanks => (cut isBlank (c :: rest)).1
  | lineComment => (cut (· ≠ '\n') (c :: rest)).1
  | blockComment => ['/', '*']
  | word => (cut isNamePart (c :: rest)).1
  | number => (cutNumber (c :: rest)).1
  | string => '"' :: ((cut (· ≠ '"') rest).1 ++ ['"'])
  | quote => ['"']
  | mark _ _ | operator => [c]

def match? (pattern : Pattern) : List Char → Option (List Char)
  | [] => none
  | c :: rest => if pattern.opens c rest then some (pattern.text c rest) else none

end Pattern

structure State where
  scanner : Scanner
  tokens : List Token

namespace State

def start (source : String) (file? : Option String) : State := ⟨.new source file?, []⟩

def remainder (state : State) : Outcome Error (List Char) := .orCrash state.scanner.remainder?

def matched (state : State) (pattern : Pattern) : Outcome Error (List Char) := do
  let rest ← state.remainder
  return (pattern.match? rest).getD []

def skip (state : State) (bytes : Nat) : State := ⟨state.scanner.advance bytes, state.tokens⟩

def push (state : State) (kind : TokenKind) (value : List Char) (bytes : Nat) : State :=
  ⟨state.scanner.advance bytes,
    ⟨kind, String.ofList value, state.scanner.span bytes⟩ :: state.tokens⟩

def refuse {α : Type} (state : State) (cause : Cause) : Outcome Error α :=
  Outcome.refuse ⟨cause, state.scanner.position⟩

def skipMatched (state : State) (pattern : Pattern) : Outcome Error State := do
  let text ← state.matched pattern
  return state.skip (byteLength text)

def skipComment (state : State) : Outcome Error State := do
  let rest ← state.remainder
  let behind ← .orCrash (dropBytes? 2 rest)
  match closeAt? behind with
  | some bytes => return state.skip (bytes + 4)
  | none => state.refuse .unterminatedComment

def pushNumber (state : State) : Outcome Error State := do
  let text ← state.matched .number
  let rest ← state.remainder
  if byteLength text = byteLength rest then
    state.refuse (.unterminatedNumber (String.ofList text))
  else return state.push .number text (byteLength text)

def pushString (state : State) : Outcome Error State := do
  let text ← state.matched .string
  let stop ← .difference (byteLength text) 1
  let body ← .orCrash (slice? 1 stop text)
  return state.push .string body (byteLength text)

def pushWord (state : State) : Outcome Error State := do
  let text ← state.matched .word
  return state.push (.ofWord (String.ofList text)) text (byteLength text)

def pushOperator (state : State) : Outcome Error State := do
  let text ← state.matched .operator
  return state.push .identifier text (byteLength text)

def handle (state : State) : Pattern → Outcome Error State
  | .blanks => state.skipMatched .blanks
  | .lineComment => state.skipMatched .lineComment
  | .blockComment => state.skipComment
  | .word => state.pushWord
  | .number => state.pushNumber
  | .string => state.pushString
  | .quote => state.refuse .unterminatedString
  | .mark c kind => .ok (state.push kind [c] c.utf8Size)
  | .operator => state.pushOperator

def turn (state : State) : Outcome Error (Turn State (List Token)) :=
  if state.scanner.atEnd then .ok (.done state.tokens.reverse)
  else do
    let rest ← state.remainder
    match patterns.find? fun pattern => (pattern.match? rest).isSome with
    | some pattern => return .more (← state.handle pattern)
    | none => do
      let c ← .orCrash state.scanner.at?
      state.refuse (.unrecognisedToken (String.singleton c))

end State
end Scanner
end LetLang
