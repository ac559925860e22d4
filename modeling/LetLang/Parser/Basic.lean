import LetLang.Program.Basic
import LetLang.Token.Basic

/-! Steps over tokens. A step takes tokens off the front, and what it took stays taken when it
fails. -/
namespace LetLang

/-- What a step sees beside the tokens: the program so far, and where the source ends. -/
structure Scope where
  program : Program
  finish : Position

abbrev Parse (α : Type) := EStateM (Failure Error) (List Token) α

namespace Parse

def refuse {α : Type} (cause : Cause) (position : Position) : Parse α :=
  throw (.refused ⟨cause, position⟩)

def lift {α : Type} (outcome : Outcome Error α) : Parse α :=
  match outcome with
  | .ok value => pure value
  | .error failure => throw failure

def current (scope : Scope) (expected : String) : Parse Token := do
  match ← get with
  | token :: _ => return token
  | [] => refuse (.unexpectedEnd expected) scope.finish

def peek? (ahead : Nat) : Parse (Option Token) := return (← get)[ahead]?

def kind? : Parse (Option TokenKind) := return (← peek? 0).map Token.kind

def hasTokens : Parse Bool := return !(← get).isEmpty

def advance (scope : Scope) (expected : String) : Parse Token := do
  let token ← current scope expected
  modify List.tail
  return token

/-- Takes a token of the kind; another one stays, and is refused with `error?` or as misplaced. -/
def expectOr (scope : Scope) (kind : TokenKind) (error? : Option Error) : Parse Token := do
  let token ← current scope kind.name
  if token.kind = kind then advance scope kind.name
  else
    match error? with
    | some error => throw (.refused error)
    | none => refuse (.misplacedToken token.value ("expected " ++ kind.name)) token.start

def expect (scope : Scope) (kind : TokenKind) : Parse Token := expectOr scope kind none

def position (scope : Scope) : Parse Position := do
  match ← get with
  | token :: _ => return token.start
  | [] => return scope.finish

def checkUnique (scope : Scope) (name : String) (position : Position) : Parse Unit :=
  if scope.program.containsName name then refuse (.nameAlreadyDeclared name) position
  else pure ()

def skip (kind : TokenKind) : Parse Unit :=
  modify fun tokens =>
    match tokens with
    | token :: rest => if token.kind = kind then rest else token :: rest
    | [] => []

end Parse
end LetLang
