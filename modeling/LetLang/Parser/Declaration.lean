import LetLang.Parser.Basic
import LetLang.Program.Reduction

/-! Declarations: `let name = value tokens [as kind];`. -/
namespace LetLang.Declaration

def isCalculable (token : Token) : Bool :=
  match token.kind with
  | .string | .number | .identifier | .asKeyword => true
  | _ => false

def takeWindow (scope : Scope) :
    List Token → EStateM.Result (Failure Error) (List Token) (List Token)
  | [] => .error (.refused ⟨.unexpectedEnd TokenKind.semicolon.name, scope.finish⟩) []
  | token :: tokens =>
    if token.kind = .semicolon then .ok [] (token :: tokens)
    else if isCalculable token then
      match takeWindow scope tokens with
      | .ok others rest => .ok (token :: others) rest
      | .error failure rest => .error failure rest
    else .error (.refused ⟨.incalculableToken token.value, token.start⟩) tokens

def splitKind (name : String) (window : List Token) : Except Error (List Token × Option Kind) :=
  match window.reverse with
  | written :: descriptor :: core =>
    if descriptor.kind = .asKeyword then
      if written.kind = .identifier then
        match Kind.ofName? written.value with
        | some kind => .ok (core.reverse, some kind)
        | none => .error ⟨.unknownType written.value, written.start⟩
      else .error ⟨.invalidTypeDescriptor name, written.start⟩
    else .ok (window, none)
  | _ => .ok (window, none)

def checkDescriptors (core : List Token) : Except Error Unit :=
  match core.find? (·.kind = .asKeyword) with
  | some token => .error ⟨.unexpectedTypeDescriptor, token.start⟩
  | none => .ok ()

def nameDetail : String := "expected identifier during variable declaration"

def takeName (scope : Scope) : Parse Token := do
  let next? ← Parse.peek? 0
  let error? := next?.map fun token => ⟨.misplacedToken token.value nameDetail, token.start⟩
  Parse.expectOr scope .identifier error?

/-- The value and the kind that the value tokens give, errors without a token placed at `start`. -/
def evaluate (scope : Scope) (name : String) (start : Position) (window : List Token) :
    Outcome Error (Value × Kind) := do
  let (core, kind?) ← Outcome.ofExcept (splitKind name window)
  Outcome.ofExcept (checkDescriptors core)
  let reduced ← Reduction.reduce scope.program start core
  match reduced.value? with
  | some value => return (value, kind?.getD (.ofValue value))
  | none => Outcome.refuse ⟨.emptyExpression, start⟩

def parse (scope : Scope) : Parse Node := do
  let _ ← Parse.expect scope .letKeyword
  let name ← takeName scope
  let _ ← Parse.expect scope .assignment
  let start ← Parse.position scope
  let window ← takeWindow scope
  let (value, kind) ← Parse.lift (evaluate scope name.value start window)
  Parse.checkUnique scope name.value name.start
  let _ ← Parse.expect scope .semicolon
  let declared := Outcome.ofExcept (Variable.build kind (some name.value) (some value))
  return .declaration (← Parse.lift (declared.positioned start))

end LetLang.Declaration
