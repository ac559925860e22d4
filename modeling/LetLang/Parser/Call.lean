import LetLang.Parser.Basic
import LetLang.Token.Literal

/-! Calls: `name(argument, argument) [;]`, where the commas may be left out too. -/
namespace LetLang.Call

def isArgument (token : Token) : Bool :=
  match token.kind with
  | .identifier | .string | .number => true
  | _ => false

def takeArgument (scope : Scope) (token : Token) : Except Error Argument :=
  if token.kind = .identifier then
    match Reference.new token.value scope.program with
    | .ok target => .ok (.reference target)
    | .error cause => .error ⟨cause, token.start⟩
  else token.literal.map .literal

/-- The arguments, up to and with the closing parenthesis; one comma may stand behind each. -/
def takeArguments (scope : Scope) (behindArgument : Bool) :
    List Token → EStateM.Result (Failure Error) (List Token) (List Argument)
  | [] => .error (.refused ⟨.unexpectedEnd TokenKind.closeParen.name, scope.finish⟩) []
  | token :: tokens =>
    if behindArgument && token.kind = .comma then takeArguments scope false tokens
    else if token.kind = .closeParen then .ok [] tokens
    else if isArgument token then
      match takeArgument scope token with
      | .error error => .error (.refused error) tokens
      | .ok first =>
        match takeArguments scope true tokens with
        | .ok others rest => .ok (first :: others) rest
        | .error failure rest => .error failure rest
    else
      let detail := "expected an argument or `)`"
      .error (.refused ⟨.misplacedToken token.value detail, token.start⟩) tokens

def parse (scope : Scope) : Parse Node := do
  let second? ← Parse.peek? 1
  if second?.map Token.kind ≠ some .openParen then
    let token ← Parse.current scope "call"
    Parse.refuse (.unexpectedToken token.value) token.start
  else
    let name ← Parse.expect scope .identifier
    let _ ← Parse.expect scope .openParen
    let arguments ← takeArguments scope false
    Parse.checkUnique scope name.value name.start
    Parse.skip .semicolon
    let named := Outcome.ofExcept ((new arguments).setName name.value)
    return .call (← Parse.lift (named.positioned name.start))

end LetLang.Call
