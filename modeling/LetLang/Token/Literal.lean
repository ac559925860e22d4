import LetLang.Token.Basic
import LetLang.Variable

/-! Literal tokens, and the unnamed variables that they stand for. -/
namespace LetLang.Token

def literalKind (token : Token) : Except Error Kind :=
  match token.kind with
  | .string => .ok .string
  | .number => .ok (.ofNumericText token.value)
  | _ =>
    .error ⟨.misplacedToken token.value "unable to infer a type for this token", token.start⟩

def literalValue (kind : Kind) (text : String) : Except Cause Value :=
  if kind = .string then .ok (.string text) else Value.ofNumericLiteral text

def literal (token : Token) : Except Error Variable := do
  let kind ← token.literalKind
  let made := do
    let value ← literalValue kind token.value
    Variable.anonymous kind value
  made.mapError fun cause => ⟨cause, token.start⟩

end LetLang.Token
