import LetLang.Text.Quoted

/-! Why something is refused: the causes as data, and their wording. -/
namespace LetLang

inductive Stage where
  | lexing
  | parsing
  | validation
  deriving DecidableEq

inductive Cause where
  | unrecognisedToken (token : String)
  | unterminatedString
  | unterminatedComment
  | unterminatedNumber (token : String)
  | unexpectedEnd (expected : String)
  | unexpectedToken (token : String)
  | misplacedToken (token detail : String)
  | incalculableToken (token : String)
  | invalidTypeDescriptor (name : String)
  | unknownType (name : String)
  | unexpectedTypeDescriptor
  | variableNotDeclared (name : String)
  | nameAlreadyDeclared (name : String)
  | nameAlreadyAssigned (name : String)
  | emptyExpression
  | irreducibleExpression (remaining : Nat)
  | malformedNumber (token : String)
  | tooManyArguments (expected received : Nat)
  | missingArguments (expected received : Nat)
  | argumentKindMismatch (expected received : String)
  | memberNotFound (member : String)
  | divisionByZero
  | arithmeticOverflow
  | valueKindMismatch (value kind : String)
  | valueAlreadyAssigned (kind : String)
  deriving DecidableEq

namespace Cause

def name : Cause → String
  | unrecognisedToken _ => "UnrecognisedToken"
  | unterminatedString => "UnterminatedString"
  | unterminatedComment => "UnterminatedComment"
  | unterminatedNumber _ => "UnterminatedNumber"
  | unexpectedEnd _ => "UnexpectedEndOfFile"
  | unexpectedToken _ => "UnexpectedToken"
  | misplacedToken _ _ => "UnexpectedTokenDetailed"
  | incalculableToken _ => "IncalculableToken"
  | invalidTypeDescriptor _ => "InvalidTypeDescriptor"
  | unknownType _ => "UnknownType"
  | unexpectedTypeDescriptor => "UnexpectedTypeDescriptor"
  | variableNotDeclared _ => "VariableNotDeclared"
  | nameAlreadyDeclared _ => "NameAlreadyDeclared"
  | nameAlreadyAssigned _ => "NameAlreadyAssigned"
  | emptyExpression => "EmptyExpression"
  | irreducibleExpression _ => "IrreducibleExpression"
  | malformedNumber _ => "NumberParseError"
  | tooManyArguments _ _ => "UnexpectedArguments"
  | missingArguments _ _ => "MissingArguments"
  | argumentKindMismatch _ _ => "ArgumentTypeMatchError"
  | memberNotFound _ => "MemberNotFound"
  | divisionByZero => "DivisionByZero"
  | arithmeticOverflow => "ArithmeticOverflow"
  | valueKindMismatch _ _ => "ValueTypeMismatch"
  | valueAlreadyAssigned _ => "ValueAlreadyAssigned"

def stage : Cause → Stage
  | unrecognisedToken _ | unterminatedString | unterminatedComment | unterminatedNumber _ => .lexing
  | valueKindMismatch _ _ | valueAlreadyAssigned _ => .validation
  | _ => .parsing

open Text (quote)

/-- Names and tokens of the source are quoted; kinds, and values that do not fit one, stand bare. -/
def message : Cause → String
  | unrecognisedToken token => "unrecognised token: " ++ quote token
  | unterminatedString => "unexpected end of file while looking for closing `\"` of string"
  | unterminatedComment => "unexpected end of file while looking for closing `*/` of comment"
  | unterminatedNumber token => "unexpected end of file while looking for number: " ++ quote token
  | unexpectedEnd expected => "unexpected end of file while looking for " ++ expected
  | unexpectedToken token => "unexpected token: " ++ quote token
  | misplacedToken token detail => "unexpected token (" ++ quote detail ++ "): " ++ quote token
  | incalculableToken token => "unexpected incalculable token " ++ quote token
  | invalidTypeDescriptor name => "invalid type descriptor for variable " ++ quote name
  | unknownType name => "unknown type " ++ name ++ " found"
  | unexpectedTypeDescriptor => "unexpected type descriptor"
  | variableNotDeclared name => "variable " ++ quote name ++ " not declared"
  | nameAlreadyDeclared name => quote name ++ " already declared"
  | nameAlreadyAssigned name => "cannot rename " ++ quote name ++ ", names are assigned once"
  | emptyExpression => "expected a value, found nothing"
  | irreducibleExpression remaining =>
    "unable to reduce expression to single value (" ++ toString remaining ++ " values left)"
  | malformedNumber token => "error parsing number: " ++ quote token
  | tooManyArguments expected received =>
    "unexpected arguments: expected " ++ toString expected ++ ", received " ++ toString received
  | missingArguments expected received =>
    "missing arguments: expected " ++ toString expected ++ ", received " ++ toString received
  | argumentKindMismatch expected received =>
    "argument types do not match: expected " ++ quote expected ++ ", received " ++ quote received
  | memberNotFound member => "member " ++ quote member ++ " not found"
  | divisionByZero => "division by zero"
  | arithmeticOverflow => "arithmetic overflow"
  | valueKindMismatch value kind => "value " ++ value ++ " is not of type " ++ kind
  | valueAlreadyAssigned kind => "value of " ++ kind ++ " is already assigned"

def tip? : Cause → Option String
  | unrecognisedToken _ => none
  | unterminatedString => some "Add a closing `\"` to the string"
  | unterminatedComment => some "Close the block comment with `*/`"
  | unterminatedNumber token =>
    some ("`" ++ token ++ "` runs into the end of the file, did you miss a semicolon?")
  | unexpectedEnd _ => none
  | unexpectedToken token =>
    some ("Unexpected token: `" ++ token ++ "`, did you miss a semicolon?")
  | misplacedToken token detail => some ("Unexpected token: `" ++ token ++ "`, " ++ detail)
  | incalculableToken token =>
    some ("`" ++ token ++ "` cannot appear in a value, only literals, names and operators can")
  | invalidTypeDescriptor name =>
    some ("Write the type of `" ++ name ++ "` as a name, e.g. `as i32`")
  | unknownType name => some ("Unknown type `" ++ name ++ "` found")
  | unexpectedTypeDescriptor => some "`as` may only appear once, right before the type name"
  | variableNotDeclared name => some ("Variable `" ++ name ++ "` not declared")
  | nameAlreadyDeclared name => some ("`" ++ name ++ "` already declared")
  | nameAlreadyAssigned _ => none
  | emptyExpression => some "Expected a value between `=` and `;`"
  | irreducibleExpression _ => some "Only a single operator can be applied per declaration"
  | malformedNumber token =>
    some ("Invalid number: `" ++ token ++ "`, is it above the integer limit?")
  | tooManyArguments expected received | missingArguments expected received =>
    some ("Expected " ++ toString expected ++ " arguments, received " ++ toString received)
  | argumentKindMismatch expected received =>
    some ("Expected argument type `" ++ expected ++ "`, received `" ++ received ++ "`")
  | memberNotFound member => some ("Object has no member `" ++ member ++ "`")
  | divisionByZero => none
  | arithmeticOverflow => none
  | valueKindMismatch value kind =>
    some ("`" ++ value ++ "` does not fit in `" ++ kind ++ "`, try a wider type")
  | valueAlreadyAssigned _ => none

end Cause

end LetLang
