import LetLang.Json
import LetLang.Program.Basic
import LetLang.Token.Basic

/-! Tokens and programs as JSON documents. -/
namespace LetLang

def Action.document (action : Action) : Json :=
  .object [
    ("name", .string action.name.text),
    ("literal_syntax", match action.symbol with
      | some symbol => .string (String.singleton symbol)
      | none => .null),
    ("spread_arguments", .bool action.spread),
    ("arguments", .array (action.arguments.map fun kinds =>
      .array (kinds.map fun kind => .string kind.name)))]

def optionalText (text? : Option String) : Json :=
  match text? with
  | some text => .string text
  | none => .null

/-- A kind without actions leaves their field out. -/
def actionsField (actions : List Action) : List (String × Json) :=
  if actions.isEmpty then [] else [("actions", .array (actions.map Action.document))]

namespace Value

mutual

def document : Value → Json
  | integer value => .integer value.toInt
  | float value => .float value
  | bool value => .bool value
  | string value => .string value
  | object members => .array (memberDocuments members)

def memberDocuments : List Variable → List Json
  | [] => []
  | member :: members => .object (variableFields member) :: memberDocuments members

def variableFields : Variable → List (String × Json)
  | ⟨name?, kind, some value, actions⟩ =>
    ("name", optionalText name?) :: ("type", .string kind.name) :: ("value", document value) ::
      actionsField actions
  | ⟨name?, kind, none, actions⟩ =>
    ("name", optionalText name?) :: ("type", .string kind.name) :: ("value", .null) ::
      actionsField actions

end

end Value

def Variable.fields (held : Variable) : List (String × Json) := Value.variableFields held

def Variable.document (held : Variable) : Json := .object held.fields

def Argument.document : Argument → Json
  | literal value => .object (("argument", .string "literal") :: value.fields)
  | reference target =>
    .object [("argument", .string "reference"), ("name", .string target.name)]

def Node.document : Node → Json
  | declaration declared => .object (("node", .string "variable") :: declared.fields)
  | call made =>
    .object [
      ("node", .string "call"),
      ("function_name", optionalText made.name?),
      ("arguments", .array (made.arguments.map Argument.document))]

def Program.document (program : Program) : Json :=
  .object [("body", .array (program.body.map Node.document))]

def Position.document (position : Position) : Json :=
  .array [.integer position.offset.toNat, .string position.file]

def Token.document (token : Token) : Json :=
  .object [
    ("kind", .string token.kind.name),
    ("value", .string token.value),
    ("span", .object [
      ("start", token.span.start.document),
      ("end", token.span.stop.document)])]

def Token.dump (tokens : List Token) : String := (Json.array (tokens.map Token.document)).pretty

def Program.dump (program : Program) : String := program.document.pretty

end LetLang
