import LetLang.Variable

/-! Programs: variables and calls in the order of their declaration, in one scope. -/
namespace LetLang

/-- A variable by name, looked up anew in the program at hand on every use. -/
structure Reference where
  name : String
  deriving DecidableEq

inductive Argument where
  | literal (value : Variable)
  | reference (target : Reference)

structure Call where
  name? : Option String
  arguments : List Argument

inductive Node where
  | declaration (declared : Variable)
  | call (made : Call)

structure Program where
  body : List Node

def Call.new (arguments : List Argument) : Call := ⟨none, arguments⟩

def Call.setName (call : Call) (name : String) : Except Cause Call :=
  match call.name? with
  | some name => .error (.nameAlreadyAssigned name)
  | none => .ok { call with name? := some name }

namespace Node

def name? : Node → Option String
  | declaration declared => declared.name?
  | call made => made.name?

def declared? : Node → Option Variable
  | declaration declared => some declared
  | call _ => none

end Node

namespace Program

def empty : Program := ⟨[]⟩

def push (program : Program) (node : Node) : Program := ⟨program.body ++ [node]⟩

def find? (program : Program) (name : String) : Option Variable :=
  (program.body.filterMap Node.declared?).find? (·.name? == some name)

def containsName (program : Program) (name : String) : Bool :=
  program.body.any (·.name? == some name)

end Program

namespace Reference

def resolve (reference : Reference) (program : Program) : Except Cause Variable :=
  match program.find? reference.name with
  | some found => .ok found
  | none => .error (.variableNotDeclared reference.name)

def new (name : String) (program : Program) : Except Cause Reference := do
  let _ ← resolve ⟨name⟩ program
  return ⟨name⟩

def value (reference : Reference) (program : Program) : Except Cause Value := do
  let target ← reference.resolve program
  target.assignedValue

def kind (reference : Reference) (program : Program) : Except Cause Kind := do
  let target ← reference.resolve program
  return target.kind

end Reference

namespace Argument

def value? (program : Program) : Argument → Option Value
  | literal value => value.value?
  | reference target => (target.value program).toOption

def kind (program : Program) : Argument → Except Cause Kind
  | literal value => .ok value.kind
  | reference target => target.kind program

end Argument
end LetLang
