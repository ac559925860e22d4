import LetLang.Value.Arithmetic

/-! Variables: made of a kind, named and valued once, and asked to run an action. -/
namespace LetLang.Variable

def new (kind : Kind) : Variable := ⟨none, kind, none, kind.actions⟩

def setName (cell : Variable) (name : String) : Except Cause Variable :=
  match cell.name? with
  | some name => .error (.nameAlreadyAssigned name)
  | none => .ok { cell with name? := some name }

/-- A value is checked against the kind, and takes its form, when it is set and never again. -/
def setValue (cell : Variable) (value : Value) : Except Cause Variable :=
  if cell.value?.isSome then .error (.valueAlreadyAssigned cell.kind.name)
  else if cell.kind.accepts value then
    .ok { cell with value? := some (cell.kind.normalise value) }
  else .error (.valueKindMismatch value.text cell.kind.name)

def anonymous (kind : Kind) (value : Value) : Except Cause Variable := (new kind).setValue value

def build (kind : Kind) (name? : Option String) (value? : Option Value) :
    Except Cause Variable := do
  let named ← match name? with
    | some name => (new kind).setName name
    | none => .ok (new kind)
  match value? with
  | some value => named.setValue value
  | none => .ok named

def member? (receiver : Variable) (name : String) : Option Variable :=
  match receiver.value? with
  | some (.object members) => members.find? (·.name? == some name)
  | _ => none

def actionForSymbol? (receiver : Variable) (text : String) : Option Action :=
  receiver.actions.find? (·.isSpelled text)

def assignedValue (cell : Variable) : Except Cause Value :=
  match cell.value? with
  | some value => .ok value
  | none => .error (.valueKindMismatch "nothing" cell.kind.name)

def checkArity (action : Action) (received : Nat) : Except Cause Unit :=
  let expected := action.arguments.length
  if action.spread then .ok ()
  else if received < expected then .error (.missingArguments expected received)
  else if expected < received then .error (.tooManyArguments expected received)
  else .ok ()

def checkKinds (action : Action) (index : Nat) : List Variable → Except Cause Unit
  | [] => .ok ()
  | argument :: arguments =>
    let accepted := (action.acceptedKinds? index).getD []
    if argument.kind ∈ accepted then checkKinds action (index + 1) arguments
    else
      let expected := " | ".intercalate (accepted.map Kind.name)
      .error (.argumentKindMismatch expected argument.kind.name)

def assignedValues : List Variable → Except Cause (List Value)
  | [] => .ok []
  | cell :: cells => do
    let value ← cell.assignedValue
    let values ← assignedValues cells
    return value :: values

def get (receiver : Variable) (name : String) : Except Cause Value :=
  match (receiver.member? name).bind Variable.value? with
  | some value => .ok value
  | none => .error (.memberNotFound name)

/-- Runs an action on a receiver. Reading a member without saying which has no answer. -/
def invoke (receiver : Variable) (action : Action) (arguments : List Variable) :
    Outcome Cause Value := do
  Outcome.ofExcept (checkArity action arguments.length)
  Outcome.ofExcept (checkKinds action 0 arguments)
  let value ← Outcome.ofExcept receiver.assignedValue
  let operands ← Outcome.ofExcept (assignedValues arguments)
  match action.name, operands with
  | .get, [] => Outcome.crash
  | .get, operand :: _ => Outcome.ofExcept (receiver.get (operand.asString?.getD ""))
  | name, operands => Outcome.ofExcept (Value.fold receiver.kind name value operands)

end LetLang.Variable
