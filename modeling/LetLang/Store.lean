import LetLang.Variable

/-! Variables kept under names of their own, and the operations that make new ones of them. -/
namespace LetLang

structure Store where
  cells : List (String × Variable)

namespace Store

inductive Refusal where
  | unknownCell (name : String)
  | cause (cause : Cause)
  deriving DecidableEq

inductive Operation where
  | new (kind : Kind)
  | anonymous (kind : Kind) (value : Value)
  | setName (cell name : String)
  | setValue (cell : String) (value : Value)
  /-- An unnamed object of copies of cells. -/
  | object (members : List String)
  /-- The result of an action, as a variable of the receiver's kind. -/
  | invoke (receiver : String) (action : Action) (arguments : List String)

def empty : Store := ⟨[]⟩

def find? (store : Store) (name : String) : Option Variable := store.cells.lookup name

def put (store : Store) (name : String) (held : Variable) : Store :=
  ⟨(name, held) :: store.cells.filter (·.1 ≠ name)⟩

def find (store : Store) (name : String) : Outcome Refusal Variable :=
  match store.find? name with
  | some held => .ok held
  | none => Outcome.refuse (.unknownCell name)

def findAll (store : Store) : List String → Outcome Refusal (List Variable)
  | [] => .ok []
  | name :: names => do
    let first ← store.find name
    let others ← store.findAll names
    return first :: others

def ofCause {α : Type} : Outcome Cause α → Outcome Refusal α
  | .ok value => .ok value
  | .error (.refused cause) => Outcome.refuse (.cause cause)
  | .error .crash => Outcome.crash

def invoke (store : Store) (receiver : String) (action : Action) (arguments : List String) :
    Outcome Refusal Value := do
  let receiver ← store.find receiver
  let arguments ← store.findAll arguments
  ofCause (receiver.invoke action arguments)

def make (store : Store) : Operation → Outcome Refusal Variable
  | .new kind => .ok (Variable.new kind)
  | .anonymous kind value => ofCause (Outcome.ofExcept (Variable.anonymous kind value))
  | .setName cell name => do
    let held ← store.find cell
    ofCause (Outcome.ofExcept (held.setName name))
  | .setValue cell value => do
    let held ← store.find cell
    ofCause (Outcome.ofExcept (held.setValue value))
  | .object members => do
    let members ← store.findAll members
    ofCause (Outcome.ofExcept (Variable.anonymous .object (.object members)))
  | .invoke receiver action arguments => do
    let result ← store.invoke receiver action arguments
    let receiver ← store.find receiver
    ofCause (Outcome.ofExcept (Variable.anonymous receiver.kind result))

def apply (store : Store) (target : String) (operation : Operation) :
    Outcome Refusal Variable × Store :=
  match store.make operation with
  | .ok made => (.ok made, store.put target made)
  | .error failure => (.error failure, store)

end Store
end LetLang
