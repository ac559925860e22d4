import LetLang.Program.OfTokens

/-! A program under construction, and references that outlive its changes. -/
namespace LetLang

structure Workspace where
  program : Program
  references : List (String × Reference)

namespace Workspace

inductive Refusal where
  | unknownReference (name : String)
  | cause (cause : Cause)
  | error (error : Error)
  deriving DecidableEq

def empty : Workspace := ⟨.empty, []⟩

def ofCause {α : Type} (checked : Except Cause α) : Outcome Refusal α :=
  Outcome.ofExcept (checked.mapError .cause)

def ofError {α : Type} : Outcome Error α → Outcome Refusal α
  | .ok value => .ok value
  | .error (.refused error) => Outcome.refuse (.error error)
  | .error .crash => Outcome.crash

def push (workspace : Workspace) (node : Node) : Workspace :=
  { workspace with program := workspace.program.push node }

def nameCall (call : Call) : List String → Except Cause Call
  | [] => .ok call
  | name :: names => do
    let named ← call.setName name
    nameCall named names

/-- Adds a call, named once for each name: a second one is refused. -/
def call (workspace : Workspace) (names : List String) (arguments : List Argument) :
    Outcome Refusal Workspace := ofCause do
  let made ← nameCall (Call.new arguments) names
  return workspace.push (.call made)

def parse (workspace : Workspace) (source : String) : Outcome Refusal Workspace := do
  let program ← ofError (Program.ofSource source none)
  return { workspace with program }

def clear (workspace : Workspace) : Workspace := { workspace with program := .empty }

def refer (workspace : Workspace) (key name : String) : Outcome Refusal Workspace := ofCause do
  let reference ← Reference.new name workspace.program
  let others := workspace.references.filter (·.1 ≠ key)
  return { workspace with references := (key, reference) :: others }

def find (workspace : Workspace) (key : String) : Outcome Refusal Reference :=
  match workspace.references.lookup key with
  | some reference => .ok reference
  | none => Outcome.refuse (.unknownReference key)

def resolve (workspace : Workspace) (key : String) : Outcome Refusal Variable := do
  let reference ← workspace.find key
  ofCause (reference.resolve workspace.program)

def value (workspace : Workspace) (key : String) : Outcome Refusal Value := do
  let reference ← workspace.find key
  ofCause (reference.value workspace.program)

def kind (workspace : Workspace) (key : String) : Outcome Refusal Kind := do
  let reference ← workspace.find key
  ofCause (reference.kind workspace.program)

end Workspace
end LetLang
