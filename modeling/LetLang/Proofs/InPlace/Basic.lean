import LetLang.Program.Reduction

/-!
Reduction in place. The slots of a window are visited from left to right: an operator stores its
result in its own slot and clears the two beside it, and what is not cleared at the end is counted.
-/
namespace LetLang.InPlace

/-- A slot is cleared, or holds a name that is still to be visited, or a variable. -/
inductive Cell where
  | cleared
  | name (token : Token)
  | value (held : Variable)

namespace Cell

def ofToken (token : Token) : Except Error Cell :=
  if token.kind = .identifier then .ok (.name token) else token.literal.map .value

def value? : Cell → Option Variable
  | value held => some held
  | cleared | name _ => none

end Cell

def literalAt? (written : List Cell) (place : Nat) : Option Variable :=
  written[place]?.bind Cell.value?

def operator? (written : List Cell) (text : String) : Nat → Option (Variable × Action)
  | 0 => none
  | place + 1 => do
    let receiver ← literalAt? written place
    let action ← receiver.actionForSymbol? text
    return (receiver, action)

def applied (receiver : Variable) (action : Action) (argument? : Option Variable) :
    Outcome Cause Variable := do
  let value ← receiver.invoke action argument?.toList
  Outcome.ofExcept (Variable.anonymous receiver.kind value)

def visit (program : Program) (written cells : List Cell) (place : Nat) :
    Outcome Error (List Cell) :=
  match cells[place]? with
  | some (.name token) =>
    match operator? written token.value place with
    | some (receiver, action) => do
      let argument? := literalAt? written (place + 1)
      let result ← (applied receiver action argument?).positioned token.start
      let others := (cells.set (place - 1) .cleared).set (place + 1) .cleared
      return others.set place (.value result)
    | none => do
      let resolved := Outcome.ofExcept (Reference.resolve ⟨token.value⟩ program)
      let found ← resolved.positioned token.start
      return cells.set place (.value found)
  | _ => .ok cells

def held (cells : List Cell) : List Variable := cells.filterMap Cell.value?

def compact (start : Position) (cells : List Cell) : Except Error Variable :=
  match held cells with
  | [] => .error ⟨.emptyExpression, start⟩
  | [left] => .ok left
  | left => .error ⟨.irreducibleExpression left.length, start⟩

def reduce (program : Program) (start : Position) (window : List Token) :
    Outcome Error Variable := do
  let written ← Outcome.ofExcept (window.mapM Cell.ofToken)
  let cells ← (List.range written.length).foldlM (visit program written) written
  Outcome.ofExcept (compact start cells)

end LetLang.InPlace
