import LetLang.Program.Basic
import LetLang.Token.Literal

/-!
The value tokens of a declaration, reduced to one variable. A name that spells an action of the
literal before it is an occurrence of an operator; each occurrence is applied once, to its
neighbours as they were written, and takes their place. Whatever else is left must be one element.
-/
namespace LetLang.Reduction

structure Term where
  token : Token
  literal? : Option Variable

/-- A term with the action that it is an occurrence of, if it is one. -/
structure Slot where
  term : Term
  action? : Option Action

inductive Element where
  | value (reduced : Variable)
  | reference (target : Reference)

def term (token : Token) : Except Error Term :=
  if token.kind = .identifier then .ok ⟨token, none⟩
  else token.literal.map fun literal => ⟨token, some literal⟩

def terms : List Token → Except Error (List Term)
  | [] => .ok []
  | token :: tokens => do
    let first ← term token
    let others ← terms tokens
    return first :: others

def occurrence? (before : Option Variable) (current : Term) : Option Action :=
  match current.literal?, before with
  | none, some receiver => receiver.actionForSymbol? current.token.value
  | _, _ => none

def slots (before : Option Variable) : List Term → List Slot
  | [] => []
  | current :: others => ⟨current, occurrence? before current⟩ :: slots current.literal? others

def isOccurrence (neighbour : Option Slot) : Bool :=
  match neighbour with
  | some slot => slot.action?.isSome
  | none => false

def literalOf? (neighbour : Option Slot) : Option Variable := neighbour.bind (·.term.literal?)

/-- What a slot leaves behind between its neighbours: the result of its action, nothing where an
occurrence has taken it, or itself. -/
def reduceSlot (program : Program) (before : Option Slot) (slot : Slot) (after : Option Slot) :
    Outcome Error (Option Element) :=
  match slot.action?, literalOf? before with
  | some action, some receiver => do
    let result : Outcome Cause Variable := do
      let value ← receiver.invoke action (literalOf? after).toList
      Outcome.ofExcept (Variable.anonymous receiver.kind value)
    let reduced ← result.positioned slot.term.token.start
    return some (.value reduced)
  | _, _ =>
    if isOccurrence before || isOccurrence after then .ok none
    else
      match slot.term.literal? with
      | some literal => .ok (some (.value literal))
      | none => do
        let made := Outcome.ofExcept (Reference.new slot.term.token.value program)
        let target ← made.positioned slot.term.token.start
        return some (.reference target)

def reduceSlots (program : Program) (before : Option Slot) :
    List Slot → Outcome Error (List Element)
  | [] => .ok []
  | slot :: others => do
    let first ← reduceSlot program before slot others.head?
    let rest ← reduceSlots program (some slot) others
    return first.toList ++ rest

def single (program : Program) (start : Position) : List Element → Except Error Variable
  | [] => .error ⟨.emptyExpression, start⟩
  | [.value reduced] => .ok reduced
  | [.reference target] => (target.resolve program).mapError fun cause => ⟨cause, start⟩
  | elements => .error ⟨.irreducibleExpression elements.length, start⟩

def reduce (program : Program) (start : Position) (window : List Token) :
    Outcome Error Variable := do
  let terms ← Outcome.ofExcept (terms window)
  let elements ← reduceSlots program none (slots none terms)
  Outcome.ofExcept (single program start elements)

end LetLang.Reduction
