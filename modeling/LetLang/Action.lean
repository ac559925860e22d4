import LetLang.Kind

/-! What a kind can do, and the operator characters that spell it. -/
namespace LetLang

inductive ActionName where
  | add
  | subtract
  | multiply
  | divide
  | get
  deriving DecidableEq

def ActionName.text : ActionName → String
  | add => "add"
  | subtract => "subtract"
  | multiply => "multiply"
  | divide => "divide"
  | get => "get"

structure Action where
  name : ActionName
  symbol : Option Char
  /-- Any number of arguments, all of the kinds of the first. -/
  spread : Bool
  arguments : List (List Kind)
  deriving DecidableEq

namespace Action

def acceptedKinds? (action : Action) (index : Nat) : Option (List Kind) :=
  if action.spread then action.arguments.head? else action.arguments[index]?

def arithmetic (name : ActionName) (symbol : Char) : Action :=
  ⟨name, some symbol, true, [Kind.numeric]⟩

def number : List Action :=
  [arithmetic .add '+', arithmetic .subtract '-', arithmetic .multiply '*', arithmetic .divide '/']

def object : List Action := [⟨.get, some '.', false, [[Kind.string]]⟩]

def isSpelled (action : Action) (text : String) : Bool :=
  match action.symbol with
  | some symbol => text.toList == [symbol]
  | none => false

end Action

namespace Kind

def actions (kind : Kind) : List Action :=
  if kind.isNumeric then Action.number
  else if kind = .object then Action.object
  else []

def actionForSymbol? (kind : Kind) (text : String) : Option Action :=
  match text.toList with
  | [symbol] => kind.actions.find? (·.symbol == some symbol)
  | _ => none

end Kind

namespace Operator

def entries (symbol : Char) : List (Kind × ActionName) :=
  Kind.all.flatMap fun kind =>
    (kind.actions.filter (·.symbol == some symbol)).map fun action => (kind, action.name)

def insert (symbol : Char) : List Char → List Char
  | [] => [symbol]
  | head :: tail =>
    if symbol = head then head :: tail
    else if symbol < head then symbol :: head :: tail
    else head :: insert symbol tail

def symbols : List Char :=
  (Kind.all.flatMap fun kind => kind.actions.filterMap (·.symbol)).foldr insert []

def table : List (Char × List (Kind × ActionName)) :=
  symbols.map fun symbol => (symbol, entries symbol)

theorem symbols_eq : symbols = ['*', '+', '-', '.', '/'] := by decide

end Operator
end LetLang
