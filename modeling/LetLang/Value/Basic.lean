import LetLang.Action
import LetLang.Binary64.Decimal
import LetLang.Outcome

/-! Values, and the variables that hold them and that object values are made of. -/
namespace LetLang

mutual

inductive Value where
  | integer (value : Int128)
  | float (value : Binary64)
  | bool (value : Bool)
  | string (value : String)
  | object (members : List Variable)

/-- A typed cell. Its name and its value are each set at most once. -/
structure Variable where
  name? : Option String
  kind : Kind
  value? : Option Value
  actions : List Action

end

namespace Value

def asInteger? : Value → Option Int128
  | integer value => some value
  | float value => value.toInt?.bind Int128.ofInt?
  | _ => none

def asFloat? : Value → Option Binary64
  | integer value => some (.ofInt value.toInt)
  | float value => some value
  | _ => none

def asString? : Value → Option String
  | string value => some value
  | _ => none

def ofNumericLiteral (text : String) : Except Cause Value :=
  let value :=
    if text.toList.contains '.' then (Binary64.ofText? text).map float
    else (Int128.ofText? text).map integer
  match value with
  | some value => .ok value
  | none => .error (.malformedNumber text)

mutual

def text : Value → String
  | integer value => toString value.toInt
  | float value => value.text
  | bool value => if value then "true" else "false"
  | string value => value
  | object members => "\x7b" ++ ", ".intercalate (memberTexts members) ++ "\x7d"

def memberTexts : List Variable → List String
  | [] => []
  | member :: members => memberText member :: memberTexts members

def memberText : Variable → String
  | ⟨name?, _, some value, _⟩ => name?.getD "_" ++ ": " ++ text value
  | ⟨name?, _, none, _⟩ => name?.getD "_"

end

mutual

/-- Equality of values, floats compared as numbers; an integer never equals a float. -/
def same : Value → Value → Bool
  | integer a, integer b => a == b
  | float a, float b => a.sameNumber b
  | bool a, bool b => a == b
  | string a, string b => a == b
  | object a, object b => sameMembers a b
  | _, _ => false

def sameMembers : List Variable → List Variable → Bool
  | [], [] => true
  | a :: as, b :: bs => sameVariable a b && sameMembers as bs
  | _, _ => false

def sameVariable : Variable → Variable → Bool
  | ⟨name, kind, some a, actions⟩, ⟨name', kind', some b, actions'⟩ =>
    name == name' && kind == kind' && same a b && actions == actions'
  | ⟨name, kind, none, actions⟩, ⟨name', kind', none, actions'⟩ =>
    name == name' && kind == kind' && actions == actions'
  | _, _ => false

end

end Value

def Variable.same (a b : Variable) : Bool := Value.sameVariable a b

end LetLang
