import LetLang.Value.Basic

/-! Which values fit a kind, the form they take there, and the kind that a value has by itself. -/
namespace LetLang.Kind

def accepts (kind : Kind) (value : Value) : Bool :=
  match kind.bounds? with
  | some (.integer least greatest) =>
    match value.asInteger? with
    | some n => least ≤ n && n ≤ greatest
    | none => false
  | some (.float least greatest) =>
    match value.asFloat? with
    | some x => least.le x && x.le greatest
    | none => false
  | none =>
    match kind, value with
    | .bool, .bool _ => true
    | .char, .string text => text.toList.length == 1
    | .string, .string _ => true
    | .object, .object _ => true
    | _, _ => false

/-- A number takes the form of a numeric kind, integer or double; all else stays as it is. -/
def normalise (kind : Kind) (value : Value) : Value :=
  match kind.bounds? with
  | some (.integer _ _) =>
    match value.asInteger? with
    | some n => .integer n
    | none => value
  | some (.float _ _) =>
    match value.asFloat? with
    | some x => .float x
    | none => value
  | none => value

def ofNumericText (text : String) : Kind :=
  if text.toList.contains '.' then .f64 else .i64

/-- The kind of a value that was declared without one; a number goes by its text. -/
def ofValue (value : Value) : Kind :=
  match value with
  | .integer _ | .float _ => ofNumericText value.text
  | .bool _ => .bool
  | .string _ => .string
  | .object _ => .object

end LetLang.Kind
