import LetLang.Value.Fit

/-! Arithmetic on values: exact for integer kinds while both operands are whole, else in doubles. -/
namespace LetLang.Value

def notNumeric (action : ActionName) : Cause := .misplacedToken action.text "not a numeric action"

def exactly (result : Option Int128) : Except Cause Value :=
  match result with
  | some n => .ok (.integer n)
  | none => .error .arithmeticOverflow

def applyIntegers (action : ActionName) (a b : Int128) : Except Cause Value :=
  match action with
  | .add => exactly (a.add? b)
  | .subtract => exactly (a.sub? b)
  | .multiply => exactly (a.mul? b)
  | .divide => if b.toInt = 0 then .error .divisionByZero else exactly (a.div? b)
  | .get => .error (notNumeric .get)

def applyFloats (action : ActionName) (a b : Binary64) : Except Cause Value :=
  match action with
  | .add => .ok (.float (a.add b))
  | .subtract => .ok (.float (a.sub b))
  | .multiply => .ok (.float (a.mul b))
  | .divide => .ok (.float (a.div b))
  | .get => .error (notNumeric .get)

def apply (kind : Kind) (action : ActionName) (left right : Value) : Except Cause Value :=
  match kind.isInteger, left.asInteger?, right.asInteger? with
  | true, some a, some b => applyIntegers action a b
  | _, _, _ =>
    match left.asFloat?, right.asFloat? with
    | some a, some b => applyFloats action a b
    | _, _ => .error (.argumentKindMismatch "number" right.text)

/-- Applies an action to one operand after another; each step picks its arithmetic anew. -/
def fold (kind : Kind) (action : ActionName) (initial : Value) :
    List Value → Except Cause Value
  | [] => .ok initial
  | operand :: operands => do
    let result ← apply kind action initial operand
    fold kind action result operands

end LetLang.Value
