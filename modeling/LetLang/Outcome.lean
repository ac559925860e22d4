import LetLang.Cause
import LetLang.Position

/-! Results that may be refused for a cause, at a place or not, and those that may crash. -/
namespace LetLang

structure Error where
  cause : Cause
  position : Position
  deriving DecidableEq

/-- An operation gives no result when it is refused for a reason, or when it crashes: it was run on
a state that it has no answer for. -/
inductive Failure (ε : Type) where
  | refused (reason : ε)
  | crash
  deriving DecidableEq

abbrev Outcome (ε α : Type) := Except (Failure ε) α

namespace Outcome

def refuse {ε α : Type} (reason : ε) : Outcome ε α := .error (.refused reason)

def crash {ε α : Type} : Outcome ε α := .error .crash

def ofExcept {ε α : Type} : Except ε α → Outcome ε α
  | .ok value => .ok value
  | .error reason => refuse reason

def positioned {α : Type} (outcome : Outcome Cause α) (position : Position) : Outcome Error α :=
  match outcome with
  | .ok value => .ok value
  | .error (.refused cause) => refuse ⟨cause, position⟩
  | .error .crash => crash

end Outcome
end LetLang
