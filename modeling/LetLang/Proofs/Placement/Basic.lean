import LetLang.Proofs.Outcome
import LetLang.Token.Basic
import Mathlib.Data.List.Forall2

/-!
Two runs side by side. They take the same way, and fail for the same cause if they fail, while the
places that they are about differ as a relation between places says.
-/
namespace LetLang

/-- Two runs that both succeed or both fail, with answers or reasons that a relation joins. -/
inductive Alike {ε ε' α β : Type} (reasons : ε → ε' → Prop) (values : α → β → Prop) :
    Except ε α → Except ε' β → Prop
  | ok {a : α} {b : β} (same : values a b) : Alike reasons values (.ok a) (.ok b)
  | error {reason : ε} {other : ε'} (same : reasons reason other) :
      Alike reasons values (.error reason) (.error other)

namespace Alike

variable {ε ε' α β γ δ : Type} {reasons : ε → ε' → Prop} {values : α → β → Prop}
variable {results : γ → δ → Prop} {first : Except ε α} {second : Except ε' β}

theorem bind {next : α → Except ε γ} {other : β → Except ε' δ}
    (alike : Alike reasons values first second)
    (others : ∀ a b, values a b → Alike reasons results (next a) (other b)) :
    Alike reasons results (first >>= next) (second >>= other) := by
  cases alike with
  | ok same => exact others _ _ same
  | error same => exact .error same

theorem map {f : α → γ} {g : β → δ} (alike : Alike reasons values first second)
    (others : ∀ a b, values a b → results (f a) (g b)) :
    Alike reasons results (first.map f) (second.map g) := by
  cases alike with
  | ok same => exact .ok (others _ _ same)
  | error same => exact .error same

end Alike

def Cause.IsEnd (cause : Cause) : Prop := ∃ expected, cause = .unexpectedEnd expected

structure Cause.Shared (first second : Cause) : Prop where
  same : first = second
  inside : ¬first.IsEnd

structure Error.Joined (places : Position → Position → Prop) (first second : Error) : Prop where
  cause : first.cause.Shared second.cause
  position : places first.position second.position

inductive Failure.Joined {ε ε' : Type} (reasons : ε → ε' → Prop) :
    Failure ε → Failure ε' → Prop
  | refused {first : ε} {second : ε'} (joined : reasons first second) :
      Failure.Joined reasons (.refused first) (.refused second)
  | crash : Failure.Joined reasons .crash .crash

/-- Tokens of one kind and value, which start at places that a relation joins. -/
structure Token.Alike (places : Position → Position → Prop) (first second : Token) : Prop where
  kind : first.kind = second.kind
  value : first.value = second.value
  start : places first.start second.start

variable {α β ε ε' : Type} {reasons : ε → ε' → Prop} {values : α → β → Prop}
variable {places : Position → Position → Prop} {here there : Position}

theorem Outcome.ofExcept_alike {first : Except ε α} {second : Except ε' β}
    (alike : Alike reasons values first second) :
    Alike (Failure.Joined reasons) values (ofExcept first) (ofExcept second) := by
  cases alike with
  | ok same => exact .ok same
  | error same => exact .error (.refused same)

theorem Outcome.positioned_alike {first : Outcome Cause α} {second : Outcome Cause β}
    (alike : Alike (Failure.Joined Cause.Shared) values first second)
    (joined : places here there) :
    Alike (Failure.Joined (Error.Joined places)) values (first.positioned here)
      (second.positioned there) := by
  cases alike with
  | ok same => exact .ok same
  | error same =>
      cases same with
      | refused shared => exact .error (.refused ⟨shared, joined⟩)
      | crash => exact .error .crash

theorem mapError_alike {first : Except Cause α} {second : Except Cause β}
    (alike : Alike Cause.Shared values first second) (joined : places here there) :
    Alike (Error.Joined places) values (first.mapError fun cause => ⟨cause, here⟩)
      (second.mapError fun cause => ⟨cause, there⟩) := by
  cases alike with
  | ok same => exact .ok same
  | error shared => exact .error ⟨shared, joined⟩

abbrev Inside (step : Except Cause α) : Prop := Alike Cause.Shared Eq step step

theorem inside_ok (value : α) : Inside (.ok value) := .ok rfl

theorem inside_error {cause : Cause} (inside : ¬cause.IsEnd) :
    Inside (.error cause : Except Cause α) := .error ⟨rfl, inside⟩

theorem inside_bind {step : Except Cause α} {next : α → Except Cause β} (first : Inside step)
    (others : ∀ value, Inside (next value)) : Inside (step >>= next) := by
  refine first.bind fun value other same => ?_
  rw [← same]
  exact others value

end LetLang
