import LetLang.Outcome
import Mathlib.Logic.Relation

/-! Loops, turn by turn: which states they reach, and how they come to an end. -/
namespace LetLang

inductive Turn (σ α : Type) where
  | more (next : σ)
  | done (result : α)

namespace Loop

variable {ε σ α : Type} {turn : σ → Outcome ε (Turn σ α)}

abbrev Reaches (turn : σ → Outcome ε (Turn σ α)) : σ → σ → Prop :=
  Relation.ReflTransGen fun state next => turn state = .ok (.more next)

/-- The loop ends, after as many turns as it takes: it is done, or its last turn fails. -/
inductive Ends (turn : σ → Outcome ε (Turn σ α)) : σ → Outcome ε α → Prop
  | last {state : σ} {result : Outcome ε α} (stops : turn state = result.map .done) :
      Ends turn state result
  | more {state next : σ} {result : Outcome ε α} (goes : turn state = .ok (.more next))
      (others : Ends turn next result) : Ends turn state result

theorem map_done_ne_more {result : Outcome ε α} {next : σ} :
    result.map (Turn.done : α → Turn σ α) ≠ .ok (.more next) := by
  cases result <;> exact nofun

theorem map_done_inj {result other : Outcome ε α}
    (same : result.map (Turn.done : α → Turn σ α) = other.map .done) : result = other := by
  cases result <;> cases other <;> cases same
  · rfl
  · rfl

theorem Ends.unique {state : σ} {result other : Outcome ε α} (ends : Ends turn state result)
    (ends' : Ends turn state other) : result = other := by
  induction ends with
  | last stops =>
      cases ends' with
      | last stops' => exact map_done_inj (stops.symm.trans stops')
      | more goes others => exact absurd (stops.symm.trans goes) map_done_ne_more
  | more goes others ih =>
      cases ends' with
      | last stops => exact absurd (stops.symm.trans goes) map_done_ne_more
      | more goes' others' =>
          cases goes.symm.trans goes'
          exact ih others'

theorem Ends.exists_last {state : σ} {result : Outcome ε α} (ends : Ends turn state result) :
    ∃ last, Reaches turn state last ∧ turn last = result.map .done := by
  induction ends with
  | @last state result stops => exact ⟨state, .refl, stops⟩
  | more goes _ ih =>
      rcases ih with ⟨last, reaches, stops⟩
      exact ⟨last, .head goes reaches, stops⟩

/-- A loop ends if something holds of its states that each turn keeps, and makes a number less. -/
theorem ends_of_less (holds : σ → Prop) {result : Outcome ε α} (number : σ → Nat)
    (each : ∀ state, holds state → turn state = result.map .done ∨
      ∃ next, turn state = .ok (.more next) ∧ holds next ∧ number next < number state)
    {state : σ} (first : holds state) : Ends turn state result := by
  induction size : number state using Nat.strongRecOn generalizing state with
  | _ n ih =>
      subst size
      rcases each state first with stops | ⟨next, goes, kept, less⟩
      · exact .last stops
      · exact .more goes (ih _ less kept rfl)

end Loop
end LetLang
