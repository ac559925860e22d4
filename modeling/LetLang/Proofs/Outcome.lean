import LetLang.Outcome

/-! What a chain of steps says about its parts when it succeeds, and when it cannot crash. -/
namespace LetLang

variable {ε α β : Type}

theorem except_bind_eq_ok {step : Except ε α} {next : α → Except ε β} {result : β} :
    step >>= next = .ok result ↔ ∃ value, step = .ok value ∧ next value = .ok result := by
  cases step with
  | error reason => simp [bind, Except.bind]
  | ok value => simp [bind, Except.bind]

theorem except_map_eq_ok {step : Except ε α} {f : α → β} {result : β} :
    step.map f = .ok result ↔ ∃ value, step = .ok value ∧ f value = result := by
  cases step with
  | error reason => simp [Except.map]
  | ok value => simp [Except.map]

theorem except_mapError_eq_ok {step : Except ε α} {f : ε → β} {value : α} :
    step.mapError f = .ok value ↔ step = .ok value := by
  cases step with
  | error reason =>
      constructor
      · intro mapped
        cases mapped
      · intro same
        cases same
  | ok found =>
      constructor
      · intro mapped
        cases mapped
        rfl
      · intro same
        cases same
        rfl

theorem except_map_eq_map {γ : Type} {first : Except ε α} {second : Except ε β} {f : α → γ}
    {g : β → γ} (same : first.map f = second.map g) :
    (∃ reason, first = .error reason ∧ second = .error reason) ∨
      ∃ a b, first = .ok a ∧ second = .ok b ∧ f a = g b := by
  cases first with
  | error reason =>
      cases second with
      | error other =>
          cases same
          exact .inl ⟨_, rfl, rfl⟩
      | ok value => cases same
  | ok value =>
      cases second with
      | error reason => cases same
      | ok other => exact .inr ⟨value, other, rfl, rfl, Except.ok.inj same⟩

namespace Outcome

def orCrash : Option α → Outcome ε α
  | some value => .ok value
  | none => crash

def difference (m n : Nat) : Outcome ε Nat := if n ≤ m then .ok (m - n) else crash

theorem ofExcept_eq_ok {checked : Except ε α} {value : α} :
    ofExcept checked = .ok value ↔ checked = .ok value := by
  cases checked with
  | error reason => simp [ofExcept, refuse]
  | ok found => simp [ofExcept]

theorem positioned_eq_ok {outcome : Outcome Cause α} {position : Position} {value : α} :
    outcome.positioned position = .ok value ↔ outcome = .ok value := by
  rcases outcome with (cause | _) | found
  · simp [positioned, refuse]
  · simp [positioned, crash]
  · simp [positioned]

theorem ok_ne_crash (value : α) : (.ok value : Outcome ε α) ≠ crash := by simp [crash]

theorem ofExcept_ne_crash (checked : Except ε α) : ofExcept checked ≠ crash := by
  cases checked with
  | error reason => simp [ofExcept, refuse, crash]
  | ok value => simp [ofExcept, crash]

theorem positioned_ne_crash {outcome : Outcome Cause α} (safe : outcome ≠ crash)
    (position : Position) : outcome.positioned position ≠ crash := by
  rcases outcome with (cause | _) | found
  · simp [positioned, refuse, crash]
  · exact absurd rfl safe
  · simp [positioned, crash]

theorem bind_ne_crash {step : Outcome ε α} {next : α → Outcome ε β} (safe : step ≠ crash)
    (others : ∀ value, step = .ok value → next value ≠ crash) : step >>= next ≠ crash := by
  rcases step with (reason | _) | value
  · simp [bind, Except.bind, crash]
  · exact absurd rfl safe
  · exact others value rfl

theorem refused_of_ne {outcome : Outcome ε α} (safe : outcome ≠ crash)
    (fails : ∀ value, outcome ≠ .ok value) : ∃ reason, outcome = refuse reason := by
  rcases outcome with (reason | _) | value
  · exact ⟨reason, rfl⟩
  · exact absurd rfl safe
  · exact absurd rfl (fails value)

end Outcome
end LetLang
