import LetLang.Parser.Progress
import LetLang.Proofs.Grammar.Basic

/-! When a step over tokens succeeds: what it took, what it leaves, and what it answers. -/
namespace LetLang.Parse

variable {α β : Type} {scope : Scope} {tokens rest : List Token}

theorem bind_eq_ok {step : Parse α} {next : α → Parse β} {result : β} :
    (step >>= next) tokens = .ok result rest ↔
      ∃ value middle, step tokens = .ok value middle ∧ next value middle = .ok result rest := by
  rw [bind_eq]
  constructor
  · intro done
    cases reached : step tokens with
    | error failure left => simp [reached] at done
    | ok value middle => exact ⟨value, middle, rfl, by simpa [reached] using done⟩
  · intro parts
    rcases parts with ⟨value, middle, reached, done⟩
    rw [reached]
    exact done

theorem bind_of_ok {step : Parse α} {next : α → Parse β} {value : α} {middle : List Token}
    (reached : step tokens = .ok value middle) : (step >>= next) tokens = next value middle := by
  rw [bind_eq, reached]

theorem pure_eq_ok {value result : α} :
    (pure value : Parse α) tokens = .ok result rest ↔ result = value ∧ rest = tokens := by
  constructor
  · intro done
    cases done
    exact ⟨rfl, rfl⟩
  · intro parts
    rcases parts with ⟨rfl, rfl⟩
    rfl

theorem lift_eq_ok {outcome : Outcome Error α} {value : α} :
    lift outcome tokens = .ok value rest ↔ outcome = .ok value ∧ rest = tokens := by
  cases outcome with
  | error failure =>
      constructor
      · intro done
        cases done
      · intro parts
        rcases parts with ⟨impossible, _⟩
        cases impossible
  | ok found =>
      rw [show lift (.ok found) = (pure found : Parse α) from rfl, pure_eq_ok, Except.ok.injEq,
        @eq_comm _ value]

theorem peek_eq_ok {ahead : Nat} {found : Option Token} :
    peek? ahead tokens = .ok found rest ↔ found = tokens[ahead]? ∧ rest = tokens := by
  constructor
  · intro done
    cases done
    exact ⟨rfl, rfl⟩
  · intro parts
    rcases parts with ⟨rfl, rfl⟩
    rfl

theorem expectOr_eq_ok {kind : TokenKind} {error? : Option Error} {token : Token} :
    expectOr scope kind error? tokens = .ok token rest ↔
      tokens = token :: rest ∧ token.kind = kind := by
  cases tokens with
  | nil =>
      constructor
      · intro done
        cases done
      · intro parts
        rcases parts with ⟨impossible, _⟩
        cases impossible
  | cons first others =>
      have stays : current scope kind.name (first :: others) = .ok first (first :: others) := rfl
      rw [expectOr]
      rw [bind_eq, stays]
      dsimp only
      by_cases same : first.kind = kind
      · rw [if_pos same]
        constructor
        · intro done
          cases done
          exact ⟨rfl, same⟩
        · intro parts
          rcases parts with ⟨equal, _⟩
          cases equal
          rfl
      · rw [if_neg same]
        constructor
        · intro done
          cases error? with
          | none => cases done
          | some error => cases done
        · intro parts
          rcases parts with ⟨equal, other⟩
          cases equal
          exact absurd other same

theorem expect_eq_ok {kind : TokenKind} {token : Token} :
    expect scope kind tokens = .ok token rest ↔ tokens = token :: rest ∧ token.kind = kind :=
  expectOr_eq_ok

def placeOf (scope : Scope) (tokens : List Token) : Position :=
  (tokens.head?.map Token.start).getD scope.finish

theorem position_eq_ok {start : Position} :
    position scope tokens = .ok start rest ↔ start = placeOf scope tokens ∧ rest = tokens := by
  cases tokens with
  | nil => exact pure_eq_ok
  | cons token others => exact pure_eq_ok

theorem checkUnique_eq_ok {name : String} {place : Position} {done : Unit} :
    checkUnique scope name place tokens = .ok done rest ↔
      scope.program.containsName name = false ∧ rest = tokens := by
  rw [checkUnique]
  cases taken : scope.program.containsName name with
  | true =>
      constructor
      · intro done
        cases done
      · intro parts
        rcases parts with ⟨impossible, _⟩
        cases impossible
  | false =>
      simp only [Bool.false_eq_true, if_false, true_and]
      exact pure_eq_ok.trans (by simp)

theorem skip_eq_ok {kind : TokenKind} {done : Unit} :
    skip kind tokens = .ok done rest ↔
      ∃ mark, tokens = mark ++ rest ∧ Grammar.Optional kind mark ∧
        (rest.head?.map Token.kind = some kind → mark ≠ []) := by
  have taken : ∀ {token others}, skip kind (token :: others) =
      .ok () (if token.kind = kind then others else token :: others) := rfl
  constructor
  · intro same
    rcases tokens with _ | ⟨token, others⟩
    · cases same
      exact ⟨[], rfl, .absent, fun next => absurd next (by simp)⟩
    · rw [taken] at same
      cases same
      by_cases present : token.kind = kind
      · refine ⟨[token], by simp [present], .present present, ?_⟩
        exact fun _ => List.cons_ne_nil token []
      · refine ⟨[], by simp [present], .absent, ?_⟩
        intro again
        simp [present] at again
  · intro parts
    rcases parts with ⟨mark, rfl, optional, whenever⟩
    cases optional with
    | present same => exact taken.trans (by rw [if_pos same]; rfl)
    | absent =>
        rcases rest with _ | ⟨token, others⟩
        · rfl
        · have other : token.kind ≠ kind := fun same => whenever (by simp [same]) rfl
          exact taken.trans (by rw [if_neg other])

end LetLang.Parse
