import LetLang.Parser.Progress
import LetLang.Proofs.Placement.Basic

/-!
Steps over tokens behind which more tokens come. A step that does not run out of tokens ends as it
did, and leaves the tokens behind to the next one.
-/
namespace LetLang.Parse

variable {α β : Type}

inductive Continued (more : List Token) : EStateM.Result (Failure Error) (List Token) α →
    EStateM.Result (Failure Error) (List Token) α → Prop
  | ok {value : α} {rest : List Token} : Continued more (.ok value rest) (.ok value (rest ++ more))
  | error {failure : Failure Error} {left behind : List Token} :
      Continued more (.error failure left) (.error failure behind)
  | ended {error : Error} {left : List Token}
      {result : EStateM.Result (Failure Error) (List Token) α} (missed : error.cause.IsEnd) :
      Continued more (.error (.refused error) left) result

/-- A step goes on with more tokens as another one, which may know another end of the source. -/
def Online (more : List Token) (step other : Parse α) : Prop :=
  ∀ tokens, Continued more (step tokens) (other (tokens ++ more))

/-- What fails for another reason than the end of the tokens fails for it with more of them too. -/
def Firm (more : List Token) (step other : Parse α) : Prop :=
  ∀ {tokens failure left}, step tokens = .error failure left →
    (∃ error, failure = .refused error ∧ error.cause.IsEnd) ∨
      ∃ behind, other (tokens ++ more) = .error failure behind

variable {more : List Token} {program : Program} {finish other : Position}

theorem Online.bind {step another : Parse α} {next following : α → Parse β}
    (first : Online more step another)
    (others : ∀ value, Online more (next value) (following value)) :
    Online more (step >>= next) (another >>= following) := by
  intro tokens
  rw [bind_eq, bind_eq]
  have ends := first tokens
  generalize step tokens = reached at ends ⊢
  generalize another (tokens ++ more) = arrived at ends ⊢
  cases ends with
  | ok => exact others _ _
  | error => exact .error
  | ended missed => exact .ended missed

theorem Online.firm {step another : Parse α} (online : Online more step another) :
    Firm more step another := by
  intro tokens failure left failed
  have ends := online tokens
  rw [failed] at ends
  generalize another (tokens ++ more) = arrived at ends ⊢
  cases ends with
  | error => exact .inr ⟨_, rfl⟩
  | ended missed => exact .inl ⟨_, rfl, missed⟩

theorem Firm.bind {step another : Parse α} {next following : α → Parse β}
    (first : Online more step another)
    (others : ∀ value, Firm more (next value) (following value)) :
    Firm more (step >>= next) (another >>= following) := by
  intro tokens failure left failed
  rw [bind_eq] at failed ⊢
  have ends := first tokens
  generalize step tokens = reached at ends failed
  generalize another (tokens ++ more) = arrived at ends ⊢
  cases ends with
  | ok => exact others _ failed
  | error =>
      cases failed
      exact .inr ⟨_, rfl⟩
  | ended missed =>
      cases failed
      exact .inl ⟨_, rfl, missed⟩

theorem firm_of_ok {step another : Parse α}
    (succeeds : ∀ tokens, ∃ value rest, step tokens = .ok value rest) :
    Firm more step another := by
  intro tokens failure left failed
  rcases succeeds tokens with ⟨value, rest, reached⟩
  rw [reached] at failed
  cases failed

theorem online_pure (value : α) : Online more (pure value) (pure value) := fun _ => .ok

theorem online_throw (failure : Failure Error) :
    Online more (throw failure : Parse α) (throw failure) := fun _ => .error

theorem online_refuse (cause : Cause) (position : Position) :
    Online more (refuse cause position : Parse α) (refuse cause position) := online_throw _

theorem online_lift (outcome : Outcome Error α) : Online more (lift outcome) (lift outcome) := by
  cases outcome with
  | error failure => exact online_throw failure
  | ok value => exact online_pure value

theorem online_current (expected : String) :
    Online more (current ⟨program, finish⟩ expected) (current ⟨program, other⟩ expected) := by
  intro tokens
  cases tokens with
  | nil => exact .ended ⟨expected, rfl⟩
  | cons token tokens => exact .ok

theorem online_advance (expected : String) :
    Online more (advance ⟨program, finish⟩ expected) (advance ⟨program, other⟩ expected) := by
  intro tokens
  cases tokens with
  | nil => exact .ended ⟨expected, rfl⟩
  | cons token tokens => exact .ok

theorem online_expectOr (kind : TokenKind) (error? : Option Error) :
    Online more (expectOr ⟨program, finish⟩ kind error?)
      (expectOr ⟨program, other⟩ kind error?) := by
  refine (online_current kind.name).bind fun token => ?_
  split
  · exact online_advance _
  · split
    · exact online_throw _
    · exact online_refuse _ _

theorem online_expect (kind : TokenKind) :
    Online more (expect ⟨program, finish⟩ kind) (expect ⟨program, other⟩ kind) :=
  online_expectOr kind none

/-- Where no token is left the place is the end of the source, so what comes next must miss one. -/
theorem online_fromPosition {next following : Position → Parse α}
    (ended : ∃ error left, next finish [] = .error (.refused error) left ∧ error.cause.IsEnd)
    (others : ∀ start, Online more (next start) (following start)) :
    Online more (position ⟨program, finish⟩ >>= next)
      (position ⟨program, other⟩ >>= following) := by
  intro tokens
  cases tokens with
  | nil =>
      rcases ended with ⟨error, left, failed, missed⟩
      have stops : (position ⟨program, finish⟩ >>= next) [] = .error (.refused error) left := failed
      rw [stops]
      exact .ended missed
  | cons token tokens => exact others token.start (token :: tokens)

theorem online_checkUnique (name : String) (place : Position) :
    Online more (checkUnique ⟨program, finish⟩ name place)
      (checkUnique ⟨program, other⟩ name place) := by
  unfold checkUnique
  dsimp only
  split
  · exact online_refuse _ _
  · exact online_pure _

end LetLang.Parse
