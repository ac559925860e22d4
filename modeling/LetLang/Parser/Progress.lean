import LetLang.Parser.Handlers

/-! Steps only ever take tokens off the front, and one that reads a node takes at least one. -/
namespace LetLang.Parse

def left {α : Type} : EStateM.Result (Failure Error) (List Token) α → List Token
  | .ok _ rest => rest
  | .error _ rest => rest

/-- What is left is an end of what there was. -/
def Advances {α : Type} (step : Parse α) : Prop := ∀ tokens, left (step tokens) <:+ tokens

def Takes {α : Type} (step : Parse α) : Prop :=
  ∀ {tokens value rest}, step tokens = .ok value rest → rest.length < tokens.length

variable {α β : Type}

theorem bind_eq (step : Parse α) (next : α → Parse β) (tokens : List Token) :
    (step >>= next) tokens = match step tokens with
      | .ok value rest => next value rest
      | .error failure rest => .error failure rest := by
  change EStateM.bind step next tokens = _
  unfold EStateM.bind
  cases step tokens <;> rfl

theorem advances_pure (value : α) : Advances (pure value) := fun _ => List.suffix_rfl

theorem advances_refuse (cause : Cause) (position : Position) :
    Advances (refuse cause position : Parse α) := fun _ => List.suffix_rfl

theorem advances_throw (failure : Failure Error) : Advances (throw failure : Parse α) :=
  fun _ => List.suffix_rfl

theorem advances_lift (outcome : Outcome Error α) : Advances (lift outcome) := by
  cases outcome
  · exact advances_throw _
  · exact advances_pure _

theorem advances_bind {step : Parse α} {next : α → Parse β} (first : Advances step)
    (others : ∀ value, Advances (next value)) : Advances (step >>= next) := by
  intro tokens
  have before := first tokens
  rw [bind_eq]
  cases reached : step tokens with
  | ok value rest =>
    rw [reached] at before
    exact (others value rest).trans before
  | error failure rest => rwa [reached] at before

theorem advances_current (scope : Scope) (expected : String) :
    Advances (current scope expected) := by
  intro tokens
  cases tokens <;> exact List.suffix_rfl

theorem advances_peek (ahead : Nat) : Advances (peek? ahead) := fun _ => List.suffix_rfl

theorem advances_position (scope : Scope) : Advances (position scope) := by
  intro tokens
  cases tokens <;> exact List.suffix_rfl

theorem advances_advance (scope : Scope) (expected : String) :
    Advances (advance scope expected) := by
  intro tokens
  cases tokens with
  | nil => exact List.suffix_rfl
  | cons token tokens => exact List.suffix_cons token tokens

theorem takes_advance (scope : Scope) (expected : String) : Takes (advance scope expected) := by
  intro tokens value rest reached
  cases tokens with
  | nil => cases reached
  | cons token tokens => cases reached; exact Nat.lt_succ_self _

theorem advances_expectOr (scope : Scope) (kind : TokenKind) (error? : Option Error) :
    Advances (expectOr scope kind error?) := by
  refine advances_bind (advances_current _ _) fun token => ?_
  split
  · exact advances_advance _ _
  · split
    · exact advances_throw _
    · exact advances_refuse _ _

theorem takes_bind {step : Parse α} {next : α → Parse β} (first : Takes step)
    (others : ∀ value, Advances (next value)) : Takes (step >>= next) := by
  intro tokens result rest reached
  rw [bind_eq] at reached
  split at reached
  · rename_i value middle taken
    have after := others value middle
    rw [reached] at after
    have := first taken
    have := after.length_le
    simp only [left] at this
    omega
  · cases reached

theorem takes_of_bind {step : Parse α} {next : α → Parse β} (first : Advances step)
    (others : ∀ value, Takes (next value)) : Takes (step >>= next) := by
  intro tokens result rest reached
  have before := first tokens
  rw [bind_eq] at reached
  split at reached
  · rename_i value middle taken
    rw [taken] at before
    have := others value reached
    have := before.length_le
    simp only [left] at this
    omega
  · cases reached

theorem takes_refuse (cause : Cause) (position : Position) :
    Takes (refuse cause position : Parse α) := by
  intro tokens value rest reached
  cases reached

theorem takes_expectOr (scope : Scope) (kind : TokenKind) (error? : Option Error) :
    Takes (expectOr scope kind error?) := by
  refine takes_of_bind (advances_current _ _) fun token => ?_
  split
  · exact takes_advance _ _
  · split
    · intro tokens value rest reached
      cases reached
    · exact takes_refuse _ _

theorem advances_checkUnique (scope : Scope) (name : String) (position : Position) :
    Advances (checkUnique scope name position) := by
  unfold checkUnique
  split
  · exact advances_refuse _ _
  · exact advances_pure _

theorem advances_skip (kind : TokenKind) : Advances (skip kind) := by
  intro tokens
  cases tokens with
  | nil => exact List.suffix_rfl
  | cons token rest =>
    show (if token.kind = kind then rest else token :: rest) <:+ token :: rest
    split
    · exact List.suffix_cons _ _
    · exact List.suffix_rfl

theorem advances_takeWindow (scope : Scope) : Advances (Declaration.takeWindow scope) := by
  intro tokens
  induction tokens with
  | nil => exact List.suffix_rfl
  | cons token tokens ih =>
    unfold Declaration.takeWindow
    split
    · exact List.suffix_rfl
    · split
      · split <;> (rename_i reached; rw [reached] at ih; exact ih.trans (List.suffix_cons _ _))
      · exact List.suffix_cons _ _

theorem advances_takeArguments (scope : Scope) (behind : Bool) :
    Advances (Call.takeArguments scope behind) := by
  intro tokens
  induction tokens generalizing behind with
  | nil => exact List.suffix_rfl
  | cons token tokens ih =>
    have tail := List.suffix_cons token tokens
    unfold Call.takeArguments
    split
    · exact (ih false).trans tail
    · split
      · exact tail
      · split
        · split
          · exact tail
          · have after := ih true
            split <;> (rename_i reached; rw [reached] at after; exact after.trans tail)
        · exact tail

theorem advances_takeName (scope : Scope) : Advances (Declaration.takeName scope) :=
  advances_bind (advances_peek _) fun _ => advances_expectOr _ _ _

/-! A reader of a node, step by step: the first one that takes a token makes it move. -/

theorem moves_bind {step : Parse α} {next : α → Parse β} (first : Advances step ∧ Takes step)
    (others : ∀ value, Advances (next value)) :
    Advances (step >>= next) ∧ Takes (step >>= next) :=
  ⟨advances_bind first.1 others, takes_bind first.2 others⟩

theorem moves_of_bind {step : Parse α} {next : α → Parse β} (first : Advances step)
    (others : ∀ value, Advances (next value) ∧ Takes (next value)) :
    Advances (step >>= next) ∧ Takes (step >>= next) :=
  ⟨advances_bind first fun value => (others value).1,
    takes_of_bind first fun value => (others value).2⟩

theorem moves_expect (scope : Scope) (kind : TokenKind) :
    Advances (expect scope kind) ∧ Takes (expect scope kind) :=
  ⟨advances_expectOr _ _ _, takes_expectOr _ _ _⟩

theorem moves_declaration (scope : Scope) :
    Advances (Declaration.parse scope) ∧ Takes (Declaration.parse scope) := by
  refine moves_bind (moves_expect _ _) fun _ => ?_
  refine advances_bind (advances_takeName _) fun name => ?_
  refine advances_bind (advances_expectOr _ _ _) fun _ => ?_
  refine advances_bind (advances_position _) fun start => ?_
  refine advances_bind (advances_takeWindow _) fun window => ?_
  refine advances_bind (advances_lift _) fun evaluated => ?_
  refine advances_bind (advances_checkUnique _ _ _) fun _ => ?_
  refine advances_bind (advances_expectOr _ _ _) fun _ => ?_
  exact advances_bind (advances_lift _) fun _ => advances_pure _

theorem moves_call (scope : Scope) : Advances (Call.parse scope) ∧ Takes (Call.parse scope) := by
  refine moves_of_bind (advances_peek _) fun second? => ?_
  split
  · refine moves_of_bind (advances_current _ _) fun _ => ?_
    exact ⟨advances_refuse _ _, takes_refuse _ _⟩
  · refine moves_bind (moves_expect _ _) fun name => ?_
    refine advances_bind (advances_expectOr _ _ _) fun _ => ?_
    refine advances_bind (advances_takeArguments _ _) fun arguments => ?_
    refine advances_bind (advances_checkUnique _ _ _) fun _ => ?_
    refine advances_bind (advances_skip _) fun _ => ?_
    exact advances_bind (advances_lift _) fun _ => advances_pure _

theorem moves_handler (handler : Handler) (scope : Scope) :
    Advances (handler.parse scope) ∧ Takes (handler.parse scope) := by
  cases handler
  · exact moves_declaration scope
  · exact moves_call scope

theorem takes_handler (handler : Handler) (scope : Scope) : Takes (handler.parse scope) :=
  (moves_handler handler scope).2

end LetLang.Parse
