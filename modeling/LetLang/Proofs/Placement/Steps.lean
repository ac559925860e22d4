import LetLang.Parser.Progress
import LetLang.Proofs.Placement.Basic

/-!
Steps over tokens look at kinds and values only. On tokens that stand elsewhere a step ends alike:
it takes as many, and where it fails, it fails for the same cause, at a token or at the end.
-/
namespace LetLang.Parse

inductive Stops (places : Position → Position → Prop) (finish other : Position) :
    Failure Error → Failure Error → Prop
  | placed {first second : Error} (joined : first.Joined places second) :
      Stops places finish other (.refused first) (.refused second)
  | finished {expected : String} :
      Stops places finish other (.refused ⟨.unexpectedEnd expected, finish⟩)
        (.refused ⟨.unexpectedEnd expected, other⟩)

variable {α β γ δ : Type}

inductive Ends (places : Position → Position → Prop) (finish other : Position)
    (values : α → β → Prop) : EStateM.Result (Failure Error) (List Token) α →
      EStateM.Result (Failure Error) (List Token) β → Prop
  | ok {a : α} {b : β} {rest left : List Token} (same : values a b)
      (behind : List.Forall₂ (Token.Alike places) rest left) :
      Ends places finish other values (.ok a rest) (.ok b left)
  | error {failure another : Failure Error} {rest left : List Token}
      (stops : Stops places finish other failure another) :
      Ends places finish other values (.error failure rest) (.error another left)

/-- Two steps that end alike on tokens that differ in their places only. -/
def Twin (places : Position → Position → Prop) (finish other : Position) (values : α → β → Prop)
    (step : Parse α) (another : Parse β) : Prop :=
  ∀ tokens others, List.Forall₂ (Token.Alike places) tokens others →
    Ends places finish other values (step tokens) (another others)

variable {places : Position → Position → Prop} {finish other : Position} {program : Program}
variable {values : α → β → Prop} {results : γ → δ → Prop}

theorem Twin.bind {step : Parse α} {another : Parse β} {next : α → Parse γ}
    {following : β → Parse δ} (first : Twin places finish other values step another)
    (others : ∀ a b, values a b → Twin places finish other results (next a) (following b)) :
    Twin places finish other results (step >>= next) (another >>= following) := by
  intro tokens behind alike
  rw [bind_eq, bind_eq]
  have ends := first tokens behind alike
  generalize step tokens = reached at ends ⊢
  generalize another behind = arrived at ends ⊢
  cases ends with
  | ok same rest => exact others _ _ same _ _ rest
  | error stops => exact .error stops

theorem twin_pure {a : α} {b : β} (same : values a b) :
    Twin places finish other values (pure a) (pure b) := fun _ _ alike => .ok same alike

theorem twin_throw {first second : Error} (joined : first.Joined places second) :
    Twin places finish other values (throw (.refused first) : Parse α)
      (throw (.refused second) : Parse β) := fun _ _ _ => .error (.placed joined)

theorem twin_refuse {cause : Cause} {here there : Position} (inside : ¬cause.IsEnd)
    (joined : places here there) :
    Twin places finish other values (refuse cause here : Parse α) (refuse cause there : Parse β) :=
  twin_throw ⟨⟨rfl, inside⟩, joined⟩

theorem twin_lift {outcome : Outcome Error α} {another : Outcome Error β}
    (alike : LetLang.Alike (Failure.Joined (Error.Joined places)) values outcome another)
    (safe : outcome ≠ Outcome.crash) :
    Twin places finish other values (lift outcome) (lift another) := by
  cases alike with
  | ok same => exact twin_pure same
  | error same =>
      cases same with
      | refused joined => exact twin_throw joined
      | crash => exact absurd rfl safe

theorem twin_current (expected : String) :
    Twin places finish other (Token.Alike places) (current ⟨program, finish⟩ expected)
      (current ⟨program, other⟩ expected) := by
  intro tokens others alike
  cases alike with
  | nil => exact .error .finished
  | cons first rest => exact .ok first (.cons first rest)

theorem twin_advance (expected : String) :
    Twin places finish other (Token.Alike places) (advance ⟨program, finish⟩ expected)
      (advance ⟨program, other⟩ expected) := by
  intro tokens others alike
  cases alike with
  | nil => exact .error .finished
  | cons first rest => exact .ok first rest

theorem twin_peek (ahead : Nat) :
    Twin places finish other (Option.Rel (Token.Alike places)) (peek? ahead) (peek? ahead) := by
  intro tokens others alike
  refine .ok ?_ alike
  induction alike generalizing ahead with
  | nil => exact .none
  | cons first rest ih =>
      cases ahead with
      | zero => exact .some first
      | succ ahead => exact ih ahead

theorem twin_expectOr (kind : TokenKind) {error? another? : Option Error}
    (joined : Option.Rel (Error.Joined places) error? another?) :
    Twin places finish other (Token.Alike places) (expectOr ⟨program, finish⟩ kind error?)
      (expectOr ⟨program, other⟩ kind another?) := by
  refine (twin_current kind.name).bind fun token behind same => ?_
  rw [same.kind, same.value]
  split
  · exact twin_advance _
  · cases joined with
    | none => exact twin_refuse nofun same.start
    | some equal => exact twin_throw equal

theorem twin_expect (kind : TokenKind) :
    Twin places finish other (Token.Alike places) (expect ⟨program, finish⟩ kind)
      (expect ⟨program, other⟩ kind) := twin_expectOr kind .none

/-- Steps that go on from where they stand agree if they end alike at the two ends. -/
theorem twin_fromPosition {next : Position → Parse α} {following : Position → Parse β}
    (ended : Ends places finish other values (next finish []) (following other []))
    (others : ∀ here there, places here there →
      Twin places finish other values (next here) (following there)) :
    Twin places finish other values (position ⟨program, finish⟩ >>= next)
      (position ⟨program, other⟩ >>= following) := by
  intro tokens behind alike
  cases alike with
  | nil => exact ended
  | cons first rest => exact others _ _ first.start _ _ (.cons first rest)

theorem twin_checkUnique (name : String) {here there : Position} (joined : places here there) :
    Twin places finish other Eq (checkUnique ⟨program, finish⟩ name here)
      (checkUnique ⟨program, other⟩ name there) := by
  unfold checkUnique
  dsimp only
  split
  · exact twin_refuse nofun joined
  · exact twin_pure rfl

theorem twin_skip (kind : TokenKind) :
    Twin places finish other Eq (skip kind) (skip kind) := by
  intro tokens others alike
  cases alike with
  | nil => exact .ok rfl .nil
  | @cons token another _ _ first rest =>
      show Ends places finish other Eq (.ok () (if token.kind = kind then _ else _))
        (.ok () (if another.kind = kind then _ else _))
      rw [first.kind]
      split
      · exact .ok rfl rest
      · exact .ok rfl (.cons first rest)

end LetLang.Parse
