import LetLang.Program.OfTokens
import LetLang.Proofs.Placement.Parser

/-! Programs are made of tokens alike wherever these stand, and where none is made there is an error
at one of them or at the end. -/
namespace LetLang.Program

open Parse (Stops)

variable {places : Position → Position → Prop} {finish other : Position} {program : Program}
variable {tokens others : List Token}

theorem ofTokensFrom_cons {handler : Handler} (token : Token)
    (known : Handlers.find? .standard token.kind = some handler) :
    ofTokensFrom finish program (token :: tokens) =
      match handler.parse ⟨program, finish⟩ (token :: tokens) with
      | .ok node rest => ofTokensFrom finish (program.push node) rest
      | .error failure _ => .error failure := by
  rw [ofTokensFrom, known]
  dsimp only
  split
  · rename_i read
    rw [read]
  · rename_i read
    rw [read]

theorem ofTokensFrom_alike (alike : List.Forall₂ (Token.Alike places) tokens others) :
    LetLang.Alike (Stops places finish other) Eq (ofTokensFrom finish program tokens)
      (ofTokensFrom other program others) := by
  induction count : tokens.length using Nat.strongRecOn generalizing program tokens others with
  | ind count ih =>
      cases alike with
      | nil =>
          rw [ofTokensFrom, ofTokensFrom]
          exact .ok rfl
      | @cons token another tokens others first rest =>
          cases known : Handlers.find? .standard token.kind with
          | none =>
              rw [ofTokensFrom, ofTokensFrom, ← first.kind, known]
              have cause := congrArg Cause.unexpectedToken first.value
              have inside : ¬(Cause.unexpectedToken token.value).IsEnd := by rintro ⟨_, ⟨⟩⟩
              exact .error (.placed ⟨⟨cause, inside⟩, first.start⟩)
          | some handler =>
              rw [ofTokensFrom_cons token known, ofTokensFrom_cons another (first.kind ▸ known)]
              have ends := @Handler.twin_parse places finish other program handler _ _
                (.cons first rest)
              have takes := @Parse.takes_handler handler ⟨program, finish⟩ (token :: tokens)
              -- Both handlers end alike, so the rests are alike too, and they are shorter.
              generalize handler.parse ⟨program, finish⟩ (token :: tokens) = reached at *
              generalize handler.parse ⟨program, other⟩ (another :: others) = arrived at *
              cases ends with
              | error stops => exact .error stops
              | ok same behind =>
                  subst same
                  exact ih _ (count ▸ takes rfl) behind rfl

/-- Two runs over tokens alike make one program, or are refused for one cause: at the two ends where
something is missed, else at places that the relation joins. -/
theorem ofTokensFrom_twin (finish other : Position) (program : Program)
    (alike : List.Forall₂ (Token.Alike places) tokens others) :
    (∃ final, ofTokensFrom finish program tokens = .ok final ∧
      ofTokensFrom other program others = .ok final) ∨
    ∃ cause here there, ofTokensFrom finish program tokens = Outcome.refuse ⟨cause, here⟩ ∧
      ofTokensFrom other program others = Outcome.refuse ⟨cause, there⟩ ∧
      (¬cause.IsEnd ∧ places here there ∨ cause.IsEnd ∧ here = finish ∧ there = other) := by
  have runs := @ofTokensFrom_alike _ finish other program _ _ alike
  generalize ofTokensFrom finish program tokens = first at runs ⊢
  generalize ofTokensFrom other program others = second at runs ⊢
  cases runs with
  | ok equal => exact .inl ⟨_, rfl, by rw [equal]⟩
  | error stops =>
      right
      cases stops with
      | @placed error another joined =>
          rcases error with ⟨cause, here⟩
          rcases another with ⟨again, there⟩
          rcases joined with ⟨⟨equal, inside⟩, paired⟩
          cases equal
          exact ⟨cause, here, there, rfl, rfl, .inl ⟨inside, paired⟩⟩
      | @finished expected =>
          exact ⟨.unexpectedEnd expected, _, _, rfl, rfl, .inr ⟨⟨expected, rfl⟩, rfl, rfl⟩⟩

theorem ofTokensFrom_stops (finish : Position) (program : Program) (tokens : List Token) :
    (∃ final, ofTokensFrom finish program tokens = .ok final) ∨
      ∃ error, ofTokensFrom finish program tokens = Outcome.refuse error ∧
        (error.cause.IsEnd ∧ error.position = finish ∨
          ¬error.cause.IsEnd ∧ ∃ token ∈ tokens, token.start = error.position) := by
  have same : List.Forall₂
      (Token.Alike fun here there => here = there ∧ ∃ token ∈ tokens, token.start = here) tokens
      tokens := by
    apply List.forall₂_same.mpr
    intro token member
    exact ⟨rfl, rfl, rfl, token, member, rfl⟩
  rcases ofTokensFrom_twin finish finish program same with ⟨final, made, _⟩ |
    ⟨cause, here, there, refused, _, ⟨inside, _, stands⟩ | ⟨missed, place, _⟩⟩
  · exact .inl ⟨final, made⟩
  · exact .inr ⟨_, refused, .inr ⟨inside, stands⟩⟩
  · exact .inr ⟨_, refused, .inl ⟨missed, place⟩⟩

end LetLang.Program
