import Mathlib
import LetLang.Proofs.Lexeme.Basic
import LetLang.Proofs.Placement.Program

/-! A program is the same wherever its tokens stand, and so is the token that an error is about. -/
namespace LetLang

def StartsPaired (tokens others : List Token) (here there : Position) : Prop :=
  ∃ (index : Nat) (token other : Token), tokens[index]? = some token ∧
    others[index]? = some other ∧ token.start = here ∧ other.start = there

theorem Token.alike_of_content {tokens others : List Token}
    (same : tokens.map Token.content = others.map Token.content) :
    List.Forall₂ (Token.Alike (StartsPaired tokens others)) tokens others := by
  have length : tokens.length = others.length := by
    simpa using congrArg List.length same
  refine List.forall₂_iff_get.mpr ⟨length, fun index inside within => ?_⟩
  have contents : tokens[index].content = others[index].content := by
    have equal := congrArg (·[index]?) same
    simpa [inside, within] using equal
  rcases Prod.mk.inj contents with ⟨kind, value⟩
  exact ⟨kind, value, index, _, _, List.getElem?_eq_getElem inside,
    List.getElem?_eq_getElem within, rfl, rfl⟩

namespace Program

/-- Token lists of the same kinds and values, from any two sources, make one program. Or both are
refused for one cause: at the ends of the sources where something is missed, else where the tokens of
one index start. -/
theorem ofTokens_of_content {tokens others : List Token}
    (same : tokens.map Token.content = others.map Token.content)
    (source file source' file' : String) :
    (∃ program, ofTokens tokens source file = .ok program ∧
      ofTokens others source' file' = .ok program) ∨
    ∃ cause here there, ofTokens tokens source file = Outcome.refuse ⟨cause, here⟩ ∧
      ofTokens others source' file' = Outcome.refuse ⟨cause, there⟩ ∧
      (¬cause.IsEnd ∧ StartsPaired tokens others here there ∨
        cause.IsEnd ∧ here = finishOf source file ∧ there = finishOf source' file') :=
  ofTokensFrom_twin _ _ _ (Token.alike_of_content same)

theorem uncalled_in_two_files :
    ∃ cause here there,
      ofTokens [⟨.identifier, "show", ⟨0, "a"⟩, ⟨4, "a"⟩⟩, ⟨.semicolon, ";", ⟨4, "a"⟩, ⟨5, "a"⟩⟩]
        "show;" "a" = Outcome.refuse ⟨cause, here⟩ ∧
      ofTokens [⟨.identifier, "show", ⟨2, "b"⟩, ⟨6, "b"⟩⟩, ⟨.semicolon, ";", ⟨7, "b"⟩, ⟨8, "b"⟩⟩]
        "\n show ;" "b" = Outcome.refuse ⟨cause, there⟩ ∧
      (¬cause.IsEnd ∧ StartsPaired
          [⟨.identifier, "show", ⟨0, "a"⟩, ⟨4, "a"⟩⟩, ⟨.semicolon, ";", ⟨4, "a"⟩, ⟨5, "a"⟩⟩]
          [⟨.identifier, "show", ⟨2, "b"⟩, ⟨6, "b"⟩⟩, ⟨.semicolon, ";", ⟨7, "b"⟩, ⟨8, "b"⟩⟩]
          here there ∨
        cause.IsEnd ∧ here = finishOf "show;" "a" ∧ there = finishOf "\n show ;" "b") := by
  have refused :
      ofTokens [⟨.identifier, "show", ⟨0, "a"⟩, ⟨4, "a"⟩⟩, ⟨.semicolon, ";", ⟨4, "a"⟩, ⟨5, "a"⟩⟩]
        "show;" "a" = Outcome.refuse ⟨.unexpectedToken "show", ⟨0, "a"⟩⟩ := by
    cbv
  refine (ofTokens_of_content ?_ _ _ _ _).resolve_left ?_
  · rfl
  · rintro ⟨program, made, _⟩
    rw [refused] at made
    cases made

end Program
end LetLang
