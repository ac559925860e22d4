import Mathlib
import LetLang.Proofs.Indexed.Declaration
import LetLang.Proofs.Parser.Loops
import LetLang.Proofs.Placement.Program
import LetLang.Proofs.Scanner.Run

/-!
No source makes the front end crash. By the byte and by the index, where each step has a range to
keep to, the lexer and the parser give what they give here, and neither of them crashes.
-/
namespace LetLang

namespace Scanner

/-- A state of the lexer whose slices are in range, and from which a turn goes on further behind. -/
structure State.Safe (source : String) (state : State) : Prop where
  within : state.scanner.offset ≤ source.utf8ByteSize
  edge : String.Pos.Raw.IsValid source ⟨state.scanner.offset⟩
  answers : state.turn ≠ Outcome.crash
  grows : ∀ next, state.turn = .ok (.more next) → state.scanner.offset < next.scanner.offset

variable {source : String} {file? : Option String} {state : State} {rest : List Char}

theorem State.Along.safe (along : state.Along source file? rest) : state.Safe source := by
  have turned := along.turn
  refine ⟨along.isValid.le_utf8ByteSize, along.isValid, ?_, ?_⟩
  · rcases turned with stops | ⟨next, left, goes, _⟩
    · rw [stops]
      cases Token.tokenize source file? <;> exact nofun
    · rw [goes]
      exact nofun
  · intro next goes
    rcases turned with stops | ⟨other, left, goes', _, grows⟩
    · exact absurd (stops.symm.trans goes) Loop.map_done_ne_more
    · cases goes.symm.trans goes'
      exact grows

end Scanner

namespace Program

open Scanner (State)

theorem ofSource_answers (source : String) (file? : Option String) :
    (∃ program, ofSource source file? = .ok program) ∨
      ∃ error, ofSource source file? = Outcome.refuse error := by
  unfold ofSource
  cases Token.tokenize source file? with
  | error error => exact .inr ⟨error, rfl⟩
  | ok tokens =>
      rcases ofTokensFrom_stops (finishOf source (file?.getD Token.unnamedFile)) .empty tokens with
        made | ⟨error, refused, _⟩
      · exact .inl made
      · exact .inr ⟨error, refused⟩

/-- Every source has an answer. Each state that the lexer comes to is safe, and its loop ends with
the tokens of the source. The loops of the parser end, and it gives the same result by index, where
whatever is out of range crashes, as it does without one. -/
theorem ofSource_safe (source : String) (file? : Option String) :
    ((∃ program, ofSource source file? = .ok program) ∨
      ∃ error, ofSource source file? = Outcome.refuse error) ∧
    (∀ state, Loop.Reaches State.turn (.start source file?) state → state.Safe source) ∧
    (∀ result, Loop.Ends State.turn (.start source file?) result ↔
      result = Outcome.ofExcept (Token.tokenize source file?)) ∧
    (∀ (scope : Scope) (name : String) (start : Position) (window : List Token),
      Indexed.evaluate scope name start window = Declaration.evaluate scope name start window ∧
        Indexed.evaluate scope name start window ≠ Outcome.crash) ∧
    (∀ (scope : Scope) (tokens : List Token),
      Loop.Ends (Declaration.windowTurn scope) (tokens, [])
          (Parse.outcome (Declaration.takeWindow scope tokens)) ∧
        Loop.Ends (Call.argumentTurn scope) (tokens, [])
          (Parse.outcome (Call.takeArguments scope false tokens)) ∧
        Loop.Ends (nodeTurn scope.finish) (scope.program, tokens)
          (ofTokensFrom scope.finish scope.program tokens)) := by
  refine ⟨ofSource_answers source file?, ?_, ?_, ?_, ?_⟩
  · intro state reaches
    rcases State.along_of_reaches reaches with ⟨rest, along⟩
    exact along.safe
  · intro result
    have ends := State.ends_tokenize source file?
    exact ⟨fun ends' => ends'.unique ends, fun same => same ▸ ends⟩
  · intro scope name start window
    have same := Indexed.evaluate_eq scope name start window
    exact ⟨same, same ▸ Declaration.evaluate_ne_crash scope name start window⟩
  · intro scope tokens
    have window := Declaration.ends_takeWindow scope tokens []
    have arguments := Call.ends_takeArguments scope tokens []
    rw [Parse.collected_behind_none] at window arguments
    exact ⟨window, arguments, ends_ofTokensFrom scope.finish scope.program tokens⟩

theorem safe_behind_comment : State.Safe "/*é*/x" ⟨⟨"/*é*/x", "shell", 6⟩, []⟩ :=
  (ofSource_safe "/*é*/x" none).2.1 _ (.single (by cbv))

end Program
end LetLang
