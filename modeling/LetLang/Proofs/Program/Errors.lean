import Mathlib
import LetLang.Proofs.Diagnostic.Caret
import LetLang.Proofs.Lexeme.Visible
import LetLang.Proofs.Placement.Program

/-! Where errors stand in a source, and that each of them is drawn there. -/
namespace LetLang

open Lexeme (IsBlank)
open Text (byteLength Shows)
open Diagnostic (Points header help margin)

/-- The end of a source, for what is missed there and nothing else; or the start of what is refused,
which is a token unless the lexer has refused it. -/
inductive Error.Stands (source : String) (file? : Option String) (error : Error) : Prop
  | finish (missed : error.cause.IsEnd)
      (place : error.position.offset.toNat = source.utf8ByteSize)
  | lexeme (inside : ¬error.cause.IsEnd)
      (visible : ∃ front c back, source.toList = front ++ c :: back ∧
        error.position.offset.toNat = byteLength front ∧ ¬IsBlank c)
      (token : error.cause.stage ≠ .lexing → ∃ tokens, Token.tokenize source file? = .ok tokens ∧
        ∃ token ∈ tokens, token.start = error.position)

/-- A drawing of an error: its line and its column from 1, the line, a caret, and the message. The
caret stands below what is right of the error's place, or at the end of the line if nothing is. -/
def Error.Drawn (source : String) (error : Error) (drawing : String) : Prop :=
  ∃ count left right caret,
    Shows source.toList error.position.offset.toNat count left right ∧
    (right = [] ↔ error.cause.IsEnd) ∧
    Points (margin (count + 1) ++ left ++ right) caret (margin (count + 1) ++ left).length ∧
    drawing = header error error.position.file (count + 1) (left.length + 1) ++ "\n" ++
      String.ofList (margin (count + 1) ++ left ++ right) ++ "\n" ++ String.ofList caret ++
      "\n\n" ++ error.cause.message ++ help error.cause

variable {source : String} {file? : Option String} {error : Error} {tokens : List Token}

theorem Cause.not_isEnd_of_lexing {cause : Cause} (lexing : cause.stage = .lexing) :
    ¬cause.IsEnd := by
  intro missed
  rcases missed with ⟨expected, rfl⟩
  cases lexing

namespace Program

theorem ofTokens_stops (tokens : List Token) (source file : String) :
    (∃ program, ofTokens tokens source file = .ok program) ∨
      ∃ error, ofTokens tokens source file = Outcome.refuse error ∧
        (error.cause.IsEnd ∧ error.position = finishOf source file ∨
          ¬error.cause.IsEnd ∧ ∃ token ∈ tokens, token.start = error.position) :=
  ofTokensFrom_stops _ _ _

theorem stands_of_refused (short : source.utf8ByteSize < 2 ^ 32)
    (fails : ∀ program, ofSource source file? ≠ .ok program) :
    ∃ error, ofSource source file? = Outcome.refuse error ∧
      error.position.file = file?.getD Token.unnamedFile ∧ error.Stands source file? := by
  unfold ofSource at fails ⊢
  cases read : Token.tokenize source file? with
  | error error =>
      rcases Token.visible_of_tokenize short read with ⟨visible, lexing⟩
      have inside := Cause.not_isEnd_of_lexing lexing
      exact ⟨error, rfl, visible.file,
        .lexeme inside visible.exists_character (absurd lexing)⟩
  | ok tokens =>
      rw [read] at fails
      rcases ofTokens_stops tokens source (file?.getD Token.unnamedFile) with
        ⟨program, made⟩ | ⟨error, refused, place⟩
      · exact absurd made (fails program)
      · refine ⟨error, refused, ?_⟩
        rcases place with ⟨missed, finish⟩ | ⟨inside, token, member, start⟩
        · have kept : (UInt32.ofNat source.utf8ByteSize).toNat = source.utf8ByteSize :=
            UInt32.toNat_ofNat_of_lt' short
          rw [finish]
          exact ⟨rfl, .finish missed (by rw [finish]; exact kept)⟩
        · have visible := Token.start_visible short read token member
          rw [start] at visible
          exact ⟨visible.file, .lexeme inside visible.exists_character
            fun _ => ⟨tokens, read, token, member, start⟩⟩

end Program

theorem Error.Stands.exists_shows (stands : error.Stands source file?) :
    ∃ count left right,
      Shows source.toList error.position.offset.toNat count left right ∧
        (right = [] ↔ error.cause.IsEnd) := by
  cases stands with
  | finish missed place =>
      rcases Text.exists_finish source.toList with ⟨count, left, shows⟩
      rw [Text.byteLength_toList, ← place] at shows
      exact ⟨count, left, [], shows, iff_of_true rfl missed⟩
  | lexeme inside visible =>
      rcases visible with ⟨front, c, back, whole, place, other⟩
      have notFeed : c ≠ '\n' := fun same => other (.inr (.inr (.inr same)))
      have notReturn : c ≠ '\r' := fun same => other (.inr (.inr (.inl same)))
      rcases Text.exists_character front back notFeed notReturn with ⟨count, left, right, shows⟩
      rw [← whole, ← place] at shows
      exact ⟨count, left, c :: right, shows, iff_of_false (List.cons_ne_nil c right) inside⟩

theorem Error.Stands.drawn (stands : error.Stands source file?) :
    error.Drawn source ((Diagnostic.ofError error).render source error.position.file false) := by
  rcases stands.exists_shows with ⟨count, left, right, shows, ends⟩
  rcases Diagnostic.render_ofError shows error.position.file with ⟨caret, points, drawn⟩
  exact ⟨count, left, right, caret, shows, ends, points, drawn⟩

namespace Program

/-- A source without a program has an error in the file that it was read from, at its end or at the
start of what is refused, and the error is drawn there. -/
theorem ofSource_error_drawn (source : String) (file? : Option String)
    (short : source.utf8ByteSize < 2 ^ 32)
    (fails : ∀ program, ofSource source file? ≠ .ok program) :
    ∃ error, ofSource source file? = Outcome.refuse error ∧
      error.position.file = file?.getD "shell" ∧ error.Stands source file? ∧
      error.Drawn source
        ((Diagnostic.ofError error).render source error.position.file false) := by
  rcases stands_of_refused short fails with ⟨error, refused, file, stands⟩
  exact ⟨error, refused, file, stands, stands.drawn⟩

theorem error_drawn_undeclared :
    ∃ error, ofSource "let x = y;" none = Outcome.refuse error ∧
      error.position.file = "shell" ∧ error.Stands "let x = y;" none ∧
      error.Drawn "let x = y;"
        ((Diagnostic.ofError error).render "let x = y;" error.position.file false) := by
  refine ofSource_error_drawn "let x = y;" none (by decide) fun program made => ?_
  have refused : ofSource "let x = y;" none =
      Outcome.refuse ⟨.variableNotDeclared "y", ⟨8, "shell"⟩⟩ := by
    cbv
  rw [refused] at made
  cases made

end Program
end LetLang
