import LetLang.Proofs.Placement.Program
import LetLang.Proofs.Grammar.Declaration

/-!
What the run makes of the tokens of a declaration, whether its value is accepted or not.
-/
namespace LetLang

namespace Declaration

def declared (scope : Scope) (name : String) (start : Position) (window : List Token) :
    Outcome Error Variable := do
  let (value, kind) ← evaluate scope name start window
  (Outcome.ofExcept (Variable.build kind (some name) (some value))).positioned start

variable {scope : Scope} {name : String} {start : Position} {window : List Token}
variable {value : Value} {kind : Kind}

theorem declared_of_refused {error : Error}
    (refused : evaluate scope name start window = Outcome.refuse error) :
    declared scope name start window = Outcome.refuse error := by
  rw [declared, refused]
  rfl

theorem declared_of_accepts (given : evaluate scope name start window = .ok (value, kind))
    (fits : kind.accepts value = true) :
    declared scope name start window = .ok (.holding kind (some name) value) := by
  have built : Variable.build kind (some name) (some value) =
      .ok (.holding kind (some name) value) := Variable.build_eq_ok.mpr ⟨fits, rfl⟩
  rw [declared, given]
  dsimp only [bind, Except.bind]
  rw [built]
  rfl

theorem declared_of_not_accepts (given : evaluate scope name start window = .ok (value, kind))
    (exceeds : ¬kind.accepts value = true) :
    declared scope name start window =
      Outcome.refuse ⟨.valueKindMismatch value.text kind.name, start⟩ := by
  have built : Variable.build kind (some name) (some value) =
      .error (.valueKindMismatch value.text kind.name) := if_neg exceeds
  rw [declared, given]
  dsimp only [bind, Except.bind]
  rw [built]
  rfl

end Declaration

namespace Program

open Declaration (declared evaluate isCalculable takeName takeWindow takeWindow_append)

variable {program : Program} {finish : Position} {keyword name sign mark : Token}
variable {window : List Token}

theorem ofTokensFrom_let (first : keyword.kind = .letKeyword) (named : name.kind = .identifier)
    (assigned : sign.kind = .assignment) (inside : ∀ token ∈ window, isCalculable token = true)
    (ends : mark.kind = .semicolon) (fresh : program.containsName name.value = false)
    (rest : List Token) :
    ofTokensFrom finish program (keyword :: name :: sign :: (window ++ mark :: rest)) =
      declared ⟨program, finish⟩ name.value
          (Parse.placeOf ⟨program, finish⟩ (window ++ mark :: rest)) window >>= fun cell =>
        ofTokensFrom finish (program.push (.declaration cell)) rest := by
  have known : Handlers.find? .standard keyword.kind = some .declaration := by
    rw [first]
    rfl
  have identified : takeName ⟨program, finish⟩ (name :: sign :: (window ++ mark :: rest)) =
      .ok name (sign :: (window ++ mark :: rest)) := by
    rw [takeName, Parse.bind_of_ok (Parse.peek_eq_ok.mpr ⟨rfl, rfl⟩)]
    exact Parse.expectOr_eq_ok.mpr ⟨rfl, named⟩
  have taken : takeWindow ⟨program, finish⟩ (window ++ mark :: rest) = .ok window (mark :: rest) :=
    takeWindow_append inside (by simp [ends])
  have unique : ∀ left,
      Parse.checkUnique ⟨program, finish⟩ name.value name.start left = .ok () left :=
    fun left => Parse.checkUnique_eq_ok.mpr ⟨fresh, rfl⟩
  rw [ofTokensFrom_cons keyword known, Handler.parse, Declaration.parse,
    Parse.bind_of_ok (Parse.expect_eq_ok.mpr ⟨rfl, first⟩), Parse.bind_of_ok identified,
    Parse.bind_of_ok (Parse.expect_eq_ok.mpr ⟨rfl, assigned⟩),
    Parse.bind_of_ok (Parse.position_eq_ok.mpr ⟨rfl, rfl⟩), Parse.bind_of_ok taken, declared]
  generalize Parse.placeOf ⟨program, finish⟩ (window ++ mark :: rest) = start
  cases evaluate ⟨program, finish⟩ name.value start window with
  | error failure => rfl
  | ok given =>
      rw [Parse.bind_of_ok (Parse.lift_eq_ok.mpr ⟨rfl, rfl⟩)]
      dsimp only
      rw [Parse.bind_of_ok (unique _), Parse.bind_of_ok (Parse.expect_eq_ok.mpr ⟨rfl, ends⟩)]
      dsimp only [bind, Except.bind]
      -- Only the check against the kind is left.
      generalize Outcome.ofExcept (Variable.build given.2 (some name.value) (some given.1)) = built
      cases built.positioned start with
      | error failure => rfl
      | ok cell => rfl

end Program
end LetLang
