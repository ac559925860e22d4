import LetLang.Parser.Declaration
import LetLang.Proofs.Indexed.Reduction

/-!
The value of a declaration by index: where its tokens end in a kind, the last two are cut off by
their number, which crashes where there are not two.
-/
namespace LetLang.Indexed

def describedKind? (name : String) (window : List Token) : Except Error (Option Kind) :=
  match window.reverse with
  | written :: descriptor :: _ =>
    if descriptor.kind = .asKeyword then
      if written.kind = .identifier then
        match Kind.ofName? written.value with
        | some kind => .ok (some kind)
        | none => .error ⟨.unknownType written.value, written.start⟩
      else .error ⟨.invalidTypeDescriptor name, written.start⟩
    else .ok none
  | _ => .ok none

def splitKind (name : String) (window : List Token) : Outcome Error (List Token × Option Kind) := do
  match ← Outcome.ofExcept (describedKind? name window) with
  | some kind => do
    let length ← .difference window.length 2
    return (window.take length, some kind)
  | none => return (window, none)

def evaluate (scope : Scope) (name : String) (start : Position) (window : List Token) :
    Outcome Error (Value × Kind) := do
  let (core, kind?) ← splitKind name window
  Outcome.ofExcept (Declaration.checkDescriptors core)
  let reduced ← reduce scope.program start core
  match reduced.value? with
  | some value => return (value, kind?.getD (.ofValue value))
  | none => Outcome.refuse ⟨.emptyExpression, start⟩

/-- A kind is found behind two tokens only, so two can be cut off. -/
theorem splitKind_eq (name : String) (window : List Token) :
    splitKind name window = Outcome.ofExcept (Declaration.splitKind name window) := by
  rw [splitKind, describedKind?, Declaration.splitKind]
  rcases reversed : window.reverse with _ | ⟨written, _ | ⟨descriptor, core⟩⟩
  · rfl
  · rfl
  have whole : window = core.reverse ++ [descriptor, written] := by
    rw [← List.reverse_reverse window, reversed]
    simp
  have length : window.length = core.length + 2 := by simp [whole]
  have front : window.take core.length = core.reverse := by
    rw [whole]
    exact List.take_left' (List.length_reverse)
  dsimp only
  by_cases described : descriptor.kind = .asKeyword
  · rw [if_pos described, if_pos described]
    by_cases named : written.kind = .identifier
    · rw [if_pos named, if_pos named]
      cases Kind.ofName? written.value with
      | none => rfl
      | some kind =>
          dsimp only [bind, Except.bind, Outcome.ofExcept]
          rw [Outcome.difference, length, if_pos (Nat.le_add_left 2 _), Nat.add_sub_cancel]
          dsimp only
          rw [front]
          rfl
    · rw [if_neg named, if_neg named]
      rfl
  · rw [if_neg described, if_neg described]
    rfl

theorem evaluate_eq (scope : Scope) (name : String) (start : Position) (window : List Token) :
    evaluate scope name start window = Declaration.evaluate scope name start window := by
  rw [evaluate, Declaration.evaluate, splitKind_eq]
  cases Outcome.ofExcept (Declaration.splitKind name window) with
  | error failure => rfl
  | ok parted =>
      have same := reduce_eq scope.program start parted.1
      dsimp only [bind, Except.bind]
      cases Outcome.ofExcept (Declaration.checkDescriptors parted.1) with
      | error failure => rfl
      | ok done =>
          generalize reduce scope.program start parted.1 = reduced at same ⊢
          subst same
          rfl

end LetLang.Indexed
