import LetLang.Proofs.Placement.Basic
import LetLang.Program.Basic

/-! What variables refuse has a reason in them, and is never the end of a source. -/
namespace LetLang

namespace Value

theorem inside_ofNumericLiteral (text : String) : Inside (ofNumericLiteral text) := by
  unfold ofNumericLiteral
  dsimp only
  split
  · exact inside_ok _
  · exact inside_error nofun

theorem inside_exactly (result : Option Int128) : Inside (exactly result) := by
  cases result with
  | none => exact inside_error nofun
  | some n => exact inside_ok _

theorem inside_applyIntegers (action : ActionName) (a b : Int128) :
    Inside (applyIntegers action a b) := by
  cases action with
  | add => exact inside_exactly _
  | subtract => exact inside_exactly _
  | multiply => exact inside_exactly _
  | divide =>
      rw [applyIntegers]
      split
      · exact inside_error nofun
      · exact inside_exactly _
  | get => exact inside_error nofun

theorem inside_applyFloats (action : ActionName) (a b : Binary64) :
    Inside (applyFloats action a b) := by
  cases action with
  | get => exact inside_error nofun
  | _ => exact inside_ok _

theorem inside_apply (kind : Kind) (action : ActionName) (left right : Value) :
    Inside (apply kind action left right) := by
  unfold apply
  split
  · exact inside_applyIntegers _ _ _
  · split
    · exact inside_applyFloats _ _ _
    · exact inside_error nofun

theorem inside_fold (kind : Kind) (action : ActionName) (initial : Value)
    (operands : List Value) : Inside (fold kind action initial operands) := by
  induction operands generalizing initial with
  | nil => exact inside_ok _
  | cons operand operands ih => exact inside_bind (inside_apply _ _ _ _) fun result => ih result

end Value

namespace Variable

theorem inside_setName (cell : Variable) (name : String) : Inside (cell.setName name) := by
  unfold setName
  split
  · exact inside_error nofun
  · exact inside_ok _

theorem inside_setValue (cell : Variable) (value : Value) : Inside (cell.setValue value) := by
  unfold setValue
  split
  · exact inside_error nofun
  · split
    · exact inside_ok _
    · exact inside_error nofun

theorem inside_build (kind : Kind) (name : String) (value : Value) :
    Inside (build kind (some name) (some value)) :=
  inside_bind (inside_setName _ _) fun _ => inside_setValue _ _

theorem inside_assignedValue (cell : Variable) : Inside cell.assignedValue := by
  unfold assignedValue
  split
  · exact inside_ok _
  · exact inside_error nofun

theorem inside_assignedValues (cells : List Variable) : Inside (assignedValues cells) := by
  induction cells with
  | nil => exact inside_ok _
  | cons cell cells ih =>
      refine inside_bind (inside_assignedValue cell) fun value => ?_
      exact inside_bind ih fun values => inside_ok _

theorem inside_checkArity (action : Action) (received : Nat) :
    Inside (checkArity action received) := by
  unfold checkArity
  dsimp only
  split
  · exact inside_ok _
  · split
    · exact inside_error nofun
    · split
      · exact inside_error nofun
      · exact inside_ok _

theorem inside_checkKinds (action : Action) (index : Nat) (arguments : List Variable) :
    Inside (checkKinds action index arguments) := by
  induction arguments generalizing index with
  | nil => exact inside_ok _
  | cons argument arguments ih =>
      unfold checkKinds
      dsimp only
      split
      · exact ih _
      · exact inside_error nofun

theorem inside_get (receiver : Variable) (name : String) : Inside (receiver.get name) := by
  unfold get
  split
  · exact inside_ok _
  · exact inside_error nofun

theorem invoke_alike (receiver : Variable) (action : Action) (arguments : List Variable) :
    Alike (Failure.Joined Cause.Shared) Eq (receiver.invoke action arguments)
      (receiver.invoke action arguments) := by
  unfold invoke
  refine (Outcome.ofExcept_alike (inside_checkArity _ _)).bind fun _ _ _ => ?_
  refine (Outcome.ofExcept_alike (inside_checkKinds _ _ _)).bind fun _ _ _ => ?_
  refine (Outcome.ofExcept_alike (inside_assignedValue _)).bind fun value other same => ?_
  subst same
  refine (Outcome.ofExcept_alike (inside_assignedValues _)).bind fun operands other same => ?_
  subst same
  split
  · exact .error .crash
  · exact Outcome.ofExcept_alike (inside_get _ _)
  · exact Outcome.ofExcept_alike (Value.inside_fold _ _ _ _)

end Variable

namespace Reference

theorem inside_resolve (reference : Reference) (program : Program) :
    Inside (reference.resolve program) := by
  unfold resolve
  split
  · exact inside_ok _
  · exact inside_error nofun

theorem inside_new (name : String) (program : Program) : Inside (new name program) :=
  inside_bind (inside_resolve _ _) fun _ => inside_ok _

end Reference

theorem Call.inside_setName (call : Call) (name : String) : Inside (call.setName name) := by
  unfold setName
  split
  · exact inside_error nofun
  · exact inside_ok _

end LetLang
