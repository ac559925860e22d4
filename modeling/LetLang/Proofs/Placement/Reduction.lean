import LetLang.Proofs.Placement.Variable
import LetLang.Program.Reduction

/-! A window is reduced alike wherever its tokens stand; only an error tells where that is. -/
namespace LetLang

variable {places : Position → Position → Prop}

theorem Token.literal_alike {first second : Token} (alike : first.Alike places second) :
    LetLang.Alike (Error.Joined places) Eq first.literal second.literal := by
  have kinds : LetLang.Alike (Error.Joined places) Eq first.literalKind second.literalKind := by
    unfold literalKind
    rw [alike.kind, alike.value]
    split
    · exact .ok rfl
    · exact .ok rfl
    · exact .error ⟨⟨rfl, nofun⟩, alike.start⟩
  refine kinds.bind fun kind other same => ?_
  subst same
  rw [alike.value]
  refine mapError_alike ?_ alike.start
  refine inside_bind ?_ fun value => Variable.inside_setValue _ _
  unfold literalValue
  split
  · exact inside_ok _
  · exact Value.inside_ofNumericLiteral _

namespace Reduction

structure Term.Alike (places : Position → Position → Prop) (first second : Term) : Prop where
  token : first.token.Alike places second.token
  literal : first.literal? = second.literal?

structure Slot.Alike (places : Position → Position → Prop) (first second : Slot) : Prop where
  term : first.term.Alike places second.term
  action : first.action? = second.action?

theorem term_alike {first second : Token} (alike : first.Alike places second) :
    LetLang.Alike (Error.Joined places) (Term.Alike places) (term first) (term second) := by
  unfold term
  rw [alike.kind]
  split
  · exact .ok ⟨alike, rfl⟩
  · exact (Token.literal_alike alike).map fun literal other same => ⟨alike, congrArg some same⟩

theorem terms_alike {window others : List Token}
    (alike : List.Forall₂ (Token.Alike places) window others) :
    LetLang.Alike (Error.Joined places) (List.Forall₂ (Term.Alike places)) (terms window)
      (terms others) := by
  induction alike with
  | nil => exact .ok .nil
  | cons first _ ih =>
      refine (term_alike first).bind fun current other same => ?_
      exact ih.bind fun rest behind alike => .ok (.cons same alike)

theorem slots_alike {found others : List Term}
    (alike : List.Forall₂ (Term.Alike places) found others) (before : Option Variable) :
    List.Forall₂ (Slot.Alike places) (slots before found) (slots before others) := by
  induction alike generalizing before with
  | nil => exact .nil
  | @cons current other _ _ first _ ih =>
      have action : occurrence? before current = occurrence? before other := by
        unfold occurrence?
        rw [first.literal, first.token.value]
      rw [slots, slots, ← first.literal]
      exact .cons ⟨first, action⟩ (ih _)

variable {before before' after after' : Option Slot} {slot other : Slot}

theorem isOccurrence_alike (alike : Option.Rel (Slot.Alike places) before before') :
    isOccurrence before = isOccurrence before' := by
  cases alike with
  | none => rfl
  | some same => exact congrArg Option.isSome same.action

theorem literalOf?_alike (alike : Option.Rel (Slot.Alike places) before before') :
    literalOf? before = literalOf? before' := by
  cases alike with
  | none => rfl
  | some same => exact same.term.literal

theorem reduceSlot_alike (program : Program)
    (front : Option.Rel (Slot.Alike places) before before') (alike : slot.Alike places other)
    (back : Option.Rel (Slot.Alike places) after after') :
    LetLang.Alike (Failure.Joined (Error.Joined places)) Eq (reduceSlot program before slot after)
      (reduceSlot program before' other after') := by
  have start := alike.term.token.start
  unfold reduceSlot
  rw [literalOf?_alike front, literalOf?_alike back, isOccurrence_alike front,
    isOccurrence_alike back, alike.action, alike.term.literal, alike.term.token.value]
  split
  · rename_i action receiver _ _
    have result := (Variable.invoke_alike receiver action (literalOf? after').toList).bind
      fun value other same => by
        subst same
        exact Outcome.ofExcept_alike (Variable.inside_setValue (.new receiver.kind) value)
    exact (Outcome.positioned_alike result start).bind fun reduced other same => by
      rw [same]
      exact .ok rfl
  · split
    · exact .ok rfl
    · split
      · exact .ok rfl
      · have made := Outcome.ofExcept_alike
          (Reference.inside_new other.term.token.value program)
        exact (Outcome.positioned_alike made start).bind fun target other same => by
          rw [same]
          exact .ok rfl

theorem head?_alike {found others : List Slot}
    (alike : List.Forall₂ (Slot.Alike places) found others) :
    Option.Rel (Slot.Alike places) found.head? others.head? := by
  cases alike with
  | nil => exact .none
  | cons first rest => exact .some first

theorem reduceSlots_alike (program : Program) {found others : List Slot}
    (alike : List.Forall₂ (Slot.Alike places) found others)
    (front : Option.Rel (Slot.Alike places) before before') :
    LetLang.Alike (Failure.Joined (Error.Joined places)) Eq (reduceSlots program before found)
      (reduceSlots program before' others) := by
  induction alike generalizing before before' with
  | nil => exact .ok rfl
  | cons first rest ih =>
      have left := reduceSlot_alike program front first (head?_alike rest)
      refine left.bind fun left? other same => ?_
      subst same
      refine (ih (.some first)).bind fun elements other same => ?_
      subst same
      exact .ok rfl

theorem single_alike (program : Program) {start other : Position} (joined : places start other)
    (elements : List Element) :
    LetLang.Alike (Error.Joined places) Eq (single program start elements)
      (single program other elements) := by
  unfold single
  split
  · exact .error ⟨⟨rfl, nofun⟩, joined⟩
  · exact .ok rfl
  · exact mapError_alike (Reference.inside_resolve _ _) joined
  · exact .error ⟨⟨rfl, nofun⟩, joined⟩

theorem reduce_alike (program : Program) {start other : Position} (joined : places start other)
    {window others : List Token} (alike : List.Forall₂ (Token.Alike places) window others) :
    LetLang.Alike (Failure.Joined (Error.Joined places)) Eq (reduce program start window)
      (reduce program other others) := by
  refine (Outcome.ofExcept_alike (terms_alike alike)).bind fun found behind same => ?_
  have left := reduceSlots_alike program (slots_alike same none) .none
  refine left.bind fun elements rest equal => ?_
  subst equal
  exact Outcome.ofExcept_alike (single_alike program joined elements)

end Reduction
end LetLang
