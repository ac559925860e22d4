import LetLang.Program.Reduction
import LetLang.Proofs.Program.Reference
import LetLang.Proofs.Token.Literal
import LetLang.Proofs.Variable.Arithmetic
import Mathlib.Data.List.Forall2

/-!
What the slots of a window leave behind. An occurrence of an operator leaves one result, and takes
its two neighbours at most, so few elements mean few slots.
-/
namespace LetLang.Reduction

theorem term_eq_ok {token : Token} {current : Term} :
    term token = .ok current ↔
      token.kind = .identifier ∧ current = ⟨token, none⟩ ∨
        ∃ read, token.literal = .ok read ∧ current = ⟨token, some read⟩ := by
  rw [term]
  by_cases named : token.kind = .identifier
  · have unread : ∀ read, token.literal ≠ .ok read :=
      fun _ read => Token.literal_ne_identifier read named
    simp [named, unread, eq_comm]
  · simp only [named, if_false, except_map_eq_ok, false_and, false_or, @eq_comm _ current]

theorem terms_eq_ok {window : List Token} {found : List Term} :
    terms window = .ok found ↔
      List.Forall₂ (fun token current => term token = .ok current) window found := by
  induction window generalizing found with
  | nil => simp [terms, eq_comm]
  | cons token others ih =>
      simp only [terms, except_bind_eq_ok, ih, List.forall₂_cons_left_iff, pure, Except.pure,
        Except.ok.injEq]
      constructor
      · intro parts
        rcases parts with ⟨first, read, rest, readRest, rfl⟩
        exact ⟨first, rest, read, readRest, rfl⟩
      · intro parts
        rcases parts with ⟨first, rest, read, readRest, rfl⟩
        exact ⟨first, read, rest, readRest, rfl⟩

variable {program : Program} {before after : Option Slot} {left? : Option Element}

theorem reduceSlot_operator {current : Term} {action : Action} {receiver : Variable}
    (literal : literalOf? before = some receiver) :
    reduceSlot program before ⟨current, some action⟩ after = .ok left? ↔
      ∃ value, receiver.invoke action (literalOf? after).toList = .ok value ∧
        receiver.kind.accepts value = true ∧
        left? = some (.value (.holding receiver.kind none value)) := by
  simp only [reduceSlot, literal, except_bind_eq_ok, Outcome.positioned_eq_ok,
    Outcome.ofExcept_eq_ok, Variable.anonymous_eq_ok, pure, Except.pure, Except.ok.injEq]
  constructor
  · intro parts
    rcases parts with ⟨made, ⟨value, ran, fits, rfl⟩, rfl⟩
    exact ⟨value, ran, fits, rfl⟩
  · intro parts
    rcases parts with ⟨value, ran, fits, rfl⟩
    exact ⟨_, ⟨value, ran, fits, rfl⟩, rfl⟩

theorem reduceSlot_taken {current : Term}
    (taken : (isOccurrence before || isOccurrence after) = true) :
    reduceSlot program before ⟨current, none⟩ after = .ok left? ↔ left? = none := by
  simp [reduceSlot, taken, eq_comm]

theorem reduceSlot_literal {token : Token} {read : Variable}
    (free : (isOccurrence before || isOccurrence after) = false) :
    reduceSlot program before ⟨⟨token, some read⟩, none⟩ after = .ok left? ↔
      left? = some (.value read) := by
  simp [reduceSlot, free, eq_comm]

theorem reduceSlot_name {token : Token}
    (free : (isOccurrence before || isOccurrence after) = false) :
    reduceSlot program before ⟨⟨token, none⟩, none⟩ after = .ok left? ↔
      (∃ found, program.find? token.value = some found) ∧
        left? = some (.reference ⟨token.value⟩) := by
  simp only [reduceSlot, free, except_bind_eq_ok, Outcome.positioned_eq_ok,
    Outcome.ofExcept_eq_ok, Reference.new_eq_ok, pure, Except.pure, Except.ok.injEq,
    Bool.false_eq_true, if_false]
  constructor
  · intro parts
    rcases parts with ⟨target, ⟨declared, rfl⟩, rfl⟩
    exact ⟨declared, rfl⟩
  · intro parts
    rcases parts with ⟨declared, rfl⟩
    exact ⟨_, ⟨declared, rfl⟩, rfl⟩

theorem taken_of_reduceSlot {current : Term}
    (reduced : reduceSlot program before ⟨current, none⟩ after = .ok none) :
    (isOccurrence before || isOccurrence after) = true := by
  by_contra free
  rw [Bool.not_eq_true] at free
  rcases current with ⟨token, _ | read⟩
  · have left := (reduceSlot_name free).mp reduced
    cases left.2
  · have left := (reduceSlot_literal free).mp reduced
    cases left

def occurrences : List Slot → Nat
  | [] => 0
  | slot :: others => (isOccurrence (some slot)).toNat + occurrences others

@[simp] theorem isOccurrence_some (slot : Slot) :
    isOccurrence (some slot) = slot.action?.isSome := rfl

@[simp] theorem literalOf?_some (slot : Slot) : literalOf? (some slot) = slot.term.literal? := rfl

theorem occurrence?_eq_some {literal? : Option Variable} {current : Term} {action : Action}
    (operator : occurrence? literal? current = some action) :
    current.literal? = none ∧ ∃ receiver, literal? = some receiver ∧
      receiver.actionForSymbol? current.token.value = some action := by
  unfold occurrence? at operator
  split at operator
  · rename_i receiver name
    exact ⟨name, receiver, rfl, operator⟩
  · cases operator

theorem reduceSlots_nil {elements : List Element} :
    reduceSlots program before [] = .ok elements ↔ elements = [] := by
  simp [reduceSlots, eq_comm]

theorem reduceSlots_cons {slot : Slot} {others : List Slot} {elements : List Element} :
    reduceSlots program before (slot :: others) = .ok elements ↔
      ∃ left?, reduceSlot program before slot others.head? = .ok left? ∧
        ∃ rest, reduceSlots program (some slot) others = .ok rest ∧
          elements = left?.toList ++ rest := by
  simp only [reduceSlots, except_bind_eq_ok, pure, Except.pure, Except.ok.injEq,
    @eq_comm _ elements]

/-- The count behind every long window: each occurrence leaves a result of its own, and accounts for
itself and two slots more. The slot in front of an occurrence is charged to it in advance. -/
theorem length_le_of_reduceSlots {found : List Term} {elements : List Element}
    (reduced : reduceSlots program before (slots (literalOf? before) found) = .ok elements) :
    occurrences (slots (literalOf? before) found) ≤ elements.length ∧
      found.length + (isOccurrence (slots (literalOf? before) found).head?).toNat ≤
        elements.length + 2 * occurrences (slots (literalOf? before) found) +
          (isOccurrence before).toNat := by
  induction found generalizing before elements with
  | nil => simp [slots, occurrences, isOccurrence]
  | cons current others ih =>
      rw [slots, reduceSlots_cons] at reduced
      obtain ⟨left?, first, rest, remaining, rfl⟩ := reduced
      have counted := ih remaining
      have single := Bool.toNat_le (isOccurrence (slots current.literal? others).head?)
      simp only [slots, occurrences, literalOf?_some, isOccurrence_some, List.head?_cons,
        List.length_cons, List.length_append] at counted ⊢
      cases operator : occurrence? (literalOf? before) current with
      | some action =>
          rw [operator] at first
          obtain ⟨_, receiver, literal, _⟩ := occurrence?_eq_some operator
          obtain ⟨value, _, _, rfl⟩ := (reduceSlot_operator literal).mp first
          simp only [operator, Option.isSome_some, Bool.toNat_true, Option.toList_some,
            List.length_singleton] at counted ⊢
          omega
      | none =>
          rw [operator] at first
          simp only [operator, Option.isSome_none, Bool.toNat_false] at counted ⊢
          cases left? with
          | some left =>
              simp only [Option.toList_some, List.length_singleton]
              omega
          | none =>
              simp only [Option.toList_none, List.length_nil]
              rcases Bool.or_eq_true_iff.mp (taken_of_reduceSlot first) with taken | taken
              · rw [taken, Bool.toNat_true]
                omega
              · rw [taken, Bool.toNat_true] at counted
                omega

theorem length_le_of_window {found : List Term} {elements : List Element}
    (reduced : reduceSlots program none (slots none found) = .ok elements) :
    occurrences (slots none found) ≤ elements.length ∧
      found.length ≤ elements.length + 2 * occurrences (slots none found) := by
  have front : reduceSlots program none (slots (literalOf? none) found) = .ok elements := reduced
  have counted := length_le_of_reduceSlots front
  rw [show literalOf? none = none from rfl,
    show (isOccurrence none).toNat = 0 from rfl] at counted
  omega

end LetLang.Reduction
