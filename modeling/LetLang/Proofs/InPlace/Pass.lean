import LetLang.Proofs.InPlace.Visit

/-!
The pass. After each visit the cells in front of it hold what the slots there leave behind, as far
as the next occurrence does not take it; so reducing in place and reducing slot by slot agree.
-/
namespace LetLang.InPlace

open Reduction (Term Slot Element slots reduceSlot reduceSlots occurrence? occurrence?_eq_some
  isOccurrence literalOf? literalOf?_some)

variable {program : Program} {seen done : List Cell} {before after : Option Slot}
variable {current : Term} {others : List Term}

def heldBy? (program : Program) : Element → Option Variable
  | .value reduced => some reduced
  | .reference target => program.find? target.name

theorem held_clear_last (done : List Cell) :
    held (done.set (done.length - 1) .cleared) = held done.dropLast := by
  rcases List.eq_nil_or_concat done with rfl | ⟨front, last, rfl⟩
  · rfl
  · simp [held, Cell.value?]

/-- The cells in front of a slot: an occurrence clears the last one. -/
def settled (done : List Cell) (next : Option Slot) : List Variable :=
  if isOccurrence next then held done.dropLast else held done

theorem reduceSlot_occurrence {action : Action} {receiver : Variable}
    (literal : literalOf? before = some receiver) :
    reduceSlot program before ⟨current, some action⟩ after =
      ((applied receiver action (literalOf? after)).positioned current.token.start).map
        fun result => some (.value result) := by
  simp only [reduceSlot, literal]
  rfl

theorem isOccurrence_slots_none : isOccurrence (slots none others).head? = false := by
  cases others with
  | nil => rfl
  | cons next others => simp [slots]

theorem reduceSlot_name_eq {token : Token} (program : Program)
    (free : (isOccurrence before || isOccurrence after) = false) :
    (reduceSlot program before ⟨⟨token, none⟩, none⟩ after).map
        (fun left? => left?.toList.filterMap (heldBy? program)) =
      ((Outcome.ofExcept (Reference.resolve ⟨token.value⟩ program)).positioned token.start).map
        fun found => [found] := by
  simp only [reduceSlot, free, Reference.new, Reference.resolve]
  cases found : program.find? token.value with
  | none => rfl
  | some declared =>
      show Except.ok ([Element.reference ⟨token.value⟩].filterMap (heldBy? program)) = _
      simp [heldBy?, found]
      rfl

/-- What a slot leaves behind is what its visit leaves, unless the next slot is an occurrence. -/
theorem reduceSlot_leave (program : Program) (others : List Term) {action? : Option Action}
    (occurs : occurrence? (literalOf? before) current = action?) :
    (reduceSlot program before ⟨current, action?⟩ (slots current.literal? others).head?).map
        (fun left? => left?.toList.filterMap (heldBy? program)) =
      (leave program before ⟨current, action?⟩ (slots current.literal? others).head?).map
        fun cell => if isOccurrence (slots current.literal? others).head? then [] else
          held [cell] := by
  cases action? with
  | some action =>
      obtain ⟨name, receiver, literal, _⟩ := occurrence?_eq_some occurs
      rw [name, isOccurrence_slots_none, reduceSlot_occurrence literal]
      simp only [leave, literal]
      cases (applied receiver action (literalOf? (slots none others).head?)).positioned
          current.token.start with
      | error failure => rfl
      | ok result => rfl
  | none =>
      by_cases taken : isOccurrence before = true
      · simp only [reduceSlot, leave, taken, Bool.true_or, if_true]
        exact congrArg Except.ok (ite_self _).symm
      · rw [Bool.not_eq_true] at taken
        rcases current with ⟨token, _ | literal⟩
        · have free : (isOccurrence before ||
              isOccurrence (slots none others).head?) = false := by
            rw [taken, isOccurrence_slots_none]
            rfl
          rw [reduceSlot_name_eq program free, isOccurrence_slots_none]
          simp only [leave, taken]
          cases (Outcome.ofExcept (Reference.resolve ⟨token.value⟩ program)).positioned
              token.start with
          | error failure => rfl
          | ok found => rfl
        · simp only [reduceSlot, leave, taken, Bool.false_or]
          cases isOccurrence (slots (some literal) others).head? with
          | true => rfl
          | false => rfl

theorem held_clearedBy (slot : Slot) (cell : Cell) (next : Option Slot) :
    settled (clearedBy slot done ++ [cell]) next =
      settled done (some slot) ++ if isOccurrence next then [] else held [cell] := by
  have front : held (clearedBy slot done) = settled done (some slot) := by
    rw [clearedBy, settled]
    split
    · exact held_clear_last done
    · rfl
  rw [← front, settled]
  split
  · rw [List.dropLast_concat, List.append_nil]
  · exact List.filterMap_append

theorem foldlM_visit (program : Program) (found : List Term)
    (aligned : seen.length = done.length)
    (last : seen.getLast?.bind Cell.value? = literalOf? before)
    (apart : isOccurrence before = true → literalOf? before = none) :
    ((List.range' done.length found.length).foldlM
        (visit program (seen ++ found.map Cell.ofTerm)) (done ++ pending before found)).map held =
      (reduceSlots program before (slots (literalOf? before) found)).map fun elements =>
        settled done (slots (literalOf? before) found).head? ++
          elements.filterMap (heldBy? program) := by
  induction found generalizing seen done before with
  | nil =>
      have none : pending before [] = [] := by
        rw [pending]
        exact ite_self []
      rw [none, List.append_nil]
      show Except.ok (held done) = Except.ok (held done ++ [])
      rw [List.append_nil]
  | cons current others ih =>
      generalize occurs : occurrence? (literalOf? before) current = action?
      have visited := visit_pending program others aligned last apart occurs
      have left := reduceSlot_leave program others occurs
      rw [slots, occurs, List.length_cons, List.range'_succ, List.foldlM_cons, visited, reduceSlots]
      rcases except_map_eq_map left with
        ⟨failure, reduced, leaves⟩ | ⟨left?, cell, reduced, leaves, same⟩
      · rw [reduced, leaves]
        rfl
      · rw [reduced, leaves]
        have length : (seen ++ [Cell.ofTerm current]).length =
            (clearedBy ⟨current, action?⟩ done ++ [cell]).length := by
          rw [List.length_append, List.length_append, aligned, clearedBy]
          split
          · rw [List.length_set, List.length_singleton, List.length_singleton]
          · rfl
        have written : (seen ++ [Cell.ofTerm current]).getLast?.bind Cell.value? =
            literalOf? (some ⟨current, action?⟩) := by
          simp [value?_ofTerm]
        have single : isOccurrence (some ⟨current, action?⟩) = true →
            literalOf? (some ⟨current, action?⟩) = none := by
          intro spelled
          rcases Option.isSome_iff_exists.mp spelled with ⟨action, rfl⟩
          exact (occurrence?_eq_some occurs).1
        have rest := ih length written single
        rw [← length, List.length_append, aligned, List.length_singleton, List.append_assoc,
          List.singleton_append, ← List.map_cons, held_clearedBy, List.append_assoc,
          List.singleton_append] at rest
        refine rest.trans ?_
        rw [literalOf?_some]
        cases reduceSlots program (some ⟨current, action?⟩) (slots current.literal? others) with
        | error failure => rfl
        | ok elements =>
            refine congrArg Except.ok ?_
            dsimp only
            rw [List.head?_cons, List.filterMap_append, same, List.append_assoc]

theorem isSome_of_reduceSlot {slot : Slot} {element : Element}
    (left : reduceSlot program before slot after = .ok (some element)) :
    (heldBy? program element).isSome := by
  rw [reduceSlot] at left
  split at left
  · simp only [except_bind_eq_ok, pure, Except.pure, Except.ok.injEq, Option.some.injEq] at left
    obtain ⟨result, _, rfl⟩ := left
    rfl
  · split at left
    · cases left
    · split at left
      · cases left
        rfl
      · simp only [except_bind_eq_ok, Outcome.positioned_eq_ok, Outcome.ofExcept_eq_ok,
          Reference.new_eq_ok, pure, Except.pure, Except.ok.injEq, Option.some.injEq] at left
        obtain ⟨target, ⟨⟨found, declared⟩, rfl⟩, rfl⟩ := left
        exact Option.isSome_of_eq_some declared

theorem isSome_of_reduceSlots {others : List Slot} {elements : List Element}
    (left : reduceSlots program before others = .ok elements) :
    ∀ element ∈ elements, (heldBy? program element).isSome := by
  induction others generalizing before elements with
  | nil =>
      obtain rfl := Reduction.reduceSlots_nil.mp left
      exact nofun
  | cons slot others ih =>
      obtain ⟨left?, first, rest, behind, rfl⟩ := Reduction.reduceSlots_cons.mp left
      intro element member
      rcases List.mem_append.mp member with here | later
      · obtain rfl := Option.mem_toList.mp here
        exact isSome_of_reduceSlot first
      · exact ih behind element later

theorem compact_eq_single (start : Position) {cells : List Cell} {elements : List Element}
    (declared : ∀ element ∈ elements, (heldBy? program element).isSome)
    (same : held cells = elements.filterMap (heldBy? program)) :
    compact start cells = Reduction.single program start elements := by
  have count := List.filterMap_length_eq_length.mpr declared
  rw [← same] at count
  rw [compact]
  rcases elements with _ | ⟨first, _ | ⟨second, others⟩⟩
  · rw [same]
    rfl
  · rw [same]
    cases first with
    | value reduced => rfl
    | reference target =>
        obtain ⟨found, resolved⟩ := Option.isSome_iff_exists.mp (declared _ List.mem_cons_self)
        have answer : target.resolve program = .ok found := Reference.resolve_eq_ok.mpr resolved
        rw [List.filterMap_cons_some resolved, Reduction.single, answer]
        rfl
  · rcases many : held cells with _ | ⟨one, _ | ⟨two, more⟩⟩
    · simp [many] at count
    · simp [many] at count
    · rw [many] at count
      have several : Reduction.single program start (first :: second :: others) =
          .error ⟨.irreducibleExpression (first :: second :: others).length, start⟩ := by
        cases first with
        | value reduced => rfl
        | reference target => rfl
      rw [several, ← count]

theorem held_pass (program : Program) (found : List Term) :
    ((List.range found.length).foldlM (visit program (found.map Cell.ofTerm))
        (found.map Cell.ofTerm)).map held =
      (reduceSlots program none (slots none found)).map (List.filterMap (heldBy? program)) := by
  have front : ∀ next, settled [] next = [] := by
    intro next
    rw [settled]
    exact ite_self []
  have passed := @foldlM_visit [] [] none program found rfl rfl nofun
  simp only [front, List.nil_append, List.length_nil] at passed
  rw [List.range_eq_range']
  exact passed

/-- Reducing without changing a slot and reducing in place agree on every window: on the result, and
on the error with its place. -/
theorem reduce_eq_inPlace (program : Program) (start : Position) (window : List Token) :
    Reduction.reduce program start window = reduce program start window := by
  rw [Reduction.reduce, reduce, mapM_ofToken]
  cases Reduction.terms window with
  | error failure => rfl
  | ok found =>
      show (reduceSlots program none (slots none found) >>= fun elements =>
          Outcome.ofExcept (Reduction.single program start elements)) =
        (List.range (found.map Cell.ofTerm).length).foldlM
          (visit program (found.map Cell.ofTerm)) (found.map Cell.ofTerm) >>= fun cells =>
          Outcome.ofExcept (compact start cells)
      rw [List.length_map]
      rcases except_map_eq_map (held_pass program found) with
        ⟨failure, passed, left⟩ | ⟨cells, elements, passed, left, same⟩
      · rw [passed, left]
        rfl
      · rw [passed, left]
        have equal := compact_eq_single start (isSome_of_reduceSlots left) same
        exact congrArg Outcome.ofExcept equal.symm

end LetLang.InPlace
