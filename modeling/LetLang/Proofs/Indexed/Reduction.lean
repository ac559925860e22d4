import LetLang.Proofs.Loop
import LetLang.Proofs.Reduction.Exact

/-!
Reduction by index. The terms of a window are visited by their places, and each place looks up what
it needs of the window, of the literals and of the occurrences there; a place that one of them does
not have crashes. So does reading a member without saying which.
-/
namespace LetLang.Indexed

open Reduction (Term Slot Element slots occurrence? reduceSlot reduceSlots isOccurrence literalOf?)

variable {ε α β : Type}

def itemAt (items : List α) (place : Nat) : Outcome ε α := .orCrash items[place]?

def each (visit : Nat → α → Outcome ε β) (place : Nat) : List α → Outcome ε (List β)
  | [] => .ok []
  | item :: items => do
    let first ← visit place item
    let others ← each visit (place + 1) items
    return first :: others

def itemBefore? (items : List (Option α)) (place : Nat) : Outcome ε (Option α) :=
  if place = 0 then .ok none else itemAt items (place - 1)

def occurrenceAt (operands : List (Option Variable)) (place : Nat) (current : Term) :
    Outcome Error (Option Action) :=
  match current.literal? with
  | some _ => .ok none
  | none => do
    let receiver? ← itemBefore? operands place
    return receiver?.bind (·.actionForSymbol? current.token.value)

def invoke (receiver : Variable) (action : Action) (arguments : List Variable) :
    Outcome Cause Value :=
  if action.name = .get ∧ arguments = [] then .crash else receiver.invoke action arguments

def reduceAt (program : Program) (window : List Token) (operands : List (Option Variable))
    (occurrences : List (Option Action)) (place : Nat) (current : Term) :
    Outcome Error (Option Element) := do
  let position := (← itemAt window place).start
  let receiver? ← itemBefore? operands place
  match ← itemAt occurrences place, receiver? with
  | some action, some receiver => do
    let result : Outcome Cause Variable := do
      let value ← invoke receiver action operands[place + 1]?.join.toList
      Outcome.ofExcept (Variable.anonymous receiver.kind value)
    let reduced ← result.positioned position
    return some (.value reduced)
  | _, _ => do
    let before? ← itemBefore? occurrences place
    if before?.isSome || occurrences[place + 1]?.join.isSome then return none
    else
      match current.literal? with
      | some literal => return some (.value literal)
      | none => do
        let made := Outcome.ofExcept (Reference.new current.token.value program)
        let target ← made.positioned position
        return some (.reference target)

def reduce (program : Program) (start : Position) (window : List Token) :
    Outcome Error Variable := do
  let terms ← Outcome.ofExcept (Reduction.terms window)
  let operands := terms.map Term.literal?
  let occurrences ← each (occurrenceAt operands) 0 terms
  let elements ← each (reduceAt program window operands occurrences) 0 terms
  Outcome.ofExcept (Reduction.single program start elements.reduceOption)

/-! What stands at a place and beside it. -/

theorem itemBefore?_map {γ : Type} (f : α → Option γ) (done others : List α) :
    itemBefore? ((done ++ others).map f) done.length =
      (.ok (done.getLast?.bind f) : Outcome ε (Option γ)) := by
  rcases List.eq_nil_or_concat done with rfl | ⟨front, last, rfl⟩
  · rfl
  · simp [itemBefore?, itemAt, Outcome.orCrash]

theorem itemAfter_map {γ : Type} (f : α → Option γ) (done : List α) (item : α) (others : List α) :
    ((done ++ item :: others).map f)[done.length + 1]?.join = others.head?.bind f := by
  cases others <;> simp

theorem occurrenceAt_eq (done others : List Term) (current : Term) :
    occurrenceAt ((done ++ others).map Term.literal?) done.length current =
      .ok (occurrence? (done.getLast?.bind Term.literal?) current) := by
  rw [occurrenceAt, itemBefore?_map]
  cases literal : current.literal? with
  | some read => simp [occurrence?, literal]
  | none => cases done.getLast?.bind Term.literal? <;> simp [occurrence?, literal]

theorem each_occurrenceAt (done others : List Term) :
    each (occurrenceAt ((done ++ others).map Term.literal?)) done.length others =
      .ok ((slots (done.getLast?.bind Term.literal?) others).map Slot.action?) := by
  induction others generalizing done with
  | nil => rfl
  | cons current others ih =>
      have behind := ih (done ++ [current])
      rw [List.append_assoc, List.singleton_append, List.length_append, List.length_singleton,
        List.getLast?_append, List.getLast?_singleton, Option.some_or, Option.bind_some] at behind
      rw [each, occurrenceAt_eq, behind]
      rfl

theorem invoke_eq {action : Action} (other : action.name ≠ .get) (receiver : Variable)
    (arguments : List Variable) :
    invoke receiver action arguments = receiver.invoke action arguments :=
  if_neg fun unread => other unread.1

theorem reduceAt_eq {program : Program} {done others : List Slot} {slot : Slot}
    (plain : ∀ action, slot.action? = some action → action.name ≠ .get) :
    reduceAt program ((done ++ slot :: others).map (·.term.token))
        ((done ++ slot :: others).map (·.term.literal?))
        ((done ++ slot :: others).map Slot.action?) done.length slot.term =
      reduceSlot program done.getLast? slot others.head? := by
  have token : itemAt ((done ++ slot :: others).map (·.term.token)) done.length =
      (.ok slot.term.token : Outcome Error Token) := by
    simp [itemAt, Outcome.orCrash]
  have action : itemAt ((done ++ slot :: others).map Slot.action?) done.length =
      (.ok slot.action? : Outcome Error (Option Action)) := by
    simp [itemAt, Outcome.orCrash]
  have before : (done.getLast?.bind Slot.action?).isSome = isOccurrence done.getLast? := by
    cases done.getLast? <;> rfl
  have after : (others.head?.bind Slot.action?).isSome = isOccurrence others.head? := by
    cases others.head? <;> rfl
  have literal : done.getLast?.bind (·.term.literal?) = literalOf? done.getLast? := rfl
  rw [reduceAt, token, action, itemBefore?_map, itemBefore?_map, itemAfter_map, itemAfter_map]
  dsimp only [bind, Except.bind]
  rw [before, after, literal, reduceSlot]
  -- The same decisions on both sides; only the action is run by another name.
  cases operator : slot.action? with
  | none => rfl
  | some action =>
      cases literalOf? done.getLast? with
      | none => rfl
      | some receiver =>
          dsimp only
          rw [invoke_eq (plain action operator)]
          rfl

theorem each_reduceAt {program : Program} {written : List Slot}
    (plain : ∀ slot ∈ written, ∀ action, slot.action? = some action → action.name ≠ .get)
    {done others : List Slot} (split : written = done ++ others) :
    (each (reduceAt program (written.map (·.term.token)) (written.map (·.term.literal?))
        (written.map Slot.action?)) done.length (others.map Slot.term)).map List.reduceOption =
      reduceSlots program done.getLast? others := by
  induction others generalizing done with
  | nil => rfl
  | cons slot others ih =>
      have behind := @ih (done ++ [slot]) (by simp [split])
      rw [List.length_append, List.length_singleton, List.getLast?_append,
        List.getLast?_singleton, Option.some_or] at behind
      have here : reduceAt program (written.map (·.term.token)) (written.map (·.term.literal?))
          (written.map Slot.action?) done.length slot.term =
            reduceSlot program done.getLast? slot others.head? := by
        rw [split] at plain ⊢
        exact reduceAt_eq (plain slot (by simp))
      rw [List.map_cons, each, reduceSlots, ← behind, here]
      cases reduceSlot program done.getLast? slot others.head? with
      | error failure => rfl
      | ok left? =>
          dsimp only [bind, Except.bind]
          generalize each _ _ _ = rest
          cases rest with
          | error failure => rfl
          | ok rest => cases left? <;> rfl

theorem map_slots {γ : Type} (f : Term → γ) (before : Option Variable) (found : List Term) :
    (slots before found).map (fun slot => f slot.term) = found.map f := by
  induction found generalizing before with
  | nil => rfl
  | cons current others ih => rw [slots, List.map_cons, ih, List.map_cons]

theorem map_token_of_terms {window : List Token} {found : List Term}
    (read : List.Forall₂ (fun token current => Reduction.term token = .ok current) window found) :
    found.map Term.token = window := by
  induction read with
  | nil => rfl
  | cons first rest ih =>
      rw [List.map_cons, ih]
      rcases Reduction.term_eq_ok.mp first with ⟨_, rfl⟩ | ⟨_, _, rfl⟩
      · rfl
      · rfl

/-- By index or slot by slot, a window reduces to the same. -/
theorem reduce_eq (program : Program) (start : Position) (window : List Token) :
    reduce program start window = Reduction.reduce program start window := by
  rw [reduce, Reduction.reduce]
  cases terms : Reduction.terms window with
  | error error => rfl
  | ok found =>
      have read := Reduction.terms_eq_ok.mp terms
      have front : ∀ receiver : Variable, none = some receiver →
          receiver.actions = [] ∨ receiver.actions = Action.number := by
        intro receiver held
        cases held
      have plain := Reduction.not_get_of_slots read front
      have occurs : each (occurrenceAt (found.map Term.literal?)) 0 found =
          .ok ((slots none found).map Slot.action?) := each_occurrenceAt [] found
      have kept : (slots none found).map Slot.term = found :=
        (map_slots id none found).trans (List.map_id found)
      have places := @each_reduceAt program (slots none found) plain [] _ rfl
      rw [map_slots Term.token, map_slots Term.literal?, kept, map_token_of_terms read,
        List.length_nil, List.getLast?_nil] at places
      dsimp only [bind, Except.bind, Outcome.ofExcept]
      rw [occurs, ← places]
      dsimp only
      generalize each _ _ _ = left
      cases left <;> rfl

end LetLang.Indexed
