import LetLang.Proofs.InPlace.Basic
import LetLang.Proofs.Reduction.Windows

/-! One visit of the pass: what it finds at its place, and what it leaves there and beside it. -/
namespace LetLang.InPlace

open Reduction (Term Slot slots occurrence? occurrence?_eq_some isOccurrence literalOf?)

def Cell.ofTerm (current : Term) : Cell :=
  match current.literal? with
  | some literal => .value literal
  | none => .name current.token

variable {program : Program} {written seen done rest : List Cell} {token : Token}

theorem mapM_ofToken (window : List Token) :
    window.mapM Cell.ofToken = (Reduction.terms window).map (List.map Cell.ofTerm) := by
  induction window with
  | nil => rfl
  | cons token others ih =>
      have first : Cell.ofToken token = (Reduction.term token).map Cell.ofTerm := by
        rw [Cell.ofToken, Reduction.term]
        split
        · rfl
        · cases token.literal with
          | error failure => rfl
          | ok read => rfl
      rw [List.mapM_cons, ih, first, Reduction.terms]
      cases Reduction.term token with
      | error failure => rfl
      | ok current =>
          cases Reduction.terms others with
          | error failure => rfl
          | ok rest => rfl

theorem value?_ofTerm (current : Term) : (Cell.ofTerm current).value? = current.literal? := by
  rw [Cell.ofTerm]
  cases current.literal? <;> rfl

theorem operator?_append (seen others : List Cell) (text : String) :
    operator? (seen ++ others) text seen.length = do
      let receiver ← seen.getLast?.bind Cell.value?
      let action ← receiver.actionForSymbol? text
      return (receiver, action) := by
  rcases List.eq_nil_or_concat seen with rfl | ⟨front, last, rfl⟩
  · rfl
  · simp [operator?, literalAt?]

theorem literalAt?_behind (seen : List Cell) (current : Term) (others : List Term)
    (literal? : Option Variable) :
    literalAt? (seen ++ (current :: others).map Cell.ofTerm) (seen.length + 1) =
      literalOf? (slots literal? others).head? := by
  rw [literalAt?, List.getElem?_append_right (Nat.le_add_right _ _), Nat.add_sub_cancel_left]
  cases others with
  | nil => rfl
  | cons next others => exact value?_ofTerm next

theorem visit_operator {receiver : Variable} {action : Action} {place : Nat}
    (spelled : operator? written token.value place = some (receiver, action))
    (here : done.length = place) :
    visit program written (done ++ .name token :: rest) place =
      ((applied receiver action (literalAt? written (place + 1))).positioned token.start).map
        fun result => done.set (place - 1) .cleared ++ .value result :: rest.set 0 .cleared := by
  subst here
  have current : (done ++ Cell.name token :: rest)[done.length]? = some (.name token) := by simp
  simp only [visit, current, spelled]
  cases (applied receiver action (literalAt? written (done.length + 1))).positioned token.start with
  | error failure => rfl
  | ok result =>
      rcases List.eq_nil_or_concat done with rfl | ⟨front, last, rfl⟩
      · rfl
      · simp [bind, Except.bind, pure, Except.pure, Except.map, Nat.add_assoc]

theorem visit_name {place : Nat} (spelled : operator? written token.value place = none)
    (here : done.length = place) :
    visit program written (done ++ .name token :: rest) place =
      ((Outcome.ofExcept (Reference.resolve ⟨token.value⟩ program)).positioned token.start).map
        fun found => done ++ .value found :: rest := by
  subst here
  have current : (done ++ Cell.name token :: rest)[done.length]? = some (.name token) := by simp
  simp only [visit, current, spelled]
  cases (Outcome.ofExcept (Reference.resolve ⟨token.value⟩ program)).positioned token.start with
  | error failure => rfl
  | ok found => simp [bind, Except.bind, pure, Except.pure, Except.map]

theorem visit_other {cell : Cell} {place : Nat} (other : ∀ token, cell ≠ .name token)
    (here : done.length = place) :
    visit program written (done ++ cell :: rest) place = .ok (done ++ cell :: rest) := by
  subst here
  have current : (done ++ cell :: rest)[done.length]? = some cell := by simp
  simp only [visit, current]
  cases cell with
  | name token => exact absurd rfl (other token)
  | cleared => rfl
  | value held => rfl

variable {before : Option Slot} {current : Term} {others : List Term}

def pending (before : Option Slot) (found : List Term) : List Cell :=
  if isOccurrence before then (found.map Cell.ofTerm).set 0 .cleared else found.map Cell.ofTerm

def leave (program : Program) (before : Option Slot) (slot : Slot) (after : Option Slot) :
    Outcome Error Cell :=
  match slot.action?, literalOf? before with
  | some action, some receiver =>
    let result := applied receiver action (literalOf? after)
    (result.positioned slot.term.token.start).map .value
  | _, _ =>
    if isOccurrence before then .ok .cleared
    else
      match slot.term.literal? with
      | some literal => .ok (.value literal)
      | none =>
        let resolved := Outcome.ofExcept (Reference.resolve ⟨slot.term.token.value⟩ program)
        (resolved.positioned slot.term.token.start).map .value

def clearedBy (slot : Slot) (done : List Cell) : List Cell :=
  if isOccurrence (some slot) then done.set (done.length - 1) .cleared else done

/-- A visit sees the slots before it as they were left, and the literals as they were written. -/
theorem visit_pending (program : Program) (others : List Term) (aligned : seen.length = done.length)
    (last : seen.getLast?.bind Cell.value? = literalOf? before)
    (apart : isOccurrence before = true → literalOf? before = none) {action? : Option Action}
    (occurs : occurrence? (literalOf? before) current = action?) :
    visit program (seen ++ (current :: others).map Cell.ofTerm)
        (done ++ pending before (current :: others)) done.length =
      (leave program before ⟨current, action?⟩ (slots current.literal? others).head?).map
        fun cell => clearedBy ⟨current, action?⟩ done ++
          cell :: pending (some ⟨current, action?⟩) others := by
  have spelled := operator?_append seen ((current :: others).map Cell.ofTerm)
  rw [aligned, last] at spelled
  have argument := literalAt?_behind seen current others current.literal?
  rw [aligned] at argument
  cases action? with
  | some action =>
      obtain ⟨name, receiver, literal, found⟩ := occurrence?_eq_some occurs
      obtain ⟨token, _⟩ := current
      obtain rfl := name
      have free : ¬isOccurrence before = true := by
        intro taken
        rw [apart taken] at literal
        cases literal
      have here : operator? (seen ++ (⟨token, none⟩ :: others).map Cell.ofTerm) token.value
          done.length = some (receiver, action) := by
        rw [spelled, literal]
        simp [found]
      rw [pending, if_neg free, List.map_cons]
      refine (visit_operator here rfl).trans ?_
      rw [argument]
      simp only [leave, literal]
      cases (applied receiver action (literalOf? (slots none others).head?)).positioned
          token.start with
      | error failure => rfl
      | ok result => rfl
  | none =>
      by_cases taken : isOccurrence before = true
      · rw [pending, if_pos taken]
        simp only [leave, taken, if_true]
        exact visit_other nofun rfl
      · rw [pending, if_neg taken, List.map_cons]
        rcases current with ⟨token, _ | literal⟩
        · have here : operator? (seen ++ (⟨token, none⟩ :: others).map Cell.ofTerm) token.value
              done.length = none := by
            rw [spelled]
            cases literal : literalOf? before with
            | none => rfl
            | some receiver =>
                have unfound : receiver.actionForSymbol? token.value = none := by
                  rw [literal] at occurs
                  exact occurs
                simp [unfound]
          refine (visit_name here rfl).trans ?_
          simp only [leave, if_neg taken]
          cases (Outcome.ofExcept (Reference.resolve ⟨token.value⟩ program)).positioned
              token.start with
          | error failure => rfl
          | ok found => rfl
        · simp only [leave, if_neg taken]
          exact visit_other nofun rfl

end LetLang.InPlace
