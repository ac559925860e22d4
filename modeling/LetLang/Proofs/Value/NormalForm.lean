import LetLang.Proofs.Outcome
import LetLang.Variable

/-! A kind accepts the form it gives to a value, and leaves that form as it is. -/
namespace LetLang

@[simp] theorem Value.asInteger?_integer (n : Int128) : (Value.integer n).asInteger? = some n := rfl

@[simp] theorem Value.asFloat?_float (x : Binary64) : (Value.float x).asFloat? = some x := rfl

namespace Kind

theorem accepts_normalise {kind : Kind} {value : Value} (fits : kind.accepts value = true) :
    kind.accepts (kind.normalise value) = true := by
  unfold accepts normalise at *
  cases bounds : kind.bounds? with
  | none => simpa only [bounds] using fits
  | some interval =>
      cases interval with
      | integer least greatest =>
          simp only [bounds] at fits ⊢
          cases whole : value.asInteger? with
          | none => simp [whole] at fits
          | some n => simpa only [whole, Value.asInteger?_integer] using fits
      | float least greatest =>
          simp only [bounds] at fits ⊢
          cases real : value.asFloat? with
          | none => simp [real] at fits
          | some x => simpa only [real, Value.asFloat?_float] using fits

theorem normalise_normalise (kind : Kind) (value : Value) :
    kind.normalise (kind.normalise value) = kind.normalise value := by
  unfold normalise
  cases kind.bounds? with
  | none => rfl
  | some interval =>
      cases interval with
      | integer least greatest =>
          cases whole : value.asInteger? with
          | none => simp only [whole]
          | some n => simp only [Value.asInteger?_integer]
      | float least greatest =>
          cases real : value.asFloat? with
          | none => simp only [real]
          | some x => simp only [Value.asFloat?_float]

end Kind

namespace Variable

def holding (kind : Kind) (name? : Option String) (value : Value) : Variable :=
  ⟨name?, kind, some (kind.normalise value), kind.actions⟩

/-- A variable as a declaration leaves it: with the actions of its kind, and with a value that the
kind accepts in the form that the kind gives it. -/
structure Settled (cell : Variable) : Prop where
  actions : cell.actions = cell.kind.actions
  valued : ∃ value, cell.value? = some value ∧ cell.kind.accepts value = true ∧
    cell.kind.normalise value = value

theorem settled_holding {kind : Kind} {value : Value} (fits : kind.accepts value = true)
    (name? : Option String) : (holding kind name? value).Settled :=
  ⟨rfl, kind.normalise value, rfl, kind.accepts_normalise fits, kind.normalise_normalise value⟩

theorem setValue_eq_ok {name? : Option String} {kind : Kind} {value : Value} {made : Variable} :
    setValue ⟨name?, kind, none, kind.actions⟩ value = .ok made ↔
      kind.accepts value = true ∧ made = holding kind name? value := by
  rw [setValue, holding]
  by_cases fits : kind.accepts value = true
  · simp [fits, eq_comm]
  · simp [fits]

theorem anonymous_eq_ok {kind : Kind} {value : Value} {made : Variable} :
    anonymous kind value = .ok made ↔
      kind.accepts value = true ∧ made = holding kind none value :=
  setValue_eq_ok

theorem anonymous_eq_error {kind : Kind} {value : Value}
    (misfits : ¬kind.accepts value = true) :
    anonymous kind value = .error (.valueKindMismatch value.text kind.name) :=
  if_neg misfits

theorem build_eq_ok {kind : Kind} {name : String} {value : Value} {made : Variable} :
    build kind (some name) (some value) = .ok made ↔
      kind.accepts value = true ∧ made = holding kind (some name) value := by
  have named : (new kind).setName name = .ok ⟨some name, kind, none, kind.actions⟩ := rfl
  simp only [build, named]
  exact setValue_eq_ok

theorem Settled.holding_eq {cell : Variable} {value : Value} (settled : cell.Settled)
    (unnamed : cell.name? = none) (valued : cell.value? = some value) :
    holding cell.kind none value = cell := by
  obtain ⟨found, present, fits, normal⟩ := settled.valued
  obtain rfl : found = value := Option.some.inj (present.symm.trans valued)
  rw [holding, normal, ← unnamed, ← present, ← settled.actions]
  cases cell
  rfl

end Variable
end LetLang
