import LetLang.Proofs.Value.NormalForm
import LetLang.Value.Arithmetic

/-! What a variable holds: the actions of its kind, and a value of the form that the kind gives. -/
namespace LetLang

namespace Binary64

theorem isFinite_of_le {least x greatest : Binary64} (low : least.isFinite = true)
    (high : greatest.isFinite = true) (above : least.le x = true) (below : x.le greatest = true) :
    x.isFinite = true := by
  cases x with
  | finite negative rank => rfl
  | nan => simp [le, place?] at below
  | infinite negative =>
      rcases least with ⟨left, first⟩ | _ | _
      · rcases greatest with ⟨right, last⟩ | _ | _
        · have one : first.val < 0x7FF0000000000000 := first.isLt
          have two : last.val < 0x7FF0000000000000 := last.isLt
          cases negative with
          | true =>
              cases left
              all_goals
                simp [le, place?] at above
                omega
          | false =>
              cases right
              all_goals
                simp [le, place?] at below
                omega
        · cases high
        · cases high
      · cases low
      · cases low

end Binary64

namespace Kind

theorem isFinite_greatestSingle :
    (Binary64.ofInt (-greatestSingle)).isFinite = true ∧
      (Binary64.ofInt greatestSingle).isFinite = true := by
  decide +kernel

theorem isFinite_bounds {kind : Kind} {least greatest : Binary64}
    (bounds : kind.bounds? = some (.float least greatest)) :
    least.isFinite = true ∧ greatest.isFinite = true := by
  cases kind with
  | f32 =>
      simp only [bounds?, Option.some.injEq, Bounds.float.injEq] at bounds
      rw [← bounds.1, ← bounds.2]
      exact isFinite_greatestSingle
  | f64 =>
      simp only [bounds?, Option.some.injEq, Bounds.float.injEq] at bounds
      rw [← bounds.1, ← bounds.2]
      exact ⟨rfl, rfl⟩
  | _ => cases bounds

def Holds (kind : Kind) (value : Value) : Prop :=
  match kind.bounds? with
  | some (.integer least greatest) => ∃ n, value = .integer n ∧ least ≤ n ∧ n ≤ greatest
  | some (.float least greatest) =>
    ∃ x, value = .float x ∧ x.isFinite = true ∧ least.le x = true ∧ x.le greatest = true
  | none =>
    match kind with
    | .bool => ∃ held, value = .bool held
    | .char => ∃ c, value = .string (String.singleton c)
    | .string => ∃ text, value = .string text
    | _ => ∃ members, value = .object members

theorem holds_unbounded {kind : Kind} {value : Value} (bounds : kind.bounds? = none)
    (fits : kind.accepts value = true) : kind.Holds value := by
  cases kind with
  | bool =>
      cases value with
      | bool held => exact ⟨held, rfl⟩
      | _ => cases fits
  | char =>
      cases value with
      | string text =>
          have single : (text.toList.length == 1) = true := fits
          rcases List.length_eq_one_iff.mp (eq_of_beq single) with ⟨c, same⟩
          refine ⟨c, congrArg Value.string ?_⟩
          rw [← String.ofList_toList (s := text), same]
          rfl
      | _ => cases fits
  | string =>
      cases value with
      | string text => exact ⟨text, rfl⟩
      | _ => cases fits
  | object =>
      cases value with
      | object members => exact ⟨members, rfl⟩
      | _ => cases fits
  | _ => cases bounds

theorem holds_of_normal {kind : Kind} {value : Value} (fits : kind.accepts value = true)
    (normal : kind.normalise value = value) : kind.Holds value := by
  cases bounds : kind.bounds? with
  | none => exact holds_unbounded bounds fits
  | some interval =>
      unfold accepts at fits
      unfold normalise at normal
      unfold Holds
      cases interval with
      | integer least greatest =>
          simp only [bounds] at fits normal ⊢
          cases whole : value.asInteger? with
          | none => simp [whole] at fits
          | some n =>
              simp only [whole, Bool.and_eq_true, decide_eq_true_eq] at fits normal
              exact ⟨n, normal.symm, fits⟩
      | float least greatest =>
          simp only [bounds] at fits normal ⊢
          cases real : value.asFloat? with
          | none => simp [real] at fits
          | some x =>
              simp only [real, Bool.and_eq_true] at fits normal
              have ends := isFinite_bounds bounds
              have finite := Binary64.isFinite_of_le ends.1 ends.2 fits.1 fits.2
              exact ⟨x, normal.symm, finite, fits⟩

theorem object_of_normalise {kind : Kind} {value : Value} {members : List Variable}
    (normal : kind.normalise value = .object members) : value = .object members := by
  unfold normalise at normal
  split at normal
  · split at normal
    · cases normal
    · exact normal
  · split at normal
    · cases normal
    · exact normal
  · exact normal

end Kind

namespace Variable

/-- A variable with the actions of its kind, and with no other value than one that the kind accepts
and leaves as it is. -/
structure Sound (cell : Variable) : Prop where
  actions : cell.actions = cell.kind.actions
  value : ∀ value, cell.value? = some value → cell.kind.accepts value = true ∧
    cell.kind.normalise value = value ∧ cell.kind.Holds value

variable {cell made : Variable}

theorem setName_eq_ok {name : String} :
    cell.setName name = .ok made ↔ cell.name? = none ∧ made = { cell with name? := some name } := by
  unfold setName
  cases cell.name? with
  | none => simp [eq_comm]
  | some given => simp

theorem setValue_eq_ok_of_unvalued {value : Value} :
    cell.setValue value = .ok made ↔ cell.value? = none ∧ cell.kind.accepts value = true ∧
      made = { cell with value? := some (cell.kind.normalise value) } := by
  unfold setValue
  cases cell.value? with
  | some given => simp
  | none =>
      by_cases fits : cell.kind.accepts value = true
      · simp [fits, eq_comm]
      · simp [fits]

theorem sound_new (kind : Kind) : (new kind).Sound := ⟨rfl, nofun⟩

theorem Sound.setName {name : String} (sound : cell.Sound) (named : cell.setName name = .ok made) :
    made.Sound := by
  rcases setName_eq_ok.mp named with ⟨_, rfl⟩
  exact ⟨sound.actions, sound.value⟩

/-- The check comes before the value takes its form, which therefore has to be accepted as well. -/
theorem Sound.setValue {value : Value} (sound : cell.Sound)
    (valued : cell.setValue value = .ok made) : made.Sound := by
  rcases setValue_eq_ok_of_unvalued.mp valued with ⟨_, fits, rfl⟩
  refine ⟨sound.actions, ?_⟩
  intro held same
  obtain rfl : cell.kind.normalise value = held := Option.some.inj same
  have accepted := cell.kind.accepts_normalise fits
  have normal := cell.kind.normalise_normalise value
  exact ⟨accepted, normal, cell.kind.holds_of_normal accepted normal⟩

end Variable

namespace Value

def IsNumber : Value → Prop
  | integer _ | float _ => True
  | _ => False

theorem isNumber_of_exactly {n? : Option Int128} {result : Value}
    (made : exactly n? = .ok result) : result.IsNumber := by
  cases n? with
  | none => cases made
  | some n =>
      cases made
      trivial

theorem isNumber_of_applyIntegers {action : ActionName} {a b : Int128} {result : Value}
    (made : applyIntegers action a b = .ok result) : result.IsNumber := by
  cases action with
  | get => cases made
  | divide =>
      rw [applyIntegers] at made
      split at made
      · cases made
      · exact isNumber_of_exactly made
  | _ => exact isNumber_of_exactly made

theorem isNumber_of_applyFloats {action : ActionName} {a b : Binary64} {result : Value}
    (made : applyFloats action a b = .ok result) : result.IsNumber := by
  cases action with
  | get => cases made
  | _ =>
      cases made
      trivial

theorem isNumber_of_apply {kind : Kind} {action : ActionName} {left right result : Value}
    (made : apply kind action left right = .ok result) : result.IsNumber := by
  unfold apply at made
  split at made
  · exact isNumber_of_applyIntegers made
  · split at made
    · exact isNumber_of_applyFloats made
    · cases made

theorem isNumber_of_fold {kind : Kind} {action : ActionName} {initial operand result : Value}
    {operands : List Value} (folded : fold kind action initial (operand :: operands) = .ok result) :
    result.IsNumber := by
  induction operands generalizing initial operand with
  | nil =>
      rcases except_bind_eq_ok.mp folded with ⟨middle, made, last⟩
      cases last
      exact isNumber_of_apply made
  | cons next operands ih =>
      rcases except_bind_eq_ok.mp folded with ⟨middle, _, others⟩
      exact ih others

end Value
end LetLang
