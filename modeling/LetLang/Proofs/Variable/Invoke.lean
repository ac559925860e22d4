import LetLang.Proofs.Value.Rounded
import LetLang.Proofs.Variable.Arithmetic

/-!
What an invocation is refused for, check by check, and what the operators of numbers answer: the
kinds of the arguments leave no more than two reasons for arithmetic to fail, and a kind of doubles
none.
-/
namespace LetLang

namespace Value

variable {kind : Kind} {name : ActionName} {left right initial result : Value}
variable {operands : List Value} {cause : Cause}

theorem refused_of_apply (arithmetic : name ≠ .get) (first : left.IsNumber)
    (second : right.IsNumber) (failed : apply kind name left right = .error cause) :
    kind.isInteger = true ∧ (cause = .divisionByZero ∨ cause = .arithmeticOverflow) := by
  by_cases whole : ∃ a b, kind.isInteger = true ∧ left.asInteger? = some a ∧
      right.asInteger? = some b
  · obtain ⟨a, b, integral, one, other⟩ := whole
    refine ⟨integral, ?_⟩
    rw [apply_of_integers integral one other, applyIntegers_eq arithmetic] at failed
    split at failed
    · cases failed
      exact .inl rfl
    · cases held : Int128.ofInt? (name.exact a.toInt b.toInt) with
      | none =>
          rw [held] at failed
          cases failed
          exact .inr rfl
      | some n =>
          rw [held] at failed
          cases failed
  · have apart : ∀ a b, kind.isInteger = true → left.asInteger? = some a →
        right.asInteger? = some b → False :=
      fun a b integral one other => whole ⟨a, b, integral, one, other⟩
    rw [apply_rounded arithmetic first second apart] at failed
    cases failed

theorem refused_of_fold (arithmetic : name ≠ .get) (number : initial.IsNumber)
    (numbers : ∀ operand ∈ operands, operand.IsNumber)
    (failed : fold kind name initial operands = .error cause) :
    kind.isInteger = true ∧ (cause = .divisionByZero ∨ cause = .arithmeticOverflow) := by
  induction operands generalizing initial with
  | nil => cases failed
  | cons operand operands ih =>
      rw [List.forall_mem_cons] at numbers
      rw [fold] at failed
      cases made : apply kind name initial operand with
      | error reason =>
          rw [made] at failed
          cases failed
          exact refused_of_apply arithmetic number numbers.1 made
      | ok middle =>
          rw [made] at failed
          exact ih (isNumber_of_apply made) numbers.2 failed

theorem isNumber_of_fold_number (number : initial.IsNumber)
    (folded : fold kind name initial operands = .ok result) : result.IsNumber := by
  cases operands with
  | nil =>
      cases folded
      exact number
  | cons operand operands => exact isNumber_of_fold folded

end Value

namespace Variable

variable {receiver : Variable} {action : Action} {arguments cells : List Variable}
variable {values operands : List Value} {value : Value} {index : Nat} {cause : Cause}

theorem checkKinds_refused (failed : checkKinds action index arguments = .error cause) :
    ∃ front argument back, arguments = front ++ argument :: back ∧
      checkKinds action index front = .ok () ∧
      argument.kind ∉ (action.acceptedKinds? (index + front.length)).getD [] ∧
      cause = .argumentKindMismatch
        (" | ".intercalate
          (((action.acceptedKinds? (index + front.length)).getD []).map Kind.name))
        argument.kind.name := by
  induction arguments generalizing index with
  | nil => cases failed
  | cons argument arguments ih =>
      by_cases accepted : argument.kind ∈ (action.acceptedKinds? index).getD []
      · rw [checkKinds, if_pos accepted] at failed
        obtain ⟨front, other, back, rfl, passed, refused, same⟩ := ih failed
        have place : index + (argument :: front).length = index + 1 + front.length := by
          rw [List.length_cons]
          omega
        refine ⟨argument :: front, other, back, rfl, ?_, ?_, ?_⟩
        · rw [checkKinds, if_pos accepted, passed]
        · rw [place]
          exact refused
        · rw [place]
          exact same
      · rw [checkKinds, if_neg accepted] at failed
        cases failed
        exact ⟨[], argument, arguments, rfl, rfl, accepted, rfl⟩

theorem assignedValues_eq_ok :
    assignedValues cells = .ok values ↔ cells.map value? = values.map some := by
  induction cells generalizing values with
  | nil => cases values <;> simp [assignedValues]
  | cons cell cells ih =>
      simp only [assignedValues, except_bind_eq_ok, assignedValue_eq_ok, ih, pure, Except.pure,
        Except.ok.injEq]
      cases values with
      | nil => simp
      | cons first values => simp [and_comm, eq_comm]

theorem assignedValues_refused (failed : assignedValues cells = .error cause) :
    ∃ front cell back, cells = front ++ cell :: back ∧ (∀ earlier ∈ front, earlier.value? ≠ none) ∧
      cell.value? = none ∧ cause = .valueKindMismatch "nothing" cell.kind.name := by
  induction cells with
  | nil => cases failed
  | cons cell cells ih =>
      rw [assignedValues, assignedValue] at failed
      cases held : cell.value? with
      | none =>
          rw [held] at failed
          cases failed
          exact ⟨[], cell, cells, rfl, List.forall_mem_nil _, held, rfl⟩
      | some value =>
          rw [held] at failed
          cases others : assignedValues cells with
          | error reason =>
              rw [others] at failed
              cases failed
              obtain ⟨front, other, back, rfl, valued, missing, same⟩ := ih others
              refine ⟨cell :: front, other, back, rfl, ?_, missing, same⟩
              rw [List.forall_mem_cons, held]
              exact ⟨Option.some_ne_none value, valued⟩
          | ok values =>
              rw [others] at failed
              cases failed

theorem valued_of_assignedValues (held : assignedValues cells = .ok values) :
    ∀ cell ∈ cells, cell.value? ≠ none := by
  intro cell inside missing
  have present : none ∈ cells.map value? := missing ▸ List.mem_map_of_mem inside
  rw [assignedValues_eq_ok.mp held] at present
  simp at present

theorem exists_valued_of_assignedValues (held : assignedValues cells = .ok values) :
    ∀ value ∈ values, ∃ cell ∈ cells, cell.value? = some value := by
  intro value inside
  have present : some value ∈ values.map some := List.mem_map_of_mem inside
  rw [← assignedValues_eq_ok.mp held] at present
  exact List.mem_map.mp present

/-! An invocation, by the first of its checks that fails. -/

theorem invoke_of_kinds_refused (fits : checkArity action arguments.length = .ok ())
    (failed : checkKinds action 0 arguments = .error cause) :
    receiver.invoke action arguments = Outcome.refuse cause := by
  rw [invoke, fits, failed]
  rfl

theorem invoke_of_values_refused (fits : checkArity action arguments.length = .ok ())
    (kinds : checkKinds action 0 arguments = .ok ())
    (failed : assignedValues (receiver :: arguments) = .error cause) :
    receiver.invoke action arguments = Outcome.refuse cause := by
  rw [invoke, fits, kinds]
  rw [assignedValues] at failed
  cases held : receiver.assignedValue with
  | error reason =>
      rw [held] at failed
      cases failed
      rfl
  | ok value =>
      rw [held] at failed
      cases others : assignedValues arguments with
      | error reason =>
          rw [others] at failed
          cases failed
          rfl
      | ok values =>
          rw [others] at failed
          cases failed

theorem invoke_of_operands (fits : checkArity action arguments.length = .ok ())
    (kinds : checkKinds action 0 arguments = .ok ())
    (held : assignedValues (receiver :: arguments) = .ok (value :: operands))
    (arithmetic : action.name ≠ .get) :
    receiver.invoke action arguments =
      Outcome.ofExcept (Value.fold receiver.kind action.name value operands) := by
  rw [assignedValues_eq_ok, List.map_cons, List.map_cons, List.cons.injEq] at held
  rw [invoke, fits, kinds, assignedValue_eq_ok.mpr held.1, assignedValues_eq_ok.mpr held.2]
  simp only [Outcome.ofExcept, bind, Except.bind]
  split
  · exact absurd ‹_› arithmetic
  · exact absurd ‹_› arithmetic
  · rfl

theorem invoke_of_member {operand : Value}
    (fits : checkArity action arguments.length = .ok ())
    (kinds : checkKinds action 0 arguments = .ok ())
    (held : assignedValues (receiver :: arguments) = .ok (value :: operand :: operands))
    (reads : action.name = .get) :
    receiver.invoke action arguments =
      Outcome.ofExcept (receiver.get (operand.asString?.getD "")) := by
  rw [assignedValues_eq_ok, List.map_cons, List.map_cons, List.cons.injEq] at held
  rw [invoke, fits, kinds, assignedValue_eq_ok.mpr held.1, assignedValues_eq_ok.mpr held.2, reads]
  rfl

theorem Sound.isNumber (sound : receiver.Sound) (numeric : receiver.kind ∈ Kind.numeric)
    (held : receiver.value? = some value) : value.IsNumber := by
  have holds := (sound.value value held).2.2
  unfold Kind.Holds at holds
  split at holds
  · obtain ⟨n, rfl, _⟩ := holds
    trivial
  · obtain ⟨x, rfl, _⟩ := holds
    trivial
  · rename_i unbounded
    rw [← Kind.isNumeric_iff, Kind.isNumeric, unbounded] at numeric
    cases numeric

/-- The answers of an operator of numbers, each with all that it takes for it to be given. -/
inductive Calculates (receiver : Variable) (arguments : List Variable) :
    Outcome Cause Value → Prop
  | kinds {front back : List Variable} {argument : Variable}
      (split : arguments = front ++ argument :: back)
      (before : ∀ earlier ∈ front, earlier.kind ∈ Kind.numeric)
      (other : argument.kind ∉ Kind.numeric) :
      Calculates receiver arguments (Outcome.refuse (.argumentKindMismatch
        (" | ".intercalate (Kind.numeric.map Kind.name)) argument.kind.name))
  | values {front back : List Variable} {cell : Variable}
      (numeric : ∀ argument ∈ arguments, argument.kind ∈ Kind.numeric)
      (split : receiver :: arguments = front ++ cell :: back)
      (before : ∀ earlier ∈ front, earlier.value? ≠ none) (missing : cell.value? = none) :
      Calculates receiver arguments
        (Outcome.refuse (.valueKindMismatch "nothing" cell.kind.name))
  | number {result : Value} (numeric : ∀ argument ∈ arguments, argument.kind ∈ Kind.numeric)
      (valued : ∀ cell ∈ receiver :: arguments, cell.value? ≠ none) (number : result.IsNumber) :
      Calculates receiver arguments (.ok result)
  | integers {cause : Cause} (numeric : ∀ argument ∈ arguments, argument.kind ∈ Kind.numeric)
      (valued : ∀ cell ∈ receiver :: arguments, cell.value? ≠ none)
      (integral : receiver.kind.isInteger = true)
      (arithmetic : cause = .divisionByZero ∨ cause = .arithmeticOverflow) :
      Calculates receiver arguments (Outcome.refuse cause)

/-- By the check that fails first. Behind the checks, the variables being sound, the operands are
numbers, so that no more can fail than arithmetic on integers. -/
theorem Sound.calculates (sound : receiver.Sound) (given : ∀ argument ∈ arguments, argument.Sound)
    (own : receiver.kind ∈ Kind.numeric) (member : action ∈ Action.number) :
    Calculates receiver arguments (receiver.invoke action arguments) := by
  obtain ⟨name, symbol, rfl, listed⟩ := Action.eq_arithmetic member
  have fits : checkArity (.arithmetic name symbol) arguments.length = .ok () := rfl
  cases kinds : checkKinds (.arithmetic name symbol) 0 arguments with
  | error cause =>
      rw [invoke_of_kinds_refused fits kinds]
      obtain ⟨front, argument, back, split, before, other, rfl⟩ := checkKinds_refused kinds
      exact .kinds split (checkKinds_arithmetic.mp before) other
  | ok done =>
      have numeric := checkKinds_arithmetic.mp kinds
      cases held : assignedValues (receiver :: arguments) with
      | error cause =>
          rw [invoke_of_values_refused fits kinds held]
          obtain ⟨front, cell, back, split, before, missing, rfl⟩ := assignedValues_refused held
          exact .values numeric split before missing
      | ok values =>
          have valued := valued_of_assignedValues held
          have all := assignedValues_eq_ok.mp held
          cases values with
          | nil => cases all
          | cons value operands =>
              have arithmetic := Action.ne_get_of_arithmetic listed
              have number : value.IsNumber := sound.isNumber own (List.cons.inj all).1
              have numbers : ∀ operand ∈ operands, operand.IsNumber := by
                intro operand inside
                have others := assignedValues_eq_ok.mpr (List.cons.inj all).2
                obtain ⟨cell, present, same⟩ :=
                  exists_valued_of_assignedValues others operand inside
                exact (given cell present).isNumber (numeric cell present) same
              rw [invoke_of_operands fits kinds held arithmetic]
              cases folded : Value.fold receiver.kind (Action.arithmetic name symbol).name value
                  operands with
              | error cause =>
                  obtain ⟨integral, reason⟩ :=
                    Value.refused_of_fold arithmetic number numbers folded
                  exact .integers numeric valued integral reason
              | ok result =>
                  exact .number numeric valued (Value.isNumber_of_fold_number number folded)

end Variable
end LetLang
