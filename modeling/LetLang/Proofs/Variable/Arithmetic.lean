import LetLang.Proofs.Value.NormalForm

/-! The four operators of numbers: which text spells one, and when one gives a result. -/
namespace LetLang

def Operator.arithmetic : List (String × ActionName) :=
  [("+", .add), ("-", .subtract), ("*", .multiply), ("/", .divide)]

namespace Action

theorem eq_arithmetic {action : Action} (member : action ∈ number) :
    ∃ name symbol, action = arithmetic name symbol ∧
      (String.singleton symbol, name) ∈ Operator.arithmetic := by
  simp only [number, List.mem_cons, List.not_mem_nil, or_false] at member
  rcases member with rfl | rfl | rfl | rfl
  · exact ⟨.add, '+', rfl, by decide⟩
  · exact ⟨.subtract, '-', rfl, by decide⟩
  · exact ⟨.multiply, '*', rfl, by decide⟩
  · exact ⟨.divide, '/', rfl, by decide⟩

theorem ne_get_of_arithmetic {text : String} {name : ActionName}
    (spelled : (text, name) ∈ Operator.arithmetic) : name ≠ .get := by
  intro same
  subst same
  simp [Operator.arithmetic] at spelled

theorem eq_singleton_of_isSpelled {name : ActionName} {symbol : Char} {text : String}
    (spelled : (arithmetic name symbol).isSpelled text = true) :
    text = String.singleton symbol := by
  simp only [arithmetic, isSpelled, beq_iff_eq] at spelled
  rw [← String.ofList_toList (s := text), spelled]
  rfl

end Action

namespace Variable

variable {receiver : Variable}

theorem arithmetic_of_symbol (numeric : receiver.actions = Action.number) {text : String}
    {action : Action} (found : receiver.actionForSymbol? text = some action) :
    action ∈ Action.number ∧ (text, action.name) ∈ Operator.arithmetic := by
  rw [actionForSymbol?] at found
  have spelled := List.find?_some found
  have member := List.mem_of_find?_eq_some found
  rw [numeric] at member
  refine ⟨member, ?_⟩
  obtain ⟨name, symbol, rfl, listed⟩ := Action.eq_arithmetic member
  rw [Action.eq_singleton_of_isSpelled spelled]
  exact listed

theorem symbol_of_arithmetic (numeric : receiver.actions = Action.number) {text : String}
    {name : ActionName} (listed : (text, name) ∈ Operator.arithmetic) :
    ∃ action ∈ Action.number, receiver.actionForSymbol? text = some action ∧
      action.name = name := by
  rw [actionForSymbol?]
  rw [numeric]
  simp only [Operator.arithmetic, List.mem_cons, List.not_mem_nil, or_false,
    Prod.mk.injEq] at listed
  rcases listed with ⟨rfl, rfl⟩ | ⟨rfl, rfl⟩ | ⟨rfl, rfl⟩ | ⟨rfl, rfl⟩
  · exact ⟨.arithmetic .add '+', by decide, by decide, rfl⟩
  · exact ⟨.arithmetic .subtract '-', by decide, by decide, rfl⟩
  · exact ⟨.arithmetic .multiply '*', by decide, by decide, rfl⟩
  · exact ⟨.arithmetic .divide '/', by decide, by decide, rfl⟩

theorem assignedValue_eq_ok {cell : Variable} {value : Value} :
    cell.assignedValue = .ok value ↔ cell.value? = some value := by
  rw [assignedValue]
  cases cell.value? with
  | none => simp
  | some found => simp

theorem checkKinds_arithmetic {name : ActionName} {symbol : Char} {index : Nat}
    {arguments : List Variable} {done : Unit} :
    checkKinds (.arithmetic name symbol) index arguments = .ok done ↔
      ∀ argument ∈ arguments, argument.kind ∈ Kind.numeric := by
  have accepted : ∀ place,
      ((Action.arithmetic name symbol).acceptedKinds? place).getD [] = Kind.numeric :=
    fun _ => rfl
  induction arguments generalizing index with
  | nil => simp [checkKinds]
  | cons argument others ih =>
      simp only [checkKinds, accepted, List.forall_mem_cons]
      by_cases numeric : argument.kind ∈ Kind.numeric
      · simp [numeric, ih]
      · simp [numeric]

theorem invoke_number_eq_ok {action : Action} (member : action ∈ Action.number)
    {arguments : List Variable} {result : Value} :
    receiver.invoke action arguments = .ok result ↔
      (∀ argument ∈ arguments, argument.kind ∈ Kind.numeric) ∧
        ∃ value, receiver.value? = some value ∧
          ∃ operands, assignedValues arguments = .ok operands ∧
            Value.fold receiver.kind action.name value operands = .ok result := by
  obtain ⟨name, symbol, rfl, listed⟩ := Action.eq_arithmetic member
  have spreads : checkArity (.arithmetic name symbol) arguments.length = .ok () := rfl
  simp only [invoke, spreads, except_bind_eq_ok, Outcome.ofExcept_eq_ok, checkKinds_arithmetic,
    assignedValue_eq_ok, exists_and_left, exists_const, true_and]
  cases name with
  | get => exact absurd rfl (Action.ne_get_of_arithmetic listed)
  | _ => simp only [Action.arithmetic, Outcome.ofExcept_eq_ok]

theorem invoke_number_nil {action : Action} (member : action ∈ Action.number) {result : Value} :
    receiver.invoke action [] = .ok result ↔ receiver.value? = some result := by
  simp only [invoke_number_eq_ok member, assignedValues, Value.fold, Except.ok.injEq,
    exists_eq_left', exists_eq_right, List.not_mem_nil, false_implies, implies_true, true_and]

theorem invoke_number_singleton {action : Action} (member : action ∈ Action.number)
    {operand : Variable} {result : Value} :
    receiver.invoke action [operand] = .ok result ↔
      operand.kind ∈ Kind.numeric ∧ ∃ a, receiver.value? = some a ∧
        ∃ b, operand.value? = some b ∧
          Value.fold receiver.kind action.name a [b] = .ok result := by
  have operands : ∀ values, assignedValues [operand] = .ok values ↔
      ∃ b, operand.value? = some b ∧ values = [b] := by
    intro values
    simp only [assignedValues, except_bind_eq_ok, assignedValue_eq_ok, pure, Except.pure,
      Except.ok.injEq, exists_eq_left', @eq_comm _ values]
  simp only [invoke_number_eq_ok member, operands, List.mem_singleton, forall_eq]
  constructor
  · intro parts
    rcases parts with ⟨numeric, a, left, _, ⟨b, right, rfl⟩, folded⟩
    exact ⟨numeric, a, left, b, right, folded⟩
  · intro parts
    rcases parts with ⟨numeric, a, left, b, right, folded⟩
    exact ⟨numeric, a, left, [b], ⟨b, right, rfl⟩, folded⟩

theorem invoke_ne_crash {action : Action} (other : action.name ≠ .get)
    (arguments : List Variable) : receiver.invoke action arguments ≠ Outcome.crash := by
  rw [invoke]
  refine Outcome.bind_ne_crash (Outcome.ofExcept_ne_crash _) fun _ _ => ?_
  refine Outcome.bind_ne_crash (Outcome.ofExcept_ne_crash _) fun _ _ => ?_
  refine Outcome.bind_ne_crash (Outcome.ofExcept_ne_crash _) fun value _ => ?_
  refine Outcome.bind_ne_crash (Outcome.ofExcept_ne_crash _) fun operands _ => ?_
  split
  · exact absurd ‹_› other
  · exact absurd ‹_› other
  · exact Outcome.ofExcept_ne_crash _

end Variable
end LetLang
