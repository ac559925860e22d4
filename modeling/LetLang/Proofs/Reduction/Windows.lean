import LetLang.Proofs.Reduction.Elements

/-!
The windows that reduce: a literal, a declared name, and a number with one operator behind it that
may have a name or a second number as its operand. Everything else is refused.
-/
namespace LetLang

def Token.IsNumber (token : Token) (read : Variable) : Prop :=
  token.kind = .number ∧ token.literal = .ok read

def Token.IsOperator (token : Token) (name : ActionName) : Prop :=
  token.kind = .identifier ∧ (token.value, name) ∈ Operator.arithmetic

namespace Reduction

/-- A window and what it reduces to. A name behind an operator is never looked up. -/
inductive Reduces (program : Program) : List Token → Variable → Prop
  | literal {token : Token} {read : Variable} (stands : token.literal = .ok read) :
      Reduces program [token] read
  | name {token : Token} {found : Variable} (named : token.kind = .identifier)
      (declared : program.find? token.value = some found) : Reduces program [token] found
  | alone {number operator : Token} {read : Variable} {name : ActionName}
      (first : number.IsNumber read) (spelled : operator.IsOperator name) :
      Reduces program [number, operator] read
  | beforeName {number operator dropped : Token} {read : Variable} {name : ActionName}
      (first : number.IsNumber read) (spelled : operator.IsOperator name)
      (unread : dropped.kind = .identifier) : Reduces program [number, operator, dropped] read
  | applied {number operator other : Token} {left right : Variable} {name : ActionName}
      {a b result : Value} (first : number.IsNumber left) (spelled : operator.IsOperator name)
      (second : other.IsNumber right) (leftValue : left.value? = some a)
      (rightValue : right.value? = some b) (folded : Value.fold left.kind name a [b] = .ok result)
      (fits : left.kind.accepts result = true) :
      Reduces program [number, operator, other] (.holding left.kind none result)

def OperatorAt (window : List Token) (place : Nat) : Prop :=
  ∃ number operator name, window[place]? = some number ∧ number.kind = .number ∧
    window[place + 1]? = some operator ∧ operator.IsOperator name

variable {program : Program} {start : Position} {window : List Token} {result : Variable}

theorem Reduces.length_le (shape : Reduces program window result) : window.length ≤ 3 := by
  cases shape with
  | literal stands => simp
  | name named declared => simp
  | alone first second => simp
  | beforeName first second named => simp
  | applied first second third leftValue rightValue folded fits => simp

/-- Two operators need a number each, and no place holds a number and an operator. -/
theorem four_le_length_of_operators {i j : Nat} (order : i < j) (first : OperatorAt window i)
    (second : OperatorAt window j) : 4 ≤ window.length := by
  obtain ⟨_, operator, _, _, _, here, spelled⟩ := first
  obtain ⟨number, _, _, there, digits, last, _⟩ := second
  have apart : j ≠ i + 1 := by
    intro same
    subst same
    obtain rfl : operator = number := Option.some.inj (here.symm.trans there)
    rw [spelled.1] at digits
    cases digits
  have inside := (List.getElem?_eq_some_iff.mp last).1
  omega

theorem single_eq_ok {elements : List Element} :
    single program start elements = .ok result ↔
      elements = [.value result] ∨
        ∃ target, elements = [.reference target] ∧ program.find? target.name = some result := by
  rcases elements with _ | ⟨reduced | target, _ | ⟨second, others⟩⟩
  · simp [single]
  · simp [single]
  · simp [single]
  · simp [single, except_mapError_eq_ok, Reference.resolve_eq_ok]
  · simp [single]

theorem reduce_eq_ok_of_elements :
    reduce program start window = .ok result ↔
      ∃ found, List.Forall₂ (fun token current => term token = .ok current) window found ∧
        ∃ elements, reduceSlots program none (slots none found) = .ok elements ∧
          single program start elements = .ok result := by
  simp only [reduce, except_bind_eq_ok, Outcome.ofExcept_eq_ok, terms_eq_ok]

theorem operator_of_occurrence {first second : Token} {before current : Term} {action : Action}
    (readFirst : term first = .ok before) (readSecond : term second = .ok current)
    (operator : occurrence? before.literal? current = some action) :
    ∃ read, before = ⟨first, some read⟩ ∧ current = ⟨second, none⟩ ∧ first.IsNumber read ∧
      action ∈ Action.number ∧ second.IsOperator action.name := by
  obtain ⟨name, read, literal, spelled⟩ := occurrence?_eq_some operator
  rcases term_eq_ok.mp readFirst with ⟨_, rfl⟩ | ⟨found, stands, rfl⟩
  · cases literal
  rcases term_eq_ok.mp readSecond with ⟨named, rfl⟩ | ⟨other, _, rfl⟩
  · obtain rfl : found = read := Option.some.inj literal
    rcases Token.literal_actions stands with ⟨_, none⟩ | ⟨digits, numeric⟩
    · rw [Variable.actionForSymbol?, none] at spelled
      cases spelled
    · obtain ⟨member, listed⟩ := Variable.arithmetic_of_symbol numeric spelled
      exact ⟨found, rfl, rfl, ⟨digits, stands⟩, member, named, listed⟩
  · cases name

theorem occurrence_of_operator {first second : Token} {read : Variable} {name : ActionName}
    (number : first.IsNumber read) (spelled : second.IsOperator name) :
    ∃ action ∈ Action.number, occurrence? (some read) ⟨second, none⟩ = some action ∧
      action.name = name := by
  rcases Token.literal_actions number.2 with ⟨quoted, _⟩ | ⟨_, numeric⟩
  · rw [number.1] at quoted
    cases quoted
  · exact Variable.symbol_of_arithmetic numeric spelled.2

@[simp] theorem occurrence?_front (current : Term) : occurrence? none current = none := by
  cases operator : occurrence? none current with
  | none => rfl
  | some action =>
      obtain ⟨_, _, absent, _⟩ := occurrence?_eq_some operator
      cases absent

theorem reduceSlots_literal {token : Token} {read : Variable} {elements : List Element} :
    reduceSlots program none [⟨⟨token, some read⟩, none⟩] = .ok elements ↔
      elements = [.value read] := by
  have free : (isOccurrence none || isOccurrence none) = false := rfl
  simp only [reduceSlots_cons, reduceSlots_nil, List.head?_nil, reduceSlot_literal free,
    exists_eq_left, List.append_nil, Option.toList_some]

theorem reduceSlots_name {token : Token} {elements : List Element} :
    reduceSlots program none [⟨⟨token, none⟩, none⟩] = .ok elements ↔
      (∃ found, program.find? token.value = some found) ∧
        elements = [.reference ⟨token.value⟩] := by
  have free : (isOccurrence none || isOccurrence none) = false := rfl
  simp only [reduceSlots_cons, reduceSlots_nil, List.head?_nil, reduceSlot_name free,
    exists_eq_left, List.append_nil, and_assoc, exists_and_left, Option.toList_some]

theorem reduceSlots_operator {number operator : Token} {read : Variable} {action : Action}
    {others : List Slot} {elements : List Element} :
    reduceSlots program none
        (⟨⟨number, some read⟩, none⟩ :: ⟨⟨operator, none⟩, some action⟩ :: others) = .ok elements ↔
      ∃ value, read.invoke action (literalOf? others.head?).toList = .ok value ∧
        read.kind.accepts value = true ∧
        ∃ rest, reduceSlots program (some ⟨⟨operator, none⟩, some action⟩) others = .ok rest ∧
          elements = .value (.holding read.kind none value) :: rest := by
  have taken : (isOccurrence none ||
      isOccurrence (some ⟨⟨operator, none⟩, some action⟩)) = true := rfl
  have literal : literalOf? (some ⟨⟨number, some read⟩, none⟩) = some read := rfl
  simp only [reduceSlots_cons, List.head?_cons, reduceSlot_taken taken, exists_eq_left,
    reduceSlot_operator literal, Option.toList_none, List.nil_append]
  constructor
  · intro parts
    rcases parts with ⟨_, ⟨left?, ⟨value, ran, fits, rfl⟩, rest, others, rfl⟩, rfl⟩
    exact ⟨value, ran, fits, rest, others, rfl⟩
  · intro parts
    rcases parts with ⟨value, ran, fits, rest, others, rfl⟩
    exact ⟨_, ⟨_, ⟨value, ran, fits, rfl⟩, rest, others, rfl⟩, rfl⟩

theorem reduceSlots_behind {operator current : Term} {action : Action} {elements : List Element} :
    reduceSlots program (some ⟨operator, some action⟩) [⟨current, none⟩] = .ok elements ↔
      elements = [] := by
  have taken : (isOccurrence (some ⟨operator, some action⟩) || isOccurrence none) = true := rfl
  simp only [reduceSlots_cons, reduceSlots_nil, List.head?_nil, reduceSlot_taken taken,
    exists_eq_left, List.append_nil, Option.toList_none]

end Reduction
end LetLang
