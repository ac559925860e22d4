import LetLang.Proofs.Reduction.Windows

/-!
Reduction decides windows: the shapes of `Reduces` give their result, every other window is refused
with an error, and nothing crashes.
-/
namespace LetLang.Reduction

variable {program : Program} {start : Position} {result : Variable} {elements : List Element}

theorem length_of_single (decided : single program start elements = .ok result) :
    elements.length = 1 := by
  rcases single_eq_ok.mp decided with rfl | ⟨target, rfl, _⟩
  · rfl
  · rfl

theorem value_of_single {read : Variable} {others : List Element}
    (decided : single program start (.value read :: others) = .ok result) : result = read := by
  rcases single_eq_ok.mp decided with same | ⟨target, same, _⟩
  · cases same
    rfl
  · cases same

theorem reduces_of_one {token : Token} {current : Term} (read : term token = .ok current)
    (left : reduceSlots program none (slots none [current]) = .ok elements)
    (decided : single program start elements = .ok result) : Reduces program [token] result := by
  simp only [slots, occurrence?_front] at left
  rcases term_eq_ok.mp read with ⟨named, rfl⟩ | ⟨found, stands, rfl⟩
  · obtain ⟨_, rfl⟩ := reduceSlots_name.mp left
    rcases single_eq_ok.mp decided with same | ⟨target, same, declared⟩
    · cases same
    · cases same
      exact .name named declared
  · obtain rfl := reduceSlots_literal.mp left
    rw [value_of_single decided]
    exact .literal stands

/-- The operator of two tokens has no operand, so the number stays what it is. -/
theorem reduces_of_two {number operator : Token} {before current : Term}
    (readFirst : term number = .ok before) (readSecond : term operator = .ok current)
    (left : reduceSlots program none (slots none [before, current]) = .ok elements)
    (occurs : 0 < occurrences (slots none [before, current]))
    (decided : single program start elements = .ok result) :
    Reduces program [number, operator] result := by
  cases spelled : occurrence? before.literal? current with
  | none => simp [slots, occurrences, spelled] at occurs
  | some action =>
      obtain ⟨read, rfl, rfl, first, member, second⟩ :=
        operator_of_occurrence readFirst readSecond spelled
      simp only [slots, occurrence?_front, spelled] at left
      obtain ⟨value, ran, _, rest, _, rfl⟩ := reduceSlots_operator.mp left
      have kept := (Variable.invoke_number_nil member).mp ran
      rw [value_of_single decided, (Token.literal_settled first.2).holding_eq
        (Token.literal_unnamed first.2) kept]
      exact .alone first second

theorem two_le_length_of_late {first second third : Term} {action : Action}
    (early : occurrence? first.literal? second = none)
    (late : occurrence? second.literal? third = some action)
    (left : reduceSlots program none (slots none [first, second, third]) = .ok elements) :
    2 ≤ elements.length := by
  simp only [slots, occurrence?_front, early, late, reduceSlots_cons, reduceSlots_nil,
    List.head?_cons] at left
  obtain ⟨one?, reducedOne, _, ⟨two?, _, _, ⟨three?, reducedThree, _, rfl, rfl⟩, rfl⟩, rfl⟩ := left
  obtain ⟨_, receiver, literal, _⟩ := occurrence?_eq_some late
  have behind : literalOf? (some ⟨second, none⟩) = some receiver := literal
  obtain ⟨value, _, _, rfl⟩ := (reduceSlot_operator behind).mp reducedThree
  cases one? with
  | none => cases taken_of_reduceSlot reducedOne
  | some one =>
      simp only [Option.toList_some, List.length_append, List.length_singleton, List.length_nil]
      omega

theorem reduces_of_three {number operator other : Token} {before current after : Term}
    (readFirst : term number = .ok before) (readSecond : term operator = .ok current)
    (readThird : term other = .ok after)
    (left : reduceSlots program none (slots none [before, current, after]) = .ok elements)
    (occurs : 0 < occurrences (slots none [before, current, after]))
    (decided : single program start elements = .ok result) :
    Reduces program [number, operator, other] result := by
  cases spelled : occurrence? before.literal? current with
  | none =>
      cases late : occurrence? current.literal? after with
      | none => simp [slots, occurrences, spelled, late] at occurs
      | some action =>
          have crowded := two_le_length_of_late spelled late left
          rw [length_of_single decided] at crowded
          omega
  | some action =>
      obtain ⟨read, rfl, rfl, first, member, second⟩ :=
        operator_of_occurrence readFirst readSecond spelled
      simp only [slots, occurrence?_front, spelled] at left
      obtain ⟨value, ran, fits, rest, _, rfl⟩ := reduceSlots_operator.mp left
      rw [value_of_single decided]
      simp only [List.head?_cons, literalOf?_some] at ran
      rcases term_eq_ok.mp readThird with ⟨named, rfl⟩ | ⟨operand, stands, rfl⟩
      · have kept := (Variable.invoke_number_nil member).mp ran
        rw [(Token.literal_settled first.2).holding_eq (Token.literal_unnamed first.2) kept]
        exact .beforeName first second named
      · obtain ⟨numeric, a, leftValue, b, rightValue, folded⟩ :=
          (Variable.invoke_number_singleton member).mp ran
        have third : other.IsNumber operand := by
          rcases Token.literal_kind stands with ⟨_, quoted⟩ | ⟨digits, _⟩
          · rw [quoted] at numeric
            exact absurd numeric (by decide)
          · exact ⟨digits, stands⟩
        exact .applied first second third leftValue rightValue folded fits

theorem reduces_of_reduce {window : List Token}
    (reduced : reduce program start window = .ok result) : Reduces program window result := by
  obtain ⟨found, read, elements, left, decided⟩ := reduce_eq_ok_of_elements.mp reduced
  obtain ⟨few, short⟩ := length_le_of_window left
  rw [length_of_single decided] at few short
  rcases read with _ | ⟨first, _ | ⟨second, _ | ⟨third, _ | ⟨fourth, others⟩⟩⟩⟩
  · obtain rfl := reduceSlots_nil.mp left
    cases decided
  · exact reduces_of_one first left decided
  · simp only [List.length_cons, List.length_nil] at short
    exact reduces_of_two first second left (by omega) decided
  · simp only [List.length_cons, List.length_nil] at short
    exact reduces_of_three first second third left (by omega) decided
  · simp only [List.length_cons] at short
    omega

theorem elements_of_operator (program : Program) {number operator : Token} {read : Variable}
    {name : ActionName} (first : number.IsNumber read) (second : operator.IsOperator name)
    (other? : Option Term) {value : Value} (fits : read.kind.accepts value = true)
    (ran : ∀ action ∈ Action.number, action.name = name →
      read.invoke action (other?.bind Term.literal?).toList = .ok value) :
    reduceSlots program none
        (slots none (⟨number, some read⟩ :: ⟨operator, none⟩ :: other?.toList)) =
      .ok [.value (.holding read.kind none value)] := by
  obtain ⟨action, member, spelled, named⟩ := occurrence_of_operator first second
  have result := ran action member named
  simp only [slots, occurrence?_front, spelled]
  cases other? with
  | none => exact reduceSlots_operator.mpr ⟨value, result, fits, [], rfl, rfl⟩
  | some other =>
      simp only [Option.toList_some, slots, occurrence?_front]
      exact reduceSlots_operator.mpr ⟨value, result, fits, [], reduceSlots_behind.mpr rfl, rfl⟩

theorem elements_of_kept (program : Program) {number operator : Token} {read : Variable}
    {name : ActionName} (first : number.IsNumber read) (second : operator.IsOperator name)
    (other? : Option Term) (unread : other?.bind Term.literal? = none) :
    reduceSlots program none
        (slots none (⟨number, some read⟩ :: ⟨operator, none⟩ :: other?.toList)) =
      .ok [.value read] := by
  have settled := Token.literal_settled first.2
  obtain ⟨value, kept, fits, _⟩ := settled.valued
  have left := elements_of_operator program first second other? fits fun action member _ => by
    rw [unread]
    exact (Variable.invoke_number_nil member).mpr kept
  rwa [settled.holding_eq (Token.literal_unnamed first.2) kept] at left

theorem reduce_of_reduces {window : List Token} (shape : Reduces program window result) :
    reduce program start window = .ok result := by
  have literal : ∀ {token read}, token.literal = .ok read → term token = .ok ⟨token, some read⟩ :=
    fun stands => term_eq_ok.mpr (.inr ⟨_, stands, rfl⟩)
  have name : ∀ {token : Token}, token.kind = .identifier → term token = .ok ⟨token, none⟩ :=
    fun named => term_eq_ok.mpr (.inl ⟨named, rfl⟩)
  refine reduce_eq_ok_of_elements.mpr ?_
  cases shape with
  | literal stands =>
      exact ⟨_, .cons (literal stands) .nil, _, reduceSlots_literal.mpr rfl, rfl⟩
  | name named declared =>
      refine ⟨_, .cons (name named) .nil, _, reduceSlots_name.mpr ⟨⟨_, declared⟩, rfl⟩, ?_⟩
      exact single_eq_ok.mpr (.inr ⟨_, rfl, declared⟩)
  | alone first second =>
      have left := elements_of_kept program first second none rfl
      exact ⟨_, .cons (literal first.2) (.cons (name second.1) .nil), _, left, rfl⟩
  | @beforeName _ _ dropped _ _ first second named =>
      have left := elements_of_kept program first second (some ⟨dropped, none⟩) rfl
      exact ⟨_, .cons (literal first.2) (.cons (name second.1) (.cons (name named) .nil)), _,
        left, rfl⟩
  | @applied _ _ other _ right _ _ _ _ first second third leftValue rightValue folded fits =>
      have numeric : right.kind ∈ Kind.numeric := by
        rcases Token.literal_kind third.2 with ⟨quoted, _⟩ | ⟨_, kind | kind⟩
        · rw [third.1] at quoted
          cases quoted
        · rw [kind]
          decide
        · rw [kind]
          decide
      have left := elements_of_operator program first second (some ⟨other, some right⟩) fits
        fun action member named => (Variable.invoke_number_singleton member).mpr
          ⟨numeric, _, leftValue, _, rightValue, by rw [named]; exact folded⟩
      exact ⟨_, .cons (literal first.2) (.cons (name second.1) (.cons (literal third.2) .nil)), _,
        left, rfl⟩

theorem reduce_eq_ok {window : List Token} :
    reduce program start window = .ok result ↔ Reduces program window result :=
  ⟨reduces_of_reduce, reduce_of_reduces⟩

theorem reduce_from {window : List Token} (reduced : reduce program start window = .ok result)
    (other : Position) : reduce program other window = .ok result :=
  reduce_of_reduces (reduces_of_reduce reduced)

/-! Literals have no action that could crash. -/

theorem reduceSlot_ne_crash {before after : Option Slot} {slot : Slot}
    (safe : ∀ action, slot.action? = some action → action.name ≠ .get) :
    reduceSlot program before slot after ≠ Outcome.crash := by
  rw [reduceSlot]
  split
  · rename_i action receiver operator literal
    refine Outcome.bind_ne_crash (Outcome.positioned_ne_crash ?_ _) fun _ _ =>
      Outcome.ok_ne_crash _
    refine Outcome.bind_ne_crash (Variable.invoke_ne_crash (safe action operator) _) fun _ _ => ?_
    exact Outcome.ofExcept_ne_crash _
  · split
    · exact Outcome.ok_ne_crash _
    · split
      · exact Outcome.ok_ne_crash _
      · refine Outcome.bind_ne_crash (Outcome.positioned_ne_crash ?_ _) fun _ _ =>
          Outcome.ok_ne_crash _
        exact Outcome.ofExcept_ne_crash _

theorem not_get_of_occurrence {before : Option Variable} {current : Term} {action : Action}
    (plain : ∀ receiver, before = some receiver →
      receiver.actions = [] ∨ receiver.actions = Action.number)
    (operator : occurrence? before current = some action) : action.name ≠ .get := by
  obtain ⟨_, receiver, literal, spelled⟩ := occurrence?_eq_some operator
  rcases plain receiver literal with none | numeric
  · rw [Variable.actionForSymbol?, none] at spelled
    cases spelled
  · exact Action.ne_get_of_arithmetic (Variable.arithmetic_of_symbol numeric spelled).2

/-- The invariant along the slots: the literal in front is a string or a number, if there is one. -/
theorem not_get_of_slots {window : List Token} {found : List Term}
    (read : List.Forall₂ (fun token current => term token = .ok current) window found)
    {before : Option Variable} (plain : ∀ receiver, before = some receiver →
      receiver.actions = [] ∨ receiver.actions = Action.number) :
    ∀ slot ∈ slots before found, ∀ action, slot.action? = some action → action.name ≠ .get := by
  induction read generalizing before with
  | nil => exact nofun
  | @cons token current tokens others first rest ih =>
      have next : ∀ receiver, current.literal? = some receiver →
          receiver.actions = [] ∨ receiver.actions = Action.number := by
        intro receiver literal
        rcases term_eq_ok.mp first with ⟨_, rfl⟩ | ⟨made, stands, rfl⟩
        · cases literal
        · cases literal
          exact (Token.literal_actions stands).imp And.right And.right
      intro slot member action operator
      rcases List.mem_cons.mp member with rfl | behind
      · exact not_get_of_occurrence plain operator
      · exact ih next slot behind action operator

theorem reduceSlots_ne_crash {written : List Slot} (before : Option Slot)
    (safe : ∀ slot ∈ written, ∀ action, slot.action? = some action → action.name ≠ .get) :
    reduceSlots program before written ≠ Outcome.crash := by
  induction written generalizing before with
  | nil => exact Outcome.ok_ne_crash _
  | cons slot others ih =>
      have here := safe slot List.mem_cons_self
      refine Outcome.bind_ne_crash (reduceSlot_ne_crash here) fun _ _ => ?_
      refine Outcome.bind_ne_crash (ih (some slot) ?_) fun _ _ => Outcome.ok_ne_crash _
      exact fun slot member => safe slot (List.mem_cons_of_mem _ member)

theorem reduce_ne_crash (program : Program) (start : Position) (window : List Token) :
    reduce program start window ≠ Outcome.crash := by
  refine Outcome.bind_ne_crash (Outcome.ofExcept_ne_crash _) fun found read => ?_
  have each := terms_eq_ok.mp (Outcome.ofExcept_eq_ok.mp read)
  refine Outcome.bind_ne_crash (reduceSlots_ne_crash none (not_get_of_slots each nofun)) fun _ _ => ?_
  exact Outcome.ofExcept_ne_crash _

/-- The windows of `Reduces` give their result whatever else the program holds; every other window,
one of four tokens or with two operators among them, is refused. -/
theorem reduce_decides_windows (program : Program) (start : Position) (window : List Token) :
    (∀ result, reduce program start window = .ok result ↔ Reduces program window result) ∧
      ((∀ result, ¬ Reduces program window result) →
        ∃ error, reduce program start window = Outcome.refuse error) ∧
      (4 ≤ window.length → ∃ error, reduce program start window = Outcome.refuse error) ∧
      ∀ i j, i < j → OperatorAt window i → OperatorAt window j →
        ∃ error, reduce program start window = Outcome.refuse error := by
  have refused : (∀ result, ¬ Reduces program window result) →
      ∃ error, reduce program start window = Outcome.refuse error := by
    intro none
    refine Outcome.refused_of_ne (reduce_ne_crash program start window) ?_
    intro result reduced
    exact none result (reduce_eq_ok.mp reduced)
  have long : 4 ≤ window.length →
      ∃ error, reduce program start window = Outcome.refuse error := by
    intro four
    refine refused fun result shape => ?_
    have short := shape.length_le
    omega
  refine ⟨fun result => reduce_eq_ok, refused, long, ?_⟩
  intro i j order first second
  exact long (four_le_length_of_operators order first second)

end LetLang.Reduction
