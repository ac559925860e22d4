import LetLang.Proofs.Parser.Steps
import LetLang.Proofs.Program.Reference
import LetLang.Proofs.Token.Literal

/-! A call is read exactly where its segment stands. -/
namespace LetLang.Call

open Grammar (Arguments Calls Passes)

variable {scope : Scope} {token : Token} {tokens rest : List Token}
variable {argument : Argument} {arguments : List Argument}

theorem takeArgument_eq_ok :
    isArgument token = true ∧ takeArgument scope token = .ok argument ↔
      Passes scope.program token argument := by
  constructor
  · intro taken
    rcases taken with ⟨_, taken⟩
    by_cases named : token.kind = .identifier
    · rw [takeArgument, if_pos named] at taken
      cases made : Reference.new token.value scope.program with
      | error cause => simp [made] at taken
      | ok target =>
          rcases Reference.new_eq_ok.mp made with ⟨⟨declared, found⟩, rfl⟩
          simp only [made, Except.ok.injEq] at taken
          rw [← taken]
          exact .reference named found
    · rw [takeArgument, if_neg named, except_map_eq_ok] at taken
      rcases taken with ⟨read, stands, rfl⟩
      exact .literal stands
  · intro passes
    cases passes with
    | reference named found =>
        have made := Reference.new_eq_ok.mpr ⟨⟨_, found⟩, rfl⟩
        simp [isArgument, takeArgument, named, made]
    | literal stands =>
        constructor
        · rcases Token.literal_kind stands with ⟨quoted, _⟩ | ⟨digits, _⟩
          · simp [isArgument, quoted]
          · simp [isArgument, digits]
        · have unnamed := Token.literal_ne_identifier stands
          rw [takeArgument, if_neg unnamed, except_map_eq_ok]
          exact ⟨_, stands, rfl⟩

/-- What one token can do among the arguments: separate, close, or be one. -/
theorem takeArguments_cons {behind : Bool}
    (taken : takeArguments scope behind (token :: tokens) = .ok arguments rest) :
    behind = true ∧ token.kind = .comma ∧ takeArguments scope false tokens = .ok arguments rest ∨
      token.kind = .closeParen ∧ arguments = [] ∧ rest = tokens ∨
      ∃ first others, Passes scope.program token first ∧
        takeArguments scope true tokens = .ok others rest ∧ arguments = first :: others := by
  rw [takeArguments] at taken
  split at taken
  · rename_i separates
    simp only [Bool.and_eq_true, decide_eq_true_eq] at separates
    exact .inl ⟨separates.1, separates.2, taken⟩
  · split at taken
    · rename_i closes
      cases taken
      exact .inr (.inl ⟨closes, rfl, rfl⟩)
    · split at taken
      · rename_i stands
        cases made : takeArgument scope token with
        | error error => simp [made] at taken
        | ok first =>
            cases reached : takeArguments scope true tokens with
            | error failure left => simp [made, reached] at taken
            | ok others left =>
                simp only [made, reached] at taken
                cases taken
                have passes := takeArgument_eq_ok.mp ⟨stands, made⟩
                exact .inr (.inr ⟨first, others, passes, rfl, rfl⟩)
      · cases taken

theorem takeArguments_split {behind : Bool}
    (taken : takeArguments scope behind tokens = .ok arguments rest) :
    ∃ comma inside closing, tokens = comma ++ (inside ++ closing :: rest) ∧
      Grammar.Optional .comma comma ∧ (behind = false → comma = []) ∧
      Arguments scope.program inside arguments ∧ closing.kind = .closeParen := by
  induction tokens generalizing behind arguments with
  | nil => cases taken
  | cons token others ih =>
      rcases takeArguments_cons taken with ⟨before, separates, reached⟩ | ⟨closes, rfl, rfl⟩ |
        ⟨first, following, passes, reached, rfl⟩
      · rcases ih reached with ⟨comma, inside, closing, whole, _, none, passed, closes⟩
        rw [none rfl] at whole
        refine ⟨[token], inside, closing, by rw [whole]; rfl, .present separates, ?_, passed,
          closes⟩
        intro front
        rw [before] at front
        cases front
      · exact ⟨[], [], token, rfl, .absent, fun _ => rfl, .nil, closes⟩
      · rcases ih reached with ⟨comma, inside, closing, whole, separated, _, passed, closes⟩
        refine ⟨[], token :: (comma ++ inside), closing, by simp [whole], .absent, fun _ => rfl,
          ?_, closes⟩
        exact .cons passes separated passed

theorem takeArguments_append {inside : List Token} {closing : Token} (behind : Bool)
    (passed : Arguments scope.program inside arguments) (closes : closing.kind = .closeParen) :
    takeArguments scope behind (inside ++ closing :: rest) = .ok arguments rest := by
  induction passed generalizing behind with
  | nil => simp [takeArguments, closes]
  | @cons token comma tokens argument arguments first separated others ih =>
      have taken := takeArgument_eq_ok.mpr first
      have other : token.kind ≠ .comma ∧ token.kind ≠ .closeParen := by
        have stands := taken.1
        rw [isArgument] at stands
        constructor <;> (intro kind; simp [kind] at stands)
      have following : takeArguments scope true (comma ++ (tokens ++ closing :: rest)) =
          .ok arguments rest := by
        cases separated with
        | absent => exact ih true
        | present same =>
            rw [List.singleton_append, takeArguments, if_pos (by simp [same])]
            exact ih false
      rw [List.cons_append, List.append_assoc, takeArguments]
      simp [other, taken, following]

theorem takeArguments_eq_ok :
    takeArguments scope false tokens = .ok arguments rest ↔
      ∃ inside closing, tokens = inside ++ closing :: rest ∧
        Arguments scope.program inside arguments ∧ closing.kind = .closeParen := by
  constructor
  · intro taken
    rcases takeArguments_split taken with ⟨comma, inside, closing, whole, _, none, passed⟩
    rw [none rfl, List.nil_append] at whole
    exact ⟨inside, closing, whole, passed⟩
  · intro split
    rcases split with ⟨inside, closing, whole, passed, closes⟩
    rw [whole]
    exact takeArguments_append false passed closes

/-- The chain of steps sees `takeArguments` as the function that it is, not as a step. -/
theorem bind_takeArguments_eq_ok {α : Type} {next : List Argument → Parse α} {result : α} :
    ((takeArguments scope false : Parse (List Argument)) >>= next) tokens = .ok result rest ↔
      ∃ arguments middle, takeArguments scope false tokens = .ok arguments middle ∧
        next arguments middle = .ok result rest :=
  Parse.bind_eq_ok

theorem setName_new {name : String} {made : Call} :
    (new arguments).setName name = .ok made ↔ made = ⟨some name, arguments⟩ := by
  simp [new, setName, eq_comm]

theorem unopened_eq_ok {α : Type} {step : Parse α} {opened : Prop} [Decidable opened] {result : α} :
    (if ¬opened then do
        let token ← Parse.current scope "call"
        Parse.refuse (.unexpectedToken token.value) token.start
      else step) tokens = .ok result rest ↔ opened ∧ step tokens = .ok result rest := by
  by_cases second : opened
  · simp [second]
  · simp only [second, not_false_eq_true, if_true, false_and, iff_false]
    intro read
    cases tokens <;> cases read

variable {node : Node}

theorem parse_eq_ok :
    parse scope tokens = .ok node rest ↔
      ∃ segment, tokens = segment ++ rest ∧ Calls scope.program rest segment node := by
  simp only [parse, Parse.bind_eq_ok, Parse.expect_eq_ok, Parse.peek_eq_ok, Parse.lift_eq_ok,
    Parse.checkUnique_eq_ok, Parse.skip_eq_ok, Parse.pure_eq_ok, bind_takeArguments_eq_ok,
    takeArguments_eq_ok, Outcome.positioned_eq_ok, Outcome.ofExcept_eq_ok, setName_new,
    ne_eq, unopened_eq_ok]
  constructor
  · intro read
    rcases read with ⟨_, _, ⟨rfl, rfl⟩, _, name, _, ⟨rfl, named⟩, opening, _, ⟨rfl, opens⟩,
      arguments, _, ⟨inside, closing, rfl, passed, closes⟩, _, _, ⟨fresh, rfl⟩, _, _,
      ⟨mark, rfl, ends, whenever⟩, _, _, ⟨rfl, rfl⟩, rfl, rfl⟩
    refine ⟨name :: opening :: (inside ++ closing :: mark), by simp, ?_⟩
    exact .intro named opens passed closes ends whenever fresh
  · intro split
    rcases split with ⟨segment, rfl, calls⟩
    cases calls with
    | @intro name opening closing inside mark arguments named opens passed closes ends whenever
        fresh =>
        refine ⟨_, _, ⟨rfl, rfl⟩, by simp [opens], name, _, ⟨rfl, named⟩, opening, _,
          ⟨rfl, opens⟩, arguments, mark ++ rest, ⟨inside, closing, by simp, passed, closes⟩, (), _,
          ⟨fresh, rfl⟩, (), rest, ⟨mark, rfl, ends, whenever⟩, _, _, ⟨rfl, rfl⟩, rfl, rfl⟩

end LetLang.Call
