import LetLang.Parser.Session
import LetLang.Proofs.Parser.Loops
import LetLang.Proofs.Parser.Stop

/-!
A parser through any number of steps, of which each may fail. It goes on in the same tokens, with
the same handlers and nodes, and never back. What is asked for a single token stays in its place
when it fails, and a handler that succeeds is behind its segment. So the loop over the nodes finds
one in three tokens at most.
-/
namespace LetLang

namespace Parse

variable {α β : Type}

def Undone (step : Parse α) : Prop :=
  ∀ tokens failure rest, step tokens = .error failure rest → rest = tokens

theorem undone_current (scope : Scope) (expected : String) :
    Undone (current scope expected) := by
  intro tokens failure rest failed
  cases tokens with
  | nil =>
      cases failed
      rfl
  | cons token tokens => cases failed

theorem undone_advance (scope : Scope) (expected : String) :
    Undone (advance scope expected) := by
  intro tokens failure rest failed
  cases tokens with
  | nil =>
      cases failed
      rfl
  | cons token tokens => cases failed

theorem undone_expectOr (scope : Scope) (kind : TokenKind) (error? : Option Error) :
    Undone (expectOr scope kind error?) := by
  intro tokens failure rest failed
  cases tokens with
  | nil =>
      cases failed
      rfl
  | cons token tokens =>
      have stays : current scope kind.name (token :: tokens) = .ok token (token :: tokens) := rfl
      rw [expectOr, bind_of_ok stays] at failed
      split at failed
      · exact undone_advance scope kind.name _ _ _ failed
      · cases error? <;> (cases failed; rfl)

theorem Undone.map {step : Parse α} (undone : Undone step) (f : α → β) :
    Undone (step >>= fun value => pure (f value)) := by
  intro tokens failure rest failed
  rw [bind_eq] at failed
  cases reached : step tokens with
  | ok value middle =>
      rw [reached] at failed
      cases failed
  | error other middle =>
      rw [reached] at failed
      cases failed
      exact undone _ _ _ reached

end Parse

namespace Parser

def Step.Reads : Step → Prop
  | .register _ _ => False
  | _ => True

def Step.Single : Step → Prop
  | .current _ | .advance _ | .expect _ _ => True
  | _ => False

def handler? (parser : Parser) : Step → Option Handler
  | .run handler => some handler
  | .dispatch =>
    (parser.tokens[parser.cursor]?.map Token.kind).bind (Handlers.find? parser.handlers)
  | _ => none

def after (parser : Parser) (steps : List Step) : Parser :=
  steps.foldl (fun parser step => (parser.step step).2) parser

/-- A parser that has gone on: all that it has taken are tokens off the front. -/
structure Onward (parser next : Parser) : Prop where
  tokens : next.tokens = parser.tokens
  handlers : next.handlers = parser.handlers
  scope : next.scope = parser.scope
  rest : next.rest <:+ parser.rest

structure Forward (parser : Parser) (step : Step) : Prop where
  onward : parser.cursor ≤ (parser.step step).2.cursor
  within : (parser.step step).2.cursor ≤ parser.tokens.length
  undone : step.Single → ∀ failure, (parser.step step).1 = .error failure →
    (parser.step step).2.cursor = parser.cursor
  stops : ∀ handler answer, parser.handler? step = some handler →
    (parser.step step).1 = .ok answer →
    handler.StopsAt parser.tokens parser.cursor (parser.step step).2.cursor ∧
      parser.cursor + 3 ≤ (parser.step step).2.cursor

variable {parser next : Parser} {step : Step} {handlers : Handlers} {scope : Scope}

/-! One step. -/

theorem advances_dispatch (handlers : Handlers) (scope : Scope) :
    Parse.Advances (dispatch handlers scope) := by
  refine Parse.advances_bind (fun _ => List.suffix_rfl) fun kind? => ?_
  split
  · exact Parse.advances_bind (Parse.moves_handler _ _).1 fun _ => Parse.advances_pure _
  · exact Parse.advances_pure _

theorem advances_parse (handlers : Handlers) (scope : Scope) (step : Step) :
    Parse.Advances (parse handlers scope step) := by
  cases step with
  | current expected =>
      exact Parse.advances_bind (Parse.advances_current _ _) fun _ => Parse.advances_pure _
  | kind => exact fun _ => List.suffix_rfl
  | peek ahead => exact fun _ => List.suffix_rfl
  | advance expected =>
      exact Parse.advances_bind (Parse.advances_advance _ _) fun _ => Parse.advances_pure _
  | expect kind error? =>
      exact Parse.advances_bind (Parse.advances_expectOr _ _ _) fun _ => Parse.advances_pure _
  | hasTokens => exact fun _ => List.suffix_rfl
  | position =>
      exact Parse.advances_bind (Parse.advances_position _) fun _ => Parse.advances_pure _
  | unique name position =>
      exact Parse.advances_bind (Parse.advances_checkUnique _ _ _) fun _ => Parse.advances_pure _
  | register kind handler => exact Parse.advances_pure _
  | dispatch =>
      exact Parse.advances_bind (advances_dispatch _ _) fun _ => Parse.advances_pure _
  | run handler =>
      exact Parse.advances_bind (Parse.moves_handler _ _).1 fun _ => Parse.advances_pure _
  | program => exact Parse.advances_pure _

theorem undone_parse (single : step.Single) : Parse.Undone (parse handlers scope step) := by
  cases step with
  | current expected => exact (Parse.undone_current _ _).map _
  | advance expected => exact (Parse.undone_advance _ _).map _
  | expect kind error? => exact (Parse.undone_expectOr _ _ _).map _
  | _ => exact single.elim

theorem step_eq (reads : step.Reads) :
    parser.step step = parser.run (parse parser.handlers parser.scope step) := by
  cases step with
  | register kind handler => exact reads.elim
  | _ => rfl

theorem run_eq {α : Type} (parser : Parser) (step : Parse α) :
    (parser.run step).2 = { parser with rest := Parse.left (step parser.rest) } := by
  rw [run]
  cases step parser.rest <;> rfl

theorem run_eq_ok {α : Type} {step : Parse α} {value : α}
    (read : (parser.run step).1 = .ok value) :
    ∃ rest, step parser.rest = .ok value rest ∧ (parser.run step).2 = { parser with rest } := by
  rw [run] at read ⊢
  cases reached : step parser.rest with
  | ok found rest =>
      rw [reached] at read
      cases read
      exact ⟨rest, rfl, rfl⟩
  | error failure rest =>
      rw [reached] at read
      cases read

theorem Onward.refl (parser : Parser) : Onward parser parser := ⟨rfl, rfl, rfl, List.suffix_rfl⟩

theorem Onward.trans {last : Parser} (first : Onward parser next) (second : Onward next last) :
    Onward parser last where
  tokens := second.tokens.trans first.tokens
  handlers := second.handlers.trans first.handlers
  scope := second.scope.trans first.scope
  rest := second.rest.trans first.rest

theorem onward_step (reads : step.Reads) : Onward parser (parser.step step).2 := by
  rw [step_eq reads, run_eq]
  exact ⟨rfl, rfl, rfl, advances_parse _ _ step parser.rest⟩

theorem onward_after {steps : List Step} (reads : ∀ step ∈ steps, step.Reads) (parser : Parser) :
    Onward parser (parser.after steps) := by
  induction steps generalizing parser with
  | nil => exact .refl parser
  | cons step steps ih =>
      rw [List.forall_mem_cons] at reads
      exact (onward_step reads.1).trans (ih reads.2 _)

/-! The cursor is how many tokens stand in front of what is left. -/

theorem cursor_append {taken : List Token} (whole : parser.tokens = taken ++ parser.rest) :
    parser.cursor = taken.length := by
  rw [cursor, whole, List.length_append, Nat.add_sub_cancel]

theorem Onward.cursor_le (onward : Onward parser next) :
    parser.cursor ≤ next.cursor ∧ next.cursor ≤ parser.tokens.length := by
  have fewer := onward.rest.length_le
  rw [cursor, cursor, onward.tokens]
  omega

theorem cursor_of_fails (single : step.Single) {failure : Failure Error}
    (failed : (parser.step step).1 = .error failure) :
    (parser.step step).2.cursor = parser.cursor := by
  have reads : step.Reads := by
    cases step with
    | register kind handler => exact single.elim
    | _ => trivial
  rw [step_eq reads, run] at failed ⊢
  cases reached : parse parser.handlers parser.scope step parser.rest with
  | ok answer rest =>
      rw [reached] at failed
      cases failed
  | error other rest =>
      rw [undone_parse single _ _ _ reached]

theorem dispatch_of_find? {handler : Handler} {tokens : List Token}
    (known : (tokens[0]?.map Token.kind).bind (Handlers.find? handlers) = some handler) :
    dispatch handlers scope tokens =
      (handler.parse scope >>= fun node => pure (some node)) tokens := by
  have next : Parse.kind? tokens = .ok (tokens[0]?.map Token.kind) tokens := rfl
  rw [dispatch, Parse.bind_of_ok next, known]

theorem read_of_step {handler : Handler} {answer : Answer}
    (whole : parser.rest <:+ parser.tokens) (known : parser.handler? step = some handler)
    (read : (parser.step step).1 = .ok answer) :
    ∃ node rest, handler.parse parser.scope parser.rest = .ok node rest ∧
      (parser.step step).2 = { parser with rest } := by
  cases step with
  | run other =>
      cases known
      rcases run_eq_ok read with ⟨rest, parsed, moved⟩
      rcases Parse.bind_eq_ok.mp parsed with ⟨node, _, reached, done⟩
      cases done
      exact ⟨node, rest, reached, moved⟩
  | dispatch =>
      rcases whole with ⟨taken, whole⟩
      have here : parser.tokens[parser.cursor]? = parser.rest[0]? := by
        rw [cursor_append whole.symm, ← whole, List.getElem?_append_right (Nat.le_refl _),
          Nat.sub_self]
      rw [handler?, here] at known
      rcases run_eq_ok read with ⟨rest, parsed, moved⟩
      rcases Parse.bind_eq_ok.mp parsed with ⟨node?, last, dispatched, done⟩
      cases done
      rw [dispatch_of_find? known] at dispatched
      rcases Parse.bind_eq_ok.mp dispatched with ⟨node, _, reached, done⟩
      cases done
      exact ⟨node, rest, reached, moved⟩
  | _ => cases known

theorem stops_of_read {handler : Handler} {answer : Answer}
    (whole : parser.rest <:+ parser.tokens) (known : parser.handler? step = some handler)
    (read : (parser.step step).1 = .ok answer) :
    handler.StopsAt parser.tokens parser.cursor (parser.step step).2.cursor ∧
      parser.cursor + 3 ≤ (parser.step step).2.cursor := by
  rcases read_of_step whole known read with ⟨node, rest, reached, moved⟩
  rcases whole with ⟨taken, whole⟩
  rcases @Handler.stopsAt taken _ _ _ _ handler reached with ⟨segment, split, three, stops⟩
  have start : parser.cursor = taken.length := cursor_append whole.symm
  have stop : (parser.step step).2.cursor = taken.length + segment.length := by
    rw [moved, ← List.length_append]
    apply cursor_append
    rw [List.append_assoc, ← split]
    exact whole.symm
  rw [start, stop, ← whole]
  exact ⟨stops, Nat.add_le_add_left three _⟩

theorem forward_step (whole : parser.rest <:+ parser.tokens) (reads : step.Reads) :
    Forward parser step where
  onward := (onward_step reads).cursor_le.1
  within := (onward_step reads).cursor_le.2
  undone := fun single _ => cursor_of_fails single
  stops := fun _ _ => stops_of_read whole

end Parser

namespace Program

variable {finish : Position} {state next : Program × List Token}

/-! The loop over the nodes: three tokens at least for each. -/

theorem nodeTurn_cases {turned : Turn (Program × List Token) Program}
    (turns : nodeTurn finish state = .ok turned) :
    (state = (state.1, []) ∧ turned = .done state.1) ∨
      ∃ (handler : Handler) (node : Node) (rest : List Token),
        handler.parse ⟨state.1, finish⟩ state.2 = .ok node rest ∧
          turned = .more (state.1.push node, rest) := by
  rcases state with ⟨program, tokens⟩
  cases tokens with
  | nil =>
      cases turns
      exact .inl ⟨rfl, rfl⟩
  | cons token tokens =>
      rw [nodeTurn] at turns
      cases known : Handlers.find? .standard token.kind with
      | none =>
          rw [known] at turns
          cases turns
      | some handler =>
          rw [known] at turns
          dsimp only at turns
          cases read : handler.parse ⟨program, finish⟩ (token :: tokens) with
          | error failure left =>
              rw [read] at turns
              cases turns
          | ok node rest =>
              rw [read] at turns
              cases turns
              exact .inr ⟨handler, node, rest, read, rfl⟩

theorem nodeTurn_more (goes : nodeTurn finish state = .ok (.more next)) :
    ∃ segment node, state.2 = segment ++ next.2 ∧ 3 ≤ segment.length ∧
      next.1 = state.1.push node := by
  rcases nodeTurn_cases goes with ⟨_, stops⟩ | ⟨handler, node, rest, read, more⟩
  · cases stops
  · cases more
    rcases @Handler.stopsAt [] _ _ _ _ handler read with ⟨segment, split, three, _⟩
    exact ⟨segment, node, split, three, rfl⟩

theorem nodeTurn_done {program : Program} (stops : nodeTurn finish state = .ok (.done program)) :
    state = (program, []) := by
  rcases nodeTurn_cases stops with ⟨whole, done⟩ | ⟨_, _, _, _, more⟩
  · cases done
    exact whole
  · cases more

theorem nodes_of_reaches {program : Program} {tokens : List Token}
    (reaches : Loop.Reaches (nodeTurn finish) (program, tokens) state) :
    state.2 <:+ tokens ∧
      3 * state.1.body.length + state.2.length ≤ 3 * program.body.length + tokens.length := by
  induction reaches with
  | refl => exact ⟨List.suffix_rfl, Nat.le_refl _⟩
  | @tail middle next reached goes ih =>
      rcases ih with ⟨suffix, bound⟩
      rcases nodeTurn_more goes with ⟨segment, node, split, three, pushed⟩
      have length := congrArg List.length split
      rw [List.length_append] at length
      constructor
      · exact (split ▸ List.suffix_append segment next.2).trans suffix
      · rw [pushed, push, List.length_append, List.length_singleton]
        omega

end Program

namespace Parser

/-- A parser of tokens behind steps that read, and what one more of them does. The program of the
tokens is what the loop over its nodes ends with, and has one node at most for three tokens. -/
theorem reads_forward (tokens : List Token) (handlers : Handlers) (scope : Scope)
    (source file : String) :
    (∀ steps : List Step, (∀ step ∈ steps, step.Reads) →
      let parser := after ⟨tokens, tokens, handlers, scope⟩ steps
      parser.tokens = tokens ∧ parser.handlers = handlers ∧ parser.scope = scope ∧
        parser.cursor ≤ tokens.length ∧ ∀ step : Step, step.Reads → Forward parser step) ∧
    (let turn := Program.nodeTurn (Program.finishOf source file);
      Loop.Ends turn (.empty, tokens) (Program.ofTokens tokens source file) ∧
        (∀ program rest, Loop.Reaches turn (.empty, tokens) (program, rest) →
          rest <:+ tokens ∧ 3 * program.body.length + rest.length ≤ tokens.length) ∧
        ∀ program, Program.ofTokens tokens source file = .ok program →
          3 * program.body.length ≤ tokens.length) := by
  have none : Program.empty.body.length = 0 := rfl
  have ends := Program.ends_ofTokensFrom (Program.finishOf source file) .empty tokens
  have counts : ∀ program rest, Loop.Reaches (Program.nodeTurn (Program.finishOf source file))
      (.empty, tokens) (program, rest) →
      rest <:+ tokens ∧ 3 * program.body.length + rest.length ≤ tokens.length := by
    intro program rest reaches
    have bounds := Program.nodes_of_reaches reaches
    rwa [none, Nat.mul_zero, Nat.zero_add] at bounds
  refine ⟨?_, ends, counts, ?_⟩
  · intro steps reads
    have onward := onward_after reads ⟨tokens, tokens, handlers, scope⟩
    have whole : (after ⟨tokens, tokens, handlers, scope⟩ steps).rest <:+
        (after ⟨tokens, tokens, handlers, scope⟩ steps).tokens := onward.tokens ▸ onward.rest
    refine ⟨onward.tokens, onward.handlers, onward.scope, onward.cursor_le.2, ?_⟩
    exact fun step => forward_step whole
  · intro program made
    rw [Program.ofTokens] at made
    rw [made] at ends
    rcases ends.exists_last with ⟨last, reaches, stops⟩
    rw [Program.nodeTurn_done stops] at reaches
    exact (counts program [] reaches).2

/-- A declaration that fails keeps what it has taken, with the token that made it fail. -/
example (span : Span) :
    (after (new ([(.letKeyword, "let"), (.identifier, "x"), (.assignment, "="), (.comma, ","),
      (.semicolon, ";")].map fun (kind, value) => ⟨kind, value, span⟩) "" "a")
      [.run .declaration]).cursor = 4 := rfl

end Parser
end LetLang
