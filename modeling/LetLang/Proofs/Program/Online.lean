import LetLang.Proofs.Online.Parser
import LetLang.Proofs.Online.Segment
import LetLang.Proofs.Placement.Program

/-!
Programs are read online: what has been read of a program stays whatever tokens come, and so does an
error that is not for want of tokens.
-/
namespace LetLang.Program

open Grammar (Calls Extends Segment extends_nil)

def dropSemicolon (tokens : List Token) : List Token :=
  match tokens with
  | token :: rest => if token.kind = .semicolon then rest else token :: rest
  | [] => []

def endsInCall (program : Program) : Bool :=
  match program.body.getLast? with
  | some (.call _) => true
  | _ => false

/-- What is left of the tokens behind those of a program. A call at its end takes the semicolon that
comes next, if it has none. -/
def leaves (program : Program) (tokens more : List Token) : List Token :=
  if program.endsInCall = true ∧ Token.lastKind? tokens ≠ some .semicolon then dropSemicolon more
  else more

variable {program final : Program} {finish other : Position} {node : Node} {error : Error}
variable {segment rest tokens first second more : List Token}

theorem endsInCall_push_call (made : Call) :
    (program.push (.call made)).endsInCall = true := by
  simp [endsInCall, push]

theorem leaves_of_marked (marked : Token.lastKind? tokens = some .semicolon) :
    program.leaves tokens more = more := by
  simp [leaves, marked]

theorem leaves_of_unmarked (unmarked : more.head?.map Token.kind ≠ some .semicolon) :
    program.leaves tokens more = more := by
  have kept : dropSemicolon more = more := by
    cases more with
    | nil => rfl
    | cons token rest => exact if_neg fun mark => unmarked (congrArg some mark)
  rw [leaves, kept, ite_self]

theorem mem_of_mem_leaves {token : Token} (member : token ∈ program.leaves tokens more) :
    token ∈ more := by
  rw [leaves] at member
  split at member
  · unfold dropSemicolon at member
    split at member
    · split at member
      · exact List.mem_cons_of_mem _ member
      · exact member
    · exact member
  · exact member

theorem ofTokensFrom_segment (first : Segment program rest segment node) :
    ofTokensFrom finish program (segment ++ rest) =
      ofTokensFrom finish (program.push node) rest := by
  cases whole : segment ++ rest with
  | nil =>
      have none : segment = [] := (List.append_eq_nil_iff.mp whole).1
      rcases first with declares | calls
      · rcases declares.head with ⟨_, _, some, _⟩
        rw [none] at some
        cases some
      · rcases calls.head with ⟨_, _, some, _⟩
        rw [none] at some
        cases some
  | cons token tokens =>
      rcases (@Handler.standard_eq_ok ⟨program, finish⟩ _ _ _ _).mpr
        ⟨segment, whole.symm, first⟩ with ⟨handler, known, read⟩
      rw [ofTokensFrom_cons token known, read]

theorem ofTokensFrom_last (last : Segment program [] segment node) (second : List Token) :
    ofTokensFrom finish program (segment ++ second) =
      ofTokensFrom finish (program.push node) ((program.push node).leaves segment second) := by
  by_cases marked : Token.lastKind? segment = some .semicolon
  · rw [leaves_of_marked marked]
    exact ofTokensFrom_segment (last.before fun _ => .inr marked)
  · rcases last with declares | calls
    · exact absurd declares.lastKind? marked
    · have open' : ∃ made, node = .call made := by
        cases calls
        exact ⟨_, rfl⟩
      rcases open' with ⟨made, rfl⟩
      rw [leaves, if_pos ⟨endsInCall_push_call made, marked⟩]
      rcases second with _ | ⟨mark, others⟩
      · exact ofTokensFrom_segment (.inr calls)
      · rw [dropSemicolon]
        by_cases same : mark.kind = .semicolon
        · rw [if_pos same, ← ofTokensFrom_segment (.inr (calls.mark marked same others)),
            List.append_assoc]
          rfl
        · rw [if_neg same]
          refine ofTokensFrom_segment (.inr (calls.before fun next => ?_))
          exact absurd (Option.some.inj next) same

theorem ofTokensFrom_append (reads : Extends program first final)
    (begun : first ≠ [] ∨ program = .empty) (second : List Token) :
    ofTokensFrom finish program (first ++ second) =
      ofTokensFrom finish final (final.leaves first second) := by
  induction reads with
  | done =>
      have empty := begun.resolve_left fun some => some rfl
      rw [empty]
      rfl
  | @node program final segment rest node first others ih =>
      -- Only the last segment looks at the tokens that are new behind it.
      by_cases none : rest = []
      · rw [none] at first others ⊢
        rw [extends_nil.mp others, List.append_nil]
        exact ofTokensFrom_last first second
      · have behind : Token.lastKind? (segment ++ rest) = Token.lastKind? rest := by
          rw [Token.lastKind?, List.getLast?_append_of_ne_nil _ none, Token.lastKind?]
        rw [List.append_assoc, ofTokensFrom_segment (first.append none second),
          ih (.inl none), leaves, leaves, behind]

theorem prefix_of_extends (reads : Extends program tokens final) :
    program.body <+: final.body := by
  induction reads with
  | done => exact List.prefix_rfl
  | node first others ih => exact (List.prefix_append _ _).trans ih

/-- A name at the end of the tokens, where a program is read but no call yet, and a parenthesis that
comes next. -/
def Reopens (program : Program) (tokens more : List Token) (error : Error) : Prop :=
  ∃ front token final, tokens = front ++ [token] ∧ Extends program front final ∧
    token.kind = .identifier ∧ error = ⟨.unexpectedToken token.value, token.start⟩ ∧
    more.head?.map Token.kind = some .openParen

theorem Reopens.behind (reopens : (program.push node).Reopens rest more error)
    (first : Segment program rest segment node) : program.Reopens (segment ++ rest) more error := by
  rcases reopens with ⟨front, token, final, rfl, reads, name, same, opens⟩
  refine ⟨segment ++ front, token, final, by simp, ?_, name, same, opens⟩
  exact .node first.of_append reads

theorem kind_of_find?_call {kind : TokenKind}
    (known : Handlers.find? .standard kind = some .call) : kind = .identifier := by
  cases kind with
  | identifier => rfl
  | _ => cases known

/-- The handler that fails: it fails alike, or it is a call that has only its name so far. -/
theorem refused_of_handler {handler : Handler} {token : Token} {left : List Token}
    (known : Handlers.find? .standard token.kind = some handler)
    (failed : handler.parse ⟨program, finish⟩ (token :: tokens) = .error (.refused error) left)
    (inside : ¬error.cause.IsEnd) (more : List Token) :
    ofTokensFrom other program (token :: tokens ++ more) = Outcome.refuse error ∨
      program.Reopens (token :: tokens) more error := by
  have kept : ∀ {behind},
      handler.parse ⟨program, other⟩ (token :: tokens ++ more) = .error (.refused error) behind →
        ofTokensFrom other program (token :: tokens ++ more) = Outcome.refuse error := by
    intro behind again
    rw [List.cons_append] at again ⊢
    rw [ofTokensFrom_cons token known, again]
    rfl
  have present : ¬∃ missing, Failure.refused error = .refused missing ∧ missing.cause.IsEnd := by
    rintro ⟨missing, same, missed⟩
    cases same
    exact inside missed
  cases handler with
  | declaration =>
      rcases Declaration.online_parse.firm failed with missed | ⟨behind, again⟩
      · exact absurd missed present
      · exact .inl (kept again)
  | call =>
      rcases Call.firm_parse failed with missed | ⟨behind, again⟩ | ⟨name, alone, same, opens⟩
      · exact absurd missed present
      · exact .inl (kept again)
      · cases alone
        cases same
        exact .inr ⟨[], token, program, rfl, .done, kind_of_find?_call known, rfl, opens⟩

theorem ofTokensFrom_refused (refused : ofTokensFrom finish program tokens = Outcome.refuse error)
    (inside : ¬error.cause.IsEnd) (more : List Token) :
    ofTokensFrom other program (tokens ++ more) = Outcome.refuse error ∨
      program.Reopens tokens more error := by
  induction count : tokens.length using Nat.strongRecOn generalizing program tokens with
  | ind count ih =>
      cases tokens with
      | nil =>
          rw [ofTokensFrom] at refused
          cases refused
      | cons token tokens =>
          cases known : Handlers.find? .standard token.kind with
          | none =>
              rw [ofTokensFrom, known] at refused
              rw [List.cons_append, ofTokensFrom, known]
              exact .inl refused
          | some handler =>
              rw [ofTokensFrom_cons token known] at refused
              cases read : handler.parse ⟨program, finish⟩ (token :: tokens) with
              | ok node rest =>
                  rw [read] at refused
                  dsimp only at refused
                  have shorter := Parse.takes_handler handler ⟨program, finish⟩ read
                  rcases Handler.standard_eq_ok.mp ⟨handler, known, read⟩ with
                    ⟨segment, whole, first⟩
                  have some : rest ≠ [] := by
                    rintro rfl
                    rw [ofTokensFrom] at refused
                    cases refused
                  rw [whole]
                  -- What is read before the error is read again, since it is not all there is.
                  rcases ih _ (count ▸ shorter) refused rfl with again | reopens
                  · left
                    rw [List.append_assoc, ofTokensFrom_segment (first.append some more), again]
                  · exact .inr (reopens.behind first)
              | error failure left =>
                  rw [read] at refused
                  cases refused
                  exact refused_of_handler known read inside more

/-- Tokens behind those of a program go on with it, wherever the sources end: the nodes stay, and an
error stands at one of the tokens behind or at the end. Tokens behind an error that is not for want
of tokens change nothing, except that a parenthesis behind a name at their end opens a call. -/
theorem ofTokens_append (first second : List Token) (source file longer other : String) :
    (∀ program, ofTokens first source file = .ok program →
      ofTokens (first ++ second) longer other =
          ofTokensFrom (finishOf longer other) program (program.leaves first second) ∧
        (∀ final, ofTokens (first ++ second) longer other = .ok final →
          program.body <+: final.body) ∧
        ∀ failure, ofTokens (first ++ second) longer other = .error failure →
          ∃ error, failure = .refused error ∧
            (error.position = finishOf longer other ∨
              ∃ token ∈ second, token.start = error.position)) ∧
    ∀ error, ofTokens first source file = Outcome.refuse error → ¬error.cause.IsEnd →
      ofTokens (first ++ second) longer other = Outcome.refuse error ∨
        ∃ front token program, first = front ++ [token] ∧ token.kind = .identifier ∧
          error = ⟨.unexpectedToken token.value, token.start⟩ ∧
          ofTokens front source file = .ok program ∧
          second.head?.map Token.kind = some .openParen := by
  constructor
  · intro program read
    have goesOn : ofTokens (first ++ second) longer other =
        ofTokensFrom (finishOf longer other) program (program.leaves first second) :=
      ofTokensFrom_append (ofTokensFrom_eq_ok.mp read) (.inr rfl) second
    refine ⟨goesOn, fun final made => ?_, fun failure failed => ?_⟩
    · rw [goesOn] at made
      exact prefix_of_extends (ofTokensFrom_eq_ok.mp made)
    · rw [goesOn] at failed
      rcases ofTokensFrom_stops (finishOf longer other) program (program.leaves first second) with
        ⟨final, made⟩ | ⟨error, refused, place⟩
      · rw [made] at failed
        cases failed
      · rw [refused] at failed
        cases failed
        refine ⟨error, rfl, ?_⟩
        rcases place with ⟨_, finish⟩ | ⟨_, token, member, start⟩
        · exact .inl finish
        · exact .inr ⟨token, mem_of_mem_leaves member, start⟩
  · intro error refused inside
    have again := @ofTokensFrom_refused .empty _ (finishOf longer other) _ _ refused inside second
    rcases again with again | ⟨front, token, program, whole, reads, name, same, opens⟩
    · exact .inl again
    · exact .inr ⟨front, token, program, whole, name, same, ofTokensFrom_eq_ok.mpr reads, opens⟩

end LetLang.Program
