import LetLang.Program.OfTokens
import LetLang.Proofs.Grammar.Call
import LetLang.Proofs.Grammar.Declaration

/-! Programs are read exactly where the grammar has them. -/
namespace LetLang

namespace Grammar

variable {program final : Program} {segment rest : List Token} {node : Node}

theorem Declares.head (declares : Declares program segment node) :
    ∃ token tokens, segment = token :: tokens ∧ token.kind = .letKeyword := by
  cases declares with
  | intro first => exact ⟨_, _, rfl, first⟩

theorem Calls.head (calls : Calls program rest segment node) :
    ∃ token tokens, segment = token :: tokens ∧ token.kind = .identifier := by
  cases calls with
  | intro named => exact ⟨_, _, rfl, named⟩

theorem extends_nil : Extends program [] final ↔ final = program := by
  constructor
  · intro reads
    generalize none : [] = tokens at reads
    cases reads with
    | done => rfl
    | node first others =>
        rcases first with declares | calls
        · rcases declares.head with ⟨token, tokens, rfl, _⟩
          cases none
        · rcases calls.head with ⟨token, tokens, rfl, _⟩
          cases none
  · intro same
    rw [same]
    exact .done

theorem extends_cons {token : Token} {tokens : List Token} :
    Extends program (token :: tokens) final ↔
      ∃ node rest, (∃ segment, token :: tokens = segment ++ rest ∧
        Segment program rest segment node) ∧ Extends (program.push node) rest final := by
  constructor
  · intro reads
    generalize some : token :: tokens = whole at reads
    cases reads with
    | done => cases some
    | @node program final segment rest node first others =>
        exact ⟨node, rest, ⟨segment, rfl, first⟩, others⟩
  · intro split
    rcases split with ⟨node, rest, ⟨segment, whole, first⟩, others⟩
    rw [whole]
    exact .node first others

end Grammar

namespace Handler

open Grammar (Segment)

variable {scope : Scope} {token : Token} {tokens rest : List Token} {node : Node}

/-- A handler reads a segment of the kind of node that its first token announces, and no other. -/
theorem standard_eq_ok :
    (∃ handler, Handlers.find? .standard token.kind = some handler ∧
      handler.parse scope (token :: tokens) = .ok node rest) ↔
    ∃ segment, token :: tokens = segment ++ rest ∧ Segment scope.program rest segment node := by
  constructor
  · intro read
    rcases read with ⟨handler, _, read⟩
    cases handler with
    | declaration =>
        rcases Declaration.parse_eq_ok.mp read with ⟨segment, whole, declares⟩
        exact ⟨segment, whole, .inl declares⟩
    | call =>
        rcases Call.parse_eq_ok.mp read with ⟨segment, whole, calls⟩
        exact ⟨segment, whole, .inr calls⟩
  · intro split
    rcases split with ⟨segment, whole, declares | calls⟩
    · have read := Declaration.parse_eq_ok.mpr ⟨segment, whole, declares⟩
      rcases declares.head with ⟨first, others, rfl, keyword⟩
      rcases List.cons.inj whole with ⟨rfl, _⟩
      exact ⟨.declaration, by rw [keyword]; rfl, read⟩
    · have read := Call.parse_eq_ok.mpr ⟨segment, whole, calls⟩
      rcases calls.head with ⟨first, others, rfl, name⟩
      rcases List.cons.inj whole with ⟨rfl, _⟩
      exact ⟨.call, by rw [name]; rfl, read⟩

end Handler

namespace Program

open Grammar (Extends extends_cons extends_nil)

theorem ofTokensFrom_cons_eq_ok {finish : Position} {program final : Program} {token : Token}
    {tokens : List Token} :
    ofTokensFrom finish program (token :: tokens) = .ok final ↔
      ∃ node rest, (∃ handler, Handlers.find? .standard token.kind = some handler ∧
        handler.parse ⟨program, finish⟩ (token :: tokens) = .ok node rest) ∧
        ofTokensFrom finish (program.push node) rest = .ok final := by
  rw [ofTokensFrom]
  cases Handlers.find? .standard token.kind with
  | none => simp [Outcome.refuse]
  | some handler =>
      dsimp only
      split
      · rename_i reached
        simp [reached]
      · rename_i reached
        simp [reached]

theorem ofTokensFrom_eq_ok {finish : Position} {program final : Program} {tokens : List Token} :
    ofTokensFrom finish program tokens = .ok final ↔ Extends program tokens final := by
  induction count : tokens.length using Nat.strongRecOn generalizing program tokens with
  | ind count ih =>
      cases tokens with
      | nil =>
          rw [ofTokensFrom, extends_nil, Except.ok.injEq, eq_comm]
      | cons token tokens =>
          rw [ofTokensFrom_cons_eq_ok, extends_cons]
          apply exists_congr
          intro node
          apply exists_congr
          intro rest
          rw [← @Handler.standard_eq_ok ⟨program, finish⟩]
          apply and_congr_right
          intro read
          rcases read with ⟨handler, _, read⟩
          have shorter := Parse.takes_handler handler _ read
          exact ih rest.length (count ▸ shorter) rfl

/-- Tokens make a program exactly where they split into the segments of its nodes. -/
theorem ofTokens_eq_ok_iff_extends (tokens : List Token) (source file : String)
    (program : Program) :
    ofTokens tokens source file = .ok program ↔ Extends .empty tokens program :=
  ofTokensFrom_eq_ok

end Program
end LetLang
