import Mathlib
import LetLang.Proofs.Grammar.Program

/-!
Programs that tokens make are well formed. A node is judged against the nodes before it, and what it
was judged by stays true however the program grows.
-/
namespace LetLang

structure Variable.OfLiteral (cell : Variable) : Prop where
  unnamed : cell.name? = none
  kind : cell.kind = .string ∨ cell.kind = .i64 ∨ cell.kind = .f64
  settled : cell.Settled

/-- A reference that finds, in the whole program, what a node before an index declares. -/
def Reference.DeclaredBefore (program : Program) (index : Nat) (reference : Reference) : Prop :=
  ∃ earlier declared, earlier < index ∧
    program.body[earlier]? = some (.declaration declared) ∧
    declared.name? = some reference.name ∧ program.find? reference.name = some declared ∧
    reference.resolve program = .ok declared

namespace Program

structure WellFormed (program : Program) : Prop where
  named : ∀ node ∈ program.body, ∃ name, node.name? = some name
  distinct : (program.body.map Node.name?).Nodup
  settled : ∀ declared, .declaration declared ∈ program.body → declared.Settled
  literals : ∀ made, .call made ∈ program.body →
    ∀ value, .literal value ∈ made.arguments → value.OfLiteral
  references : ∀ (index : Nat) (made : Call), program.body[index]? = some (.call made) →
    ∀ target, .reference target ∈ made.arguments → target.DeclaredBefore program index

end Program

namespace Grammar

variable {program : Program} {segment rest tokens : List Token} {node : Node}
variable {arguments : List Argument} {argument : Argument}

theorem Arguments.passes (passed : Arguments program tokens arguments)
    (member : argument ∈ arguments) : ∃ token, Passes program token argument := by
  induction passed with
  | nil => cases member
  | cons first separated others ih =>
      rcases List.mem_cons.mp member with same | behind
      · rw [same]
        exact ⟨_, first⟩
      · exact ih behind

theorem Passes.literal_ofLiteral {token : Token} {value : Variable}
    (passes : Passes program token (.literal value)) : value.OfLiteral := by
  cases passes with
  | literal stands =>
      constructor
      · exact Token.literal_unnamed stands
      · rcases Token.literal_kind stands with ⟨_, quoted⟩ | ⟨_, digits⟩
        · exact .inl quoted
        · exact .inr digits
      · exact Token.literal_settled stands

theorem Passes.reference_found {token : Token} {target : Reference}
    (passes : Passes program token (.reference target)) :
    ∃ declared, program.find? target.name = some declared := by
  cases passes with
  | reference named found => exact ⟨_, found⟩

theorem Segment.fresh_name (first : Segment program rest segment node) :
    ∃ name, node.name? = some name ∧ program.containsName name = false := by
  rcases first with declares | calls
  · cases declares with
    | @intro keyword name =>
        exact ⟨name.value, rfl, by assumption⟩
  · cases calls with
    | @intro name =>
        exact ⟨name.value, rfl, by assumption⟩

theorem Segment.settled {declared : Variable}
    (first : Segment program rest segment (.declaration declared)) : declared.Settled := by
  rcases first with declares | calls
  · cases declares with
    | @intro keyword name sign mark core descriptor kind? kind start reduced value first named
        assigned values described ends reduces valued fresh chosen fits =>
        exact Variable.settled_holding fits _
  · cases calls

theorem Segment.passes {made : Call} (first : Segment program rest segment (.call made))
    (member : argument ∈ made.arguments) : ∃ token, Passes program token argument := by
  rcases first with declares | calls
  · cases declares
  · cases calls with
    | intro named opens passed => exact passed.passes member

end Grammar

namespace Reference

variable {program : Program} {node : Node} {reference : Reference} {index : Nat}

theorem declaredBefore_of_find? {declared : Variable}
    (found : program.find? reference.name = some declared) :
    reference.DeclaredBefore program program.body.length := by
  rcases Program.declaration_of_find? found with ⟨earlier, stands, same⟩
  rcases List.getElem?_eq_some_iff.mp stands with ⟨before, _⟩
  exact ⟨earlier, declared, before, stands, same, found, resolve_eq_ok.mpr found⟩

theorem DeclaredBefore.push (before : reference.DeclaredBefore program index) (node : Node) :
    reference.DeclaredBefore (program.push node) index := by
  rcases before with ⟨earlier, declared, less, stands, same, found, _⟩
  have kept := Program.find?_push found node
  exact ⟨earlier, declared, less, Program.getElem?_push stands, same, kept, resolve_eq_ok.mpr kept⟩

end Reference

namespace Program

open Grammar (Extends Segment)

variable {program final : Program} {segment rest tokens : List Token} {node : Node}

theorem wellFormed_empty : WellFormed .empty := by
  constructor
  · exact nofun
  · exact List.nodup_nil
  · exact nofun
  · exact nofun
  · exact nofun

theorem WellFormed.push (wellFormed : program.WellFormed)
    (first : Segment program rest segment node) : (program.push node).WellFormed := by
  rcases first.fresh_name with ⟨name, named, fresh⟩
  constructor
  · intro stored member
    rcases mem_push.mp member with before | rfl
    · exact wellFormed.named stored before
    · exact ⟨name, named⟩
  · exact nodup_push wellFormed.distinct named fresh
  · intro declared member
    rcases mem_push.mp member with before | rfl
    · exact wellFormed.settled declared before
    · exact first.settled
  · intro made member value literal
    rcases mem_push.mp member with before | rfl
    · exact wellFormed.literals made before value literal
    · rcases first.passes literal with ⟨token, passes⟩
      exact passes.literal_ofLiteral
  · intro index made stands target reference
    rcases getElem?_push_cases stands with before | ⟨rfl, rfl⟩
    · exact (wellFormed.references index made before target reference).push node
    · rcases first.passes reference with ⟨token, passes⟩
      rcases passes.reference_found with ⟨declared, found⟩
      exact (Reference.declaredBefore_of_find? found).push _

theorem WellFormed.extends (wellFormed : program.WellFormed)
    (reads : Extends program tokens final) : final.WellFormed := by
  induction reads with
  | done => exact wellFormed
  | node first others ih => exact ih (wellFormed.push first)

/-- Whatever the tokens are, a program that they make is well formed. -/
theorem ofTokens_wellFormed (tokens : List Token) (source file : String) {program : Program}
    (made : ofTokens tokens source file = .ok program) : program.WellFormed :=
  wellFormed_empty.extends (ofTokensFrom_eq_ok.mp made)

theorem wellFormed_let_then_print :
    WellFormed ⟨[.declaration (.holding .i64 (some "x") (.integer { toInt := 5 })),
      .call ⟨some "print",
        [.reference ⟨"x"⟩, .literal (.holding .string none (.string "!"))]⟩]⟩ := by
  apply ofTokens_wellFormed
    ([(.letKeyword, "let"), (.identifier, "x"), (.assignment, "="), (.number, "5"),
      (.semicolon, ";"), (.identifier, "print"), (.openParen, "("), (.identifier, "x"),
      (.comma, ","), (.string, "!"), (.closeParen, ")")].map fun written =>
        ⟨written.1, written.2, ⟨0, "a"⟩, ⟨0, "a"⟩⟩) "" "a"
  cbv

end Program
end LetLang
