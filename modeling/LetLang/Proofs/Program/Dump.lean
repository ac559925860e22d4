import Mathlib
import LetLang.Proofs.Json.Document
import LetLang.Proofs.Json.Pretty
import LetLang.Proofs.Program.WellFormed
import LetLang.Proofs.Variable.Sound

/-!
The texts of tokens and of programs tell them apart. Every document has its own layout as long as its
numbers are finite; in programs that tokens make they are, because no value is an object, and the
kinds of numbers accept finite ones only.
-/
namespace LetLang

theorem Kind.eq_object_of_accepts {kind : Kind} {members : List Variable}
    (fits : kind.accepts (.object members) = true) : kind = .object := by
  cases kind with
  | object => rfl
  | _ => cases fits

theorem Kind.Holds.finite {kind : Kind} {value : Value} (holds : kind.Holds value)
    (other : kind ≠ .object) : value.document.Finite := by
  unfold Holds at holds
  cases bounds : kind.bounds? with
  | none =>
      rw [bounds] at holds
      cases kind with
      | bool | char | string =>
          rcases holds with ⟨held, rfl⟩
          trivial
      | object => exact absurd rfl other
      | _ => cases bounds
  | some interval =>
      rw [bounds] at holds
      cases interval with
      | integer least greatest =>
          rcases holds with ⟨n, rfl, _⟩
          trivial
      | float least greatest =>
          rcases holds with ⟨x, rfl, finite, _⟩
          exact finite

namespace Variable

structure Scalar (cell : Variable) : Prop where
  settled : cell.Settled
  kind : cell.kind ≠ .object

theorem OfLiteral.scalar {cell : Variable} (literal : cell.OfLiteral) : cell.Scalar := by
  refine ⟨literal.settled, ?_⟩
  intro object
  rcases literal.kind with same | same | same
  all_goals
    rw [object] at same
    cases same

theorem scalar_of_literal {token : Token} {read : Variable} (stands : token.literal = .ok read) :
    read.Scalar :=
  (@Grammar.Passes.literal .empty token read stands).literal_ofLiteral.scalar

theorem Scalar.ne_object {cell : Variable} {kind : Kind} {value : Value} (scalar : cell.Scalar)
    (valued : cell.value? = some value) (fits : kind.accepts value = true) : kind ≠ .object := by
  rintro rfl
  rcases Kind.holds_unbounded rfl fits with ⟨members, rfl⟩
  rcases scalar.settled.valued with ⟨held, same, accepted, _⟩
  obtain rfl : held = .object members := Option.some.inj (same.symm.trans valued)
  exact scalar.kind (Kind.eq_object_of_accepts accepted)

theorem Scalar.finite {cell : Variable} (scalar : cell.Scalar) :
    Json.FiniteFields cell.fields := by
  rcases scalar.settled.valued with ⟨value, valued, accepted, normal⟩
  exact finite_fields valued ((Kind.holds_of_normal accepted normal).finite scalar.kind)

end Variable

namespace Program

open Grammar (Extends Segment)
open Reduction (Reduces)

def Scalars (program : Program) : Prop :=
  ∀ cell, .declaration cell ∈ program.body → cell.Scalar

variable {program final : Program} {segment rest tokens window : List Token} {node : Node}

theorem Scalars.found {name : String} {cell : Variable} (scalars : program.Scalars)
    (found : program.find? name = some cell) : cell.Scalar := by
  rcases declaration_of_find? found with ⟨index, stands, _⟩
  exact scalars cell (List.mem_of_getElem? stands)

/-- What value tokens reduce to is a literal, a variable of the program, or of the kind of a
literal. -/
theorem Scalars.reduces {reduced : Variable} (scalars : program.Scalars)
    (reduces : Reduces program window reduced) : reduced.Scalar := by
  cases reduces with
  | literal stands => exact Variable.scalar_of_literal stands
  | name _ declared => exact scalars.found declared
  | alone first => exact Variable.scalar_of_literal first.2
  | beforeName first => exact Variable.scalar_of_literal first.2
  | applied first _ _ _ _ _ fits =>
      exact ⟨Variable.settled_holding fits none, (Variable.scalar_of_literal first.2).kind⟩

theorem Scalars.push (scalars : program.Scalars) (first : Segment program rest segment node) :
    (program.push node).Scalars := by
  intro cell member
  rcases mem_push.mp member with before | rfl
  · exact scalars cell before
  · refine ⟨first.settled, ?_⟩
    rcases first with declares | calls
    · cases declares with
      | intro _ _ _ _ _ _ reduces valued _ _ fits =>
          exact (scalars.reduces (Reduction.reduce_eq_ok.mp reduces)).ne_object valued fits
    · cases calls

theorem Scalars.extends (scalars : program.Scalars) (reads : Extends program tokens final) :
    final.Scalars := by
  induction reads with
  | done => exact scalars
  | node first others ih => exact ih (scalars.push first)

theorem Scalars.finite (scalars : program.Scalars) (wellFormed : program.WellFormed) :
    program.document.Finite := by
  refine ⟨Json.finite_array_map fun node member => ?_, trivial⟩
  cases node with
  | declaration cell => exact ⟨trivial, (scalars cell member).finite⟩
  | call made =>
      refine ⟨trivial, finite_optionalText _, Json.finite_array_map fun argument passed => ?_, trivial⟩
      cases argument with
      | literal value =>
          exact ⟨trivial, (wellFormed.literals made member value passed).scalar.finite⟩
      | reference target => exact ⟨trivial, trivial, trivial⟩

theorem finite_of_ofTokens {source file : String}
    (made : ofTokens tokens source file = .ok program) : program.document.Finite := by
  have reads := ofTokensFrom_eq_ok.mp made
  have scalars : Scalars .empty := nofun
  exact (scalars.extends reads).finite (wellFormed_empty.extends reads)

/-- Programs that tokens make, and tokens whatever they are, are the same where their texts are. -/
theorem dump_eq_iff {tokens others : List Token} {source file source' file' : String}
    {program other : Program} (made : ofTokens tokens source file = .ok program)
    (made' : ofTokens others source' file' = .ok other) :
    (program.dump = other.dump ↔ program = other) ∧
      ∀ tokens others : List Token, Token.dump tokens = Token.dump others ↔ tokens = others := by
  constructor
  · refine ⟨fun same => ?_, congrArg dump⟩
    exact document_inj program other
      (Json.pretty_inj (finite_of_ofTokens made) (finite_of_ofTokens made') same)
  · intro tokens others
    refine ⟨fun same => ?_, congrArg Token.dump⟩
    have documents := Json.pretty_inj (Json.finite_array_map fun token _ => token.finite_document)
      (Json.finite_array_map fun token _ => token.finite_document) same
    exact Json.array_map_inj Token.document_inj documents

theorem dump_ne_quoted :
    dump ⟨[.declaration (.holding .i64 (some "x") (.integer { toInt := 5 }))]⟩ ≠
      dump ⟨[.declaration (.holding .string (some "x") (.string "5"))]⟩ := by
  intro same
  have equal := (dump_eq_iff
    (show ofTokens
      ([(.letKeyword, "let"), (.identifier, "x"), (.assignment, "="), (.number, "5"),
        (.semicolon, ";")].map fun written => ⟨written.1, written.2, ⟨0, "a"⟩, ⟨0, "a"⟩⟩) "" "a" =
        .ok _ by cbv)
    (show ofTokens
      ([(.letKeyword, "let"), (.identifier, "x"), (.assignment, "="), (.string, "5"),
        (.semicolon, ";")].map fun written => ⟨written.1, written.2, ⟨0, "a"⟩, ⟨0, "a"⟩⟩) "" "a" =
        .ok _ by cbv)).1.mp same
  cases equal

end Program
end LetLang
