import LetLang.Proofs.Program.Annotated

/-!
The kind of a computed value, asked for anew. It is read off the printed value, and it is the kind
that the value was computed under: every double that a literal leads to prints with a point, every
integer without. A declaration without a written kind therefore declares what its value tokens
reduce to, and fails only where they do.
-/
namespace LetLang

def Kind.IsWritten (kind : Kind) : Prop := kind = .string ∨ kind = .i64 ∨ kind = .f64

namespace Variable

variable {cell : Variable} {value : Value}

theorem Settled.ofValue_eq (settled : cell.Settled) (written : cell.kind.IsWritten)
    (valued : cell.value? = some value) : Kind.ofValue value = cell.kind := by
  rcases settled.valued with ⟨found, present, fits, normal⟩
  obtain rfl : found = value := Option.some.inj (present.symm.trans valued)
  have held := Kind.holds_of_normal fits normal
  rcases written with kind | kind | kind
  · rw [kind] at held ⊢
    rcases held with ⟨text, rfl⟩
    rfl
  · rw [kind] at held ⊢
    rcases held with ⟨n, rfl, _⟩
    exact Kind.ofValue_integer n
  · rw [kind] at held ⊢
    rcases held with ⟨x, rfl, finite, _⟩
    exact Kind.ofValue_float finite

theorem Settled.build_eq (settled : cell.Settled) (valued : cell.value? = some value)
    (name : String) :
    build cell.kind (some name) (some value) = .ok { cell with name? := some name } := by
  rcases settled.valued with ⟨found, present, fits, normal⟩
  obtain rfl : found = value := Option.some.inj (present.symm.trans valued)
  refine build_eq_ok.mpr ⟨fits, ?_⟩
  rw [holding, normal, ← present, ← settled.actions]

end Variable

namespace Reduction

variable {program : Program} {first : Token} {others : List Token} {result : Variable}

theorem settled_of_literal {read : Variable} (stands : first.literal = .ok read) :
    read.Settled ∧ read.kind.IsWritten := by
  refine ⟨Token.literal_settled stands, ?_⟩
  rcases Token.literal_kind stands with ⟨_, quoted⟩ | ⟨_, numeric⟩
  · exact .inl quoted
  · exact .inr numeric

theorem Reduces.settled (shape : Reduces program (first :: others) result)
    (unnamed : first.kind ≠ .identifier) : result.Settled ∧ result.kind.IsWritten := by
  cases shape with
  | literal stands => exact settled_of_literal stands
  | name named declared => exact absurd named unnamed
  | alone number spelled => exact settled_of_literal number.2
  | beforeName number spelled dropped => exact settled_of_literal number.2
  | applied number spelled second leftValue rightValue folded fits =>
      exact ⟨Variable.settled_holding fits none, (settled_of_literal number.2).2⟩

theorem Reduces.literalKind_eq (shape : Reduces program [first] result)
    (unnamed : first.kind ≠ .identifier) : first.literalKind = .ok result.kind := by
  cases shape with
  | literal stands =>
      rcases Token.literal_eq_ok.mp stands with ⟨kind, spelled, value, _, _, rfl⟩
      exact spelled
  | name named declared => exact absurd named unnamed

end Reduction

namespace Declaration

variable {scope : Scope} {start : Position} {first : Token} {others : List Token}

theorem declared_of_literal (unnamed : first.kind ≠ .identifier)
    (plain : ∀ token ∈ first :: others, token.kind ≠ .asKeyword) (name : String) :
    declared scope name start (first :: others) =
      (Reduction.reduce scope.program start (first :: others)).map
        fun reduced => { reduced with name? := some name } := by
  have split : splitKind name (first :: others) = .ok (first :: others, none) := by
    have whole := @splitKind_append _ name _ _ .absent plain
    rwa [List.append_nil] at whole
  have checked : checkDescriptors (first :: others) = .ok () := checkDescriptors_eq_ok.mpr plain
  rw [declared, evaluate, split]
  dsimp only [bind, Except.bind, Outcome.ofExcept]
  rw [checked]
  dsimp only [bind, Except.bind, Outcome.ofExcept]
  cases reduces : Reduction.reduce scope.program start (first :: others) with
  | error failure => rfl
  | ok reduced =>
      rcases (Reduction.reduce_eq_ok.mp reduces).settled unnamed with
        ⟨settled, written⟩
      rcases settled.valued with ⟨value, valued, _⟩
      have inferred := settled.ofValue_eq written valued
      dsimp only
      rw [valued]
      dsimp only [pure, Except.pure, Option.getD_none]
      rw [inferred, settled.build_eq valued]
      rfl

end Declaration

namespace Program

open Declaration (isCalculable isCalculable_core)
open Grammar (IsValueToken)

/-- The kind of what a window with a literal in front reduces to is the one that its value has by
itself, and where the literal stands alone the one of its spelling. A variable of that kind takes
the value under any name, as it is, so that the declaration goes on with the reduced variable. -/
theorem declared_as_reduced (program : Program) {first : Token}
    (literal : first.kind = .string ∨ first.kind = .number) (others : List Token) :
    (∀ start reduced, Reduction.reduce program start (first :: others) = .ok reduced →
      ∃ value, reduced.value? = some value ∧ Kind.ofValue value = reduced.kind ∧
        (others = [] → first.literalKind = .ok reduced.kind) ∧
        ∀ name, Variable.build (.ofValue value) (some name) (some value) =
          .ok { reduced with name? := some name }) ∧
      ∀ (finish : Position) {keyword name sign mark : Token}, keyword.kind = .letKeyword →
        name.kind = .identifier → sign.kind = .assignment →
        (∀ token ∈ others, IsValueToken token) → mark.kind = .semicolon →
        program.containsName name.value = false → ∀ rest,
        ofTokensFrom finish program (keyword :: name :: sign :: (first :: others ++ mark :: rest)) =
          Reduction.reduce program first.start (first :: others) >>= fun reduced =>
            let node := .declaration { reduced with name? := some name.value }
            ofTokensFrom finish (program.push node) rest := by
  have unnamed : first.kind ≠ .identifier := by
    rcases literal with kind | kind
    · simp [kind]
    · simp [kind]
  constructor
  · intro start reduced reduces
    have shape := Reduction.reduce_eq_ok.mp reduces
    rcases shape.settled unnamed with ⟨settled, written⟩
    rcases settled.valued with ⟨value, valued, _⟩
    have inferred := settled.ofValue_eq written valued
    refine ⟨value, valued, inferred, ?_, fun name => ?_⟩
    · rintro rfl
      exact shape.literalKind_eq unnamed
    · rw [inferred]
      exact settled.build_eq valued name
  · intro finish keyword name sign mark opens named assigned values ends fresh rest
    have valued : ∀ token ∈ first :: others, IsValueToken token :=
      List.forall_mem_cons.mpr ⟨literal.imp_right .inl, values⟩
    have inside : ∀ token ∈ first :: others, isCalculable token = true :=
      fun token member => (isCalculable_core.mpr (valued token member)).1
    have plain : ∀ token ∈ first :: others, token.kind ≠ .asKeyword :=
      fun token member => (isCalculable_core.mpr (valued token member)).2
    have goesOn := @ofTokensFrom_let program finish _ _ _ _ _ opens named assigned inside ends
      fresh rest
    rw [goesOn, Declaration.declared_of_literal unnamed plain]
    dsimp only [Parse.placeOf, List.cons_append, List.head?_cons, Option.map_some,
      Option.getD_some]
    cases Reduction.reduce program first.start (first :: others) with
    | error failure => rfl
    | ok reduced => rfl

/-- An integer times a fraction is computed in doubles, and kept as the integer that it is. -/
theorem reduce_product (start : Position) :
    Reduction.reduce .empty start ([(.number, "6"), (.identifier, "*"), (.number, "2.5")].map
      (Token.placed "a" 0)) =
      .ok ⟨none, .i64, some (.integer { toInt := 15 }), Kind.i64.actions⟩ := by
  have digits : Binary64.ofText? "2.5" = some (.div (.ofInt 5) (.ofInt 2)) := by decide +kernel
  have fraction : (Value.float (.div (.ofInt 5) (.ofInt 2))).asInteger? = none := by
    decide +kernel
  have product : (Binary64.ofInt 6).mul (.div (.ofInt 5) (.ofInt 2)) = .ofInt 15 := by
    decide +kernel
  have whole : (Value.float (.ofInt 15)).asInteger? = some { toInt := 15 } := by decide +kernel
  have taken : (Kind.ofNumericText "2.5").accepts (.float (.div (.ofInt 5) (.ofInt 2))) = true := by
    decide +kernel
  have fits : Kind.i64.accepts (.float (.ofInt 15)) = true := by decide +kernel
  have read : Value.ofNumericLiteral "2.5" = .ok (.float (.div (.ofInt 5) (.ofInt 2))) := by
    rw [Value.ofNumericLiteral, digits]
    rfl
  have six : (Token.placed "a" 0 (.number, "6")).IsNumber
      (.holding .i64 none (.integer { toInt := 6 })) :=
    ⟨rfl, Token.literal_of_accepts rfl rfl (by decide)⟩
  have half : (Token.placed "a" 0 (.number, "2.5")).IsNumber
      (.holding .f64 none (.float (.div (.ofInt 5) (.ofInt 2)))) :=
    ⟨rfl, Token.literal_of_accepts rfl read taken⟩
  have folded : Value.fold .i64 .multiply (.integer { toInt := 6 })
      [.float (.div (.ofInt 5) (.ofInt 2))] = .ok (.float (.ofInt 15)) := by
    rw [Value.fold, Value.apply, fraction]
    exact congrArg (fun x => Except.ok (Value.float x)) product
  have made : Variable.holding .i64 none (.float (.ofInt 15)) =
      ⟨none, .i64, some (.integer { toInt := 15 }), Kind.i64.actions⟩ := by
    rw [Variable.holding, Kind.normalise, whole]
    rfl
  rw [← made]
  have times : ("*", ActionName.multiply) ∈ Operator.arithmetic := by decide
  exact Reduction.reduce_of_reduces
    (.applied six ⟨rfl, times⟩ half rfl rfl folded fits)

theorem declared_product :
    Kind.ofValue (.integer { toInt := 15 }) = .i64 ∧
      ofTokens ([(.letKeyword, "let"), (.identifier, "x"), (.assignment, "="), (.number, "6"),
        (.identifier, "*"), (.number, "2.5"), (.semicolon, ";")].map (Token.placed "a" 0)) "" "a" =
        .ok ⟨[.declaration
          ⟨some "x", .i64, some (.integer { toInt := 15 }), Kind.i64.actions⟩]⟩ := by
  have six : (Token.placed "a" 0 (.number, "6")).kind = .number := rfl
  have values : ∀ token ∈ [(.identifier, "*"), (.number, "2.5")].map (Token.placed "a" 0),
      IsValueToken token := by
    simp [IsValueToken, Token.placed]
  have reduced := declared_as_reduced .empty (.inr six)
    ([(.identifier, "*"), (.number, "2.5")].map (Token.placed "a" 0))
  constructor
  · rcases reduced.1 ⟨0, "a"⟩ _ (reduce_product _) with ⟨value, valued, inferred, _⟩
    cases valued
    exact inferred
  · have goesOn := @reduced.2 (finishOf "" "a") (Token.placed "a" 0 (.letKeyword, "let"))
      (Token.placed "a" 0 (.identifier, "x")) (Token.placed "a" 0 (.assignment, "="))
      (Token.placed "a" 0 (.semicolon, ";")) rfl rfl rfl values rfl rfl []
    have product := reduce_product (Token.placed "a" 0 (.number, "6")).start
    rw [List.map_cons] at product
    rw [product] at goesOn
    exact goesOn.trans (ofTokensFrom.eq_1 _ _)

end Program
end LetLang
