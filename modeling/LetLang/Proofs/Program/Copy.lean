import Mathlib
import LetLang.Proofs.Program.Annotated
import LetLang.Proofs.Program.Online
import LetLang.Proofs.Program.WellFormed

/-!
A declared variable is copied by a declaration of its name. The copy does not take its kind over; it
has the one that the value has by itself, which fails for an integer of 64 unsigned bits only.
-/
namespace LetLang

def Declaration.copying (name original : String) : List (TokenKind × String) :=
  [(.letKeyword, "let"), (.identifier, name), (.assignment, "="), (.identifier, original),
    (.semicolon, ";")]

namespace Program

open Declaration (annotated copying evaluate evaluate_eq_ok declared)

variable {program : Program} {finish : Position} {cell : Variable} {token : Token} {value : Value}

theorem evaluate_name (named : token.kind = .identifier)
    (found : program.find? token.value = some cell) (valued : cell.value? = some value)
    (name : String) (start : Position) :
    evaluate ⟨program, finish⟩ name start [token] = .ok (value, .ofValue value) := by
  have reduces : Reduction.reduce program start [token] = .ok cell :=
    Reduction.reduce_eq_ok.mpr (.name named found)
  have plain : ∀ other ∈ [token], other.kind ≠ .asKeyword := by simp [named]
  exact evaluate_eq_ok.mpr
    ⟨[token], [], none, rfl, .absent, plain, cell, reduces, valued, rfl⟩

theorem ofTokensFrom_copy {copy : List Token} {name original : String}
    (spelled : copy.map Token.content = copying name original)
    (found : program.find? original = some cell) (valued : cell.value? = some value)
    (fresh : program.containsName name = false) :
    ∃ token, copy[3]? = some token ∧ ofTokensFrom finish program copy =
      if (Kind.ofValue value).accepts value then
        .ok (program.push (.declaration (.holding (.ofValue value) (some name) value)))
      else
        Outcome.refuse ⟨.valueKindMismatch value.text (Kind.ofValue value).name, token.start⟩ := by
  simp only [copying, List.map_eq_cons_iff, List.map_eq_nil_iff] at spelled
  rcases spelled with ⟨keyword, _, rfl, first, bound, _, rfl, second, sign, _, rfl, third, token,
    _, rfl, fourth, mark, _, rfl, fifth, rfl⟩
  simp only [Token.content, Prod.mk.injEq] at first second third fourth fifth
  rcases second with ⟨named, rfl⟩
  rcases fourth with ⟨refers, rfl⟩
  have inside : ∀ other ∈ [token], Declaration.isCalculable other = true := by
    simp [Declaration.isCalculable, refers]
  have goesOn := @ofTokensFrom_let program finish _ _ _ _ _ first.1 named third.1 inside fifth.1
    fresh []
  have given := @evaluate_name program finish cell token value refers found valued bound.value
  refine ⟨token, rfl, goesOn.trans ?_⟩
  split
  · rename_i fits
    rw [Declaration.declared_of_accepts (given _) fits]
    exact ofTokensFrom.eq_1 _ _
  · rename_i exceeds
    rw [Declaration.declared_of_not_accepts (given _) exceeds]
    rfl

theorem unmarked_of_copying {copy : List Token} {name original : String}
    (spelled : copy.map Token.content = copying name original) :
    copy.head?.map Token.kind ≠ some .semicolon := by
  cases copy with
  | nil => cases spelled
  | cons keyword others =>
      have first : keyword.kind = .letKeyword := congrArg Prod.fst (List.cons.inj spelled).1
      simp [first]

theorem ofTokens_append_copy {tokens copy : List Token} {source file longer other : String}
    {name original : String} (made : ofTokens tokens source file = .ok program)
    (spelled : copy.map Token.content = copying name original)
    (found : program.find? original = some cell) (valued : cell.value? = some value)
    (fresh : program.containsName name = false) :
    ∃ token, copy[3]? = some token ∧ ofTokens (tokens ++ copy) longer other =
      if (Kind.ofValue value).accepts value then
        .ok (program.push (.declaration (.holding (.ofValue value) (some name) value)))
      else
        Outcome.refuse ⟨.valueKindMismatch value.text (Kind.ofValue value).name, token.start⟩ := by
  have reads := ofTokensFrom_eq_ok.mp made
  have goesOn := @ofTokensFrom_append .empty _ (finishOf longer other) _ reads (.inr rfl) copy
  rw [leaves_of_unmarked (unmarked_of_copying spelled)] at goesOn
  rcases @ofTokensFrom_copy _ (finishOf longer other) _ _ _ _ _ spelled found valued fresh with
    ⟨token, fourth, copied⟩
  exact ⟨token, fourth, goesOn.trans copied⟩

/-- A variable is copied behind the program that declares it, under every name that is free there:
the copy holds the same value. Only integers past 64 signed bits are refused, which a variable of 64
unsigned bits alone can hold. -/
theorem ofTokens_copy {tokens copy : List Token} {source file longer other : String}
    {name original : String} (made : ofTokens tokens source file = .ok program)
    (stored : .declaration cell ∈ program.body) (named : cell.name? = some original)
    (fresh : program.containsName name = false)
    (spelled : copy.map Token.content = copying name original) :
    ∃ value, cell.value? = some value ∧
      (¬value.Oversized → ofTokens (tokens ++ copy) longer other =
        .ok (program.push (.declaration
          ⟨some name, .ofValue value, some value, (Kind.ofValue value).actions⟩))) ∧
      (value.Oversized → cell.kind = .u64 ∧ ∃ token, copy[3]? = some token ∧
        ofTokens (tokens ++ copy) longer other =
          Outcome.refuse ⟨.valueKindMismatch value.text "i64", token.start⟩) := by
  have wellFormed := ofTokens_wellFormed tokens source file made
  rcases (wellFormed.settled cell stored).valued with ⟨value, valued, fits, normal⟩
  have held := Kind.holds_of_normal fits normal
  have found := find?_of_declared wellFormed.distinct stored named
  rcases @ofTokens_append_copy _ _ value _ _ _ _ longer other _ _ made spelled found valued fresh
    with ⟨token, fourth, copied⟩
  refine ⟨value, valued, fun reached => ?_, fun oversized => ?_⟩
  · have taken := (Kind.accepts_ofValue held).mpr reached
    rw [copied, if_pos taken, Variable.holding, Kind.normalise_ofValue held]
  · refine ⟨held.kind_of_oversized oversized, token, fourth, ?_⟩
    have exceeds : ¬(Kind.ofValue value).accepts value = true :=
      fun taken => (Kind.accepts_ofValue held).mp taken oversized
    rcases oversized with ⟨n, rfl, past⟩
    rw [copied, if_neg exceeds, Kind.ofValue_integer]
    rfl

theorem copied_byte :
    ofTokens (Token.placedFrom "a" 0 (annotated "x" "200" .u8) ++
        Token.placedFrom "a" 24 (copying "y" "x")) "" "a" =
      .ok ⟨[.declaration ⟨some "x", .u8, some (.integer { toInt := 200 }), Kind.u8.actions⟩,
        .declaration ⟨some "y", .i64, some (.integer { toInt := 200 }), Kind.i64.actions⟩]⟩ := by
  have made : ofTokens (Token.placedFrom "a" 0 (annotated "x" "200" .u8)) "" "a" =
      .ok ⟨[.declaration ⟨some "x", .u8, some (.integer { toInt := 200 }), Kind.u8.actions⟩]⟩ := by
    cbv
  have spelled : (Token.placedFrom "a" 24 (copying "y" "x")).map Token.content =
      copying "y" "x" := Token.map_content_placedFrom
  rcases ofTokens_copy made (List.mem_singleton.mpr rfl) rfl rfl spelled with
    ⟨value, valued, copied, _⟩
  cases valued
  have reached : ¬(Value.integer { toInt := 200 }).Oversized := by
    rintro ⟨_, ⟨⟩, past⟩
    exact absurd past (by decide)
  rw [copied reached, Kind.ofValue_integer]
  rfl

theorem ofTokens_past_signed :
    ofTokens (Token.placedFrom "a" 0 (annotated "x" "9223372036854775808.0" .u64)) "" "a" =
      .ok ⟨[.declaration
        ⟨some "x", .u64, some (.integer { toInt := 2 ^ 63 }), Kind.u64.actions⟩]⟩ := by
  have digits : Binary64.ofText? "9223372036854775808.0" = some (.ofInt (2 ^ 63)) := by
    decide +kernel
  have whole : (Value.float (.ofInt (2 ^ 63))).asInteger? = some { toInt := 2 ^ 63 } := by
    decide +kernel
  have read : Value.ofNumericLiteral "9223372036854775808.0" =
      .ok (.float (.ofInt (2 ^ 63))) := by
    rw [Value.ofNumericLiteral, digits]
    rfl
  have fits : Kind.u64.accepts (.float (.ofInt (2 ^ 63))) = true := by decide +kernel
  have taken : (Kind.ofNumericText "9223372036854775808.0").accepts
      (.float (.ofInt (2 ^ 63))) = true := by decide +kernel
  have normal : Kind.u64.normalise (.float (.ofInt (2 ^ 63))) = .integer { toInt := 2 ^ 63 } := by
    rw [Kind.normalise, whole]
    rfl
  rcases @ofTokensFrom_annotated .empty (finishOf "" "a") _ _ _ _ _ Token.map_content_placedFrom
    read fits rfl with ⟨token, _, runs⟩
  rw [if_pos taken, Variable.holding, normal] at runs
  exact runs

/-- An integer of 64 unsigned bits cannot be copied, although the variable that holds it can be
declared. -/
theorem not_copied_past_signed :
    ∃ program cell,
      ofTokens (Token.placedFrom "a" 0 (annotated "x" "9223372036854775808.0" .u64)) "" "a" =
        .ok program ∧
      .declaration cell ∈ program.body ∧ cell.name? = some "x" ∧
      program.containsName "y" = false ∧
      ∀ final, ofTokens (Token.placedFrom "a" 0 (annotated "x" "9223372036854775808.0" .u64) ++
        Token.placedFrom "a" 40 (copying "y" "x")) "" "a" ≠ .ok final := by
  refine ⟨_, _, ofTokens_past_signed, List.mem_singleton.mpr rfl, rfl, rfl, fun final copied => ?_⟩
  have spelled : (Token.placedFrom "a" 40 (copying "y" "x")).map Token.content =
      copying "y" "x" := Token.map_content_placedFrom
  rcases @ofTokens_append_copy _ _ (.integer { toInt := 2 ^ 63 }) _ _ _ _ "" "a" _ _
    ofTokens_past_signed spelled rfl rfl rfl with ⟨token, _, refused⟩
  have exceeds : ¬(Kind.ofValue (.integer { toInt := 2 ^ 63 })).accepts
      (.integer { toInt := 2 ^ 63 }) = true := by
    rw [Kind.ofValue_integer]
    decide
  rw [refused, if_neg exceeds] at copied
  cases copied

end Program
end LetLang
