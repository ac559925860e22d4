import LetLang.Proofs.Program.Declared
import LetLang.Proofs.Value.Literal

/-!
Numbers that are declared under a kind. A literal is held by the kind of its spelling before the
kind that is written behind it is asked, so that a number can be too large for the first only.
-/
namespace LetLang

theorem Reduction.reduce_of_refused {program : Program} {start : Position} {token : Token}
    {error : Error} (other : token.kind ≠ .identifier) (failed : token.literal = .error error) :
    reduce program start [token] = Outcome.refuse error := by
  rw [reduce, terms, term, if_neg other, failed]
  rfl

namespace Declaration

def annotated (name text : String) (kind : Kind) : List (TokenKind × String) :=
  [(.letKeyword, "let"), (.identifier, name), (.assignment, "="), (.number, text),
    (.asKeyword, "as"), (.identifier, kind.name), (.semicolon, ";")]

variable {scope : Scope} {name : String} {start : Position} {number : Token} {value : Value}
variable {descriptor : List Token} {kind : Kind}

theorem evaluate_number (digits : number.kind = .number)
    (described : Grammar.Descriptor descriptor (some kind))
    (read : Value.ofNumericLiteral number.value = .ok value)
    (fits : (Kind.ofNumericText number.value).accepts value = true) :
    evaluate scope name start (number :: descriptor) = .ok (value, kind) := by
  have plain : ∀ token ∈ [number], token.kind ≠ .asKeyword := by simp [digits]
  have reduces : Reduction.reduce scope.program start [number] =
      .ok (.holding (.ofNumericText number.value) none value) :=
    Reduction.reduce_eq_ok.mpr (.literal (Token.literal_of_accepts digits read fits))
  have valued : (Variable.holding (.ofNumericText number.value) none value).value? = some value :=
    congrArg some (Kind.normalise_ofNumericText read)
  exact evaluate_eq_ok.mpr
    ⟨[number], descriptor, some kind, rfl, described, plain, _, reduces, valued, rfl⟩

theorem evaluate_number_refused (digits : number.kind = .number)
    (described : Grammar.Descriptor descriptor (some kind))
    (read : Value.ofNumericLiteral number.value = .ok value)
    (exceeds : ¬(Kind.ofNumericText number.value).accepts value = true) :
    evaluate scope name start (number :: descriptor) = Outcome.refuse
      ⟨.valueKindMismatch value.text (Kind.ofNumericText number.value).name, number.start⟩ := by
  have plain : ∀ token ∈ [number], token.kind ≠ .asKeyword := by simp [digits]
  have other : number.kind ≠ .identifier := by simp [digits]
  have failed := Token.literal_of_not_accepts digits read exceeds
  have reduces := @Reduction.reduce_of_refused scope.program start _ _ other failed
  have split : splitKind name (number :: descriptor) = .ok ([number], some kind) :=
    splitKind_append described plain
  have checked : checkDescriptors [number] = .ok () := checkDescriptors_eq_ok.mpr plain
  rw [evaluate, split]
  dsimp only [bind, Except.bind, Outcome.ofExcept]
  rw [checked]
  dsimp only [bind, Except.bind, Outcome.ofExcept]
  rw [reduces]
  rfl

end Declaration

namespace Program

open Declaration (annotated declared evaluate_number evaluate_number_refused)

variable {program : Program} {finish : Position} {tokens : List Token} {name text : String}
variable {kind : Kind} {value : Value}

theorem ofTokensFrom_annotated (spelled : tokens.map Token.content = annotated name text kind)
    (read : Value.ofNumericLiteral text = .ok value) (fits : kind.accepts value = true)
    (fresh : program.containsName name = false) :
    ∃ token, tokens[3]? = some token ∧ ofTokensFrom finish program tokens =
      if (Kind.ofNumericText text).accepts value then
        .ok (program.push (.declaration (.holding kind (some name) value)))
      else Outcome.refuse
        ⟨.valueKindMismatch value.text (Kind.ofNumericText text).name, token.start⟩ := by
  simp only [annotated, List.map_eq_cons_iff, List.map_eq_nil_iff] at spelled
  rcases spelled with ⟨keyword, _, rfl, first, bound, _, rfl, second, sign, _, rfl, third, number,
    _, rfl, fourth, descriptor, _, rfl, fifth, written, _, rfl, sixth, mark, _, rfl, last, rfl⟩
  simp only [Token.content, Prod.mk.injEq] at first second third fourth fifth sixth last
  rcases second with ⟨named, rfl⟩
  rcases fourth with ⟨digits, rfl⟩
  have inside : ∀ token ∈ [number, descriptor, written], Declaration.isCalculable token = true := by
    simp [Declaration.isCalculable, digits, fifth.1, sixth.1]
  have described : Grammar.Descriptor [descriptor, written] (some kind) :=
    .named fifth.1 sixth.1 sixth.2
  have goesOn := @ofTokensFrom_let program finish _ _ _ _ _ first.1 named third.1 inside last.1
    fresh []
  refine ⟨number, rfl, goesOn.trans ?_⟩
  split
  · rename_i taken
    rw [Declaration.declared_of_accepts (evaluate_number digits described read taken) fits]
    exact ofTokensFrom.eq_1 _ _
  · rename_i exceeds
    rw [Declaration.declared_of_refused (evaluate_number_refused digits described read exceeds)]
    rfl

end Program

/-! The same as a text. The name of the kind ends at the semicolon, without a blank between. -/

open Lexeme (Follows IsDigit IsNamePart IsNameStart Numeral Stands isNamePart_iff isNameStart_iff)
open Token (Writable print tokenize tokenizeFrom tokenizeFrom_placed tokenizeFrom_print written)

namespace Kind

theorem name_word (kind : Kind) : ∃ c others, kind.name.toList = c :: others ∧ IsNameStart c ∧
    (∀ d ∈ others, IsNamePart d) ∧ kind.name ≠ "let" ∧ kind.name ≠ "as" := by
  have word : kind.name.toList.head?.any Token.isNameStart = true ∧
      kind.name.toList.tail.all Token.isNamePart = true ∧
      kind.name ≠ "let" ∧ kind.name ≠ "as" := by
    cases kind <;> decide
  cases whole : kind.name.toList with
  | nil =>
      rw [whole] at word
      cases word.1
  | cons c others =>
      rw [whole] at word
      refine ⟨c, others, rfl, isNameStart_iff.mp word.1, fun d member => ?_, word.2.2⟩
      exact isNamePart_iff.mp (List.all_eq_true.mp word.2.1 d member)

theorem name_stands {rest : List Char} (kind : Kind) (ends : ¬Follows IsNamePart rest) :
    ∃ lexeme, Stands rest lexeme ∧ lexeme.text = written (.identifier, kind.name) ∧
      lexeme.token? = some (.identifier, kind.name) := by
  rcases kind.name_word with ⟨c, others, whole, starts, inside, free⟩
  have value : String.ofList (c :: others) = kind.name := by
    rw [← whole, String.ofList_toList]
  refine ⟨_, .word starts inside ends, whole.symm, ?_⟩
  simp only [Lexeme.token?, value, if_neg free.1, if_neg free.2]

end Kind

namespace Program

open Declaration (annotated)

variable {text : String} {kind : Kind} {value : Value} {file? : Option String}

theorem writable_annotated (numeral : Numeral text.toList) :
    ∀ content ∈ (annotated "x" text kind).take 5, Writable content := by
  have name : Writable (.identifier, String.ofList ['x']) :=
    .name (by simp [IsNameStart]) nofun (by decide)
  have sign : Writable (.assignment, String.singleton '=') := .mark (by decide)
  have number : Writable (.number, String.ofList text.toList) := .number numeral
  rw [String.ofList_toList] at number
  simp only [annotated, List.take_succ_cons, List.take_zero, List.forall_mem_cons]
  exact ⟨.letKeyword, name, sign, number, .asKeyword, List.forall_mem_nil _⟩

theorem tokenize_annotated (numeral : Numeral text.toList) :
    ∃ tokens, tokenize ("let x = " ++ text ++ " as " ++ kind.name ++ ";") file? = .ok tokens ∧
      tokens.map Token.content = annotated "x" text kind ∧
      tokens[3]?.map Token.start = some ⟨8, file?.getD Token.unnamedFile⟩ := by
  have whole : ("let x = " ++ text ++ " as " ++ kind.name ++ ";").toList =
      (print ((annotated "x" text kind).take 5)).toList ++
        (written (.identifier, kind.name) ++ (written (.semicolon, ";") ++ [])) := by
    simp [annotated, print, written]
  have ends : ¬Follows IsNamePart (written (.semicolon, ";") ++ []) := by
    simp [written, Follows, IsNamePart, IsNameStart, IsDigit]
  have mark : Stands [] ⟨.mark, [';']⟩ := .mark (show (';', .semicolon) ∈ _ by decide)
  rcases kind.name_stands ends with ⟨lexeme, stands, spelled, word⟩
  rw [tokenize, whole, tokenizeFrom_print (writable_annotated numeral),
    tokenizeFrom_placed stands spelled word, tokenizeFrom_placed mark rfl rfl, tokenizeFrom]
  simp only [List.reverse_cons, List.append_nil, List.reverse_reverse]
  refine ⟨_, rfl, ?_, rfl⟩
  simp only [List.map_append, Token.map_content_placedFrom]
  rfl

theorem ofSource_eq_ofNumericText (numeral : Numeral text.toList)
    (read : Value.ofNumericLiteral text = .ok value) (fits : kind.accepts value = true) :
    ofSource ("let x = " ++ text ++ " as " ++ kind.name ++ ";") file? =
      if (Kind.ofNumericText text).accepts value then
        .ok ⟨[.declaration (.holding kind (some "x") value)]⟩
      else Outcome.refuse ⟨.valueKindMismatch value.text (Kind.ofNumericText text).name,
        ⟨8, file?.getD Token.unnamedFile⟩⟩ := by
  rcases @tokenize_annotated text kind file? numeral with ⟨tokens, made, spelled, placed⟩
  rcases @ofTokensFrom_annotated .empty (finishOf _ _) _ _ _ _ _ spelled read fits rfl with
    ⟨token, fourth, runs⟩
  rw [fourth, Option.map_some, Option.some.injEq] at placed
  rw [ofSource, made, ← placed]
  exact runs

theorem ofSource_of_not_oversized (numeral : Numeral text.toList)
    (read : Value.ofNumericLiteral text = .ok value) (fits : kind.accepts value = true)
    (reached : ¬value.Oversized) :
    ofSource ("let x = " ++ text ++ " as " ++ kind.name ++ ";") file? =
      .ok ⟨[.declaration (.holding kind (some "x") value)]⟩ := by
  have taken := (Kind.accepts_ofNumericText numeral read fits).mpr reached
  rw [ofSource_eq_ofNumericText numeral read fits, if_pos taken]

theorem ofSource_of_oversized (numeral : Numeral text.toList)
    (read : Value.ofNumericLiteral text = .ok value) (fits : kind.accepts value = true)
    (oversized : value.Oversized) :
    ofSource ("let x = " ++ text ++ " as " ++ kind.name ++ ";") file? = Outcome.refuse
      ⟨.valueKindMismatch value.text "i64", ⟨8, file?.getD Token.unnamedFile⟩⟩ := by
  have exceeds : ¬(Kind.ofNumericText text).accepts value = true :=
    fun taken => (Kind.accepts_ofNumericText numeral read fits).mp taken oversized
  rcases oversized with ⟨n, rfl, past⟩
  rcases Value.ofNumericLiteral_cases read with ⟨_, _, _, whole⟩ | ⟨_, ⟨⟩, _⟩
  rw [ofSource_eq_ofNumericText numeral read fits, if_neg exceeds, whole]
  rfl

/-- A number is declared under every kind that accepts its value, unless it has no point and is past
64 signed bits: then it is refused, as a value of a kind that was not written. -/
theorem ofSource_annotated (kind : Kind) (file? : Option String) :
    (∀ text value, Numeral text.toList → Value.ofNumericLiteral text = .ok value →
      kind.accepts value = true →
        (¬value.Oversized →
          ofSource ("let x = " ++ text ++ " as " ++ kind.name ++ ";") file? =
            .ok ⟨[.declaration (.holding kind (some "x") value)]⟩) ∧
        (value.Oversized →
          ofSource ("let x = " ++ text ++ " as " ++ kind.name ++ ";") file? =
            Outcome.refuse ⟨.valueKindMismatch value.text "i64",
              ⟨8, file?.getD Token.unnamedFile⟩⟩)) ∧
    ∀ least greatest, kind.bounds? = some (.integer least greatest) →
      ∀ n : Nat, n ≤ greatest.toInt → ∃ value : Int128, value.toInt = n ∧
        (n < 2 ^ 63 →
          ofSource ("let x = " ++ toString n ++ " as " ++ kind.name ++ ";") file? =
            .ok ⟨[.declaration (.holding kind (some "x") (.integer value))]⟩) ∧
        (2 ^ 63 ≤ n →
          ofSource ("let x = " ++ toString n ++ " as " ++ kind.name ++ ";") file? =
            Outcome.refuse ⟨.valueKindMismatch (toString n) "i64",
              ⟨8, file?.getD Token.unnamedFile⟩⟩) := by
  constructor
  · intro text value numeral read fits
    exact ⟨ofSource_of_not_oversized numeral read fits, ofSource_of_oversized numeral read fits⟩
  · intro least greatest bounds n within
    have low : -2 ^ 127 ≤ (n : Int) := by omega
    have high : (n : Int) < 2 ^ 127 := Int.lt_of_le_of_lt within greatest.upper
    have above : least.toInt ≤ n := Int.le_trans (Kind.least_nonpos bounds) (Int.natCast_nonneg n)
    have numeral := Value.numeral_toString n
    have read := @Value.ofNumericLiteral_toString n ⟨n, low, high⟩ rfl
    have fits := (@Kind.accepts_integer kind _ _ ⟨n, low, high⟩ bounds).mpr ⟨above, within⟩
    refine ⟨⟨n, low, high⟩, rfl, fun reached => ?_, fun past => ?_⟩
    · apply ofSource_of_not_oversized numeral read fits
      rintro ⟨_, ⟨⟩, past⟩
      dsimp only at past
      omega
    · apply ofSource_of_oversized numeral read fits
      refine ⟨_, rfl, ?_⟩
      dsimp only
      omega

example : ofSource "let x = 255 as u8;" none =
    .ok ⟨[.declaration ⟨some "x", .u8, some (.integer { toInt := 255 }), Kind.u8.actions⟩]⟩ := by
  cbv

/-- The least integer past 64 signed bits is one of 64 unsigned bits, but cannot be declared so. -/
theorem not_declared_past_signed :
    Numeral "9223372036854775808".toList ∧
      Value.ofNumericLiteral "9223372036854775808" = .ok (.integer { toInt := 2 ^ 63 }) ∧
      Kind.u64.accepts (.integer { toInt := 2 ^ 63 }) = true ∧
      ∀ program, ofSource "let x = 9223372036854775808 as u64;" none ≠ .ok program := by
  have written : toString (2 ^ 63 : Nat) = "9223372036854775808" := by decide +kernel
  have numeral : Numeral "9223372036854775808".toList := written ▸ Value.numeral_toString (2 ^ 63)
  have read : Value.ofNumericLiteral "9223372036854775808" = .ok (.integer { toInt := 2 ^ 63 }) :=
    written ▸ Value.ofNumericLiteral_toString rfl
  have fits : Kind.u64.accepts (.integer { toInt := 2 ^ 63 }) = true := by decide
  refine ⟨numeral, read, fits, fun program declared => ?_⟩
  have refused := @ofSource_of_oversized _ _ _ none numeral read fits ⟨_, rfl, Int.le_refl _⟩
  have same : "let x = " ++ "9223372036854775808" ++ " as " ++ Kind.u64.name ++ ";" =
      "let x = 9223372036854775808 as u64;" := by decide
  rw [same, declared] at refused
  cases refused

end Program
end LetLang
