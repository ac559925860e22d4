import LetLang.Proofs.Value.NormalForm
import LetLang.Token.Literal

/-! A literal token stands for an unnamed, settled variable: a string, or a number of 64 bits. -/
namespace LetLang.Token

theorem literalKind_eq_ok {token : Token} {kind : Kind} :
    token.literalKind = .ok kind ↔
      token.kind = .string ∧ kind = .string ∨
        token.kind = .number ∧ kind = .ofNumericText token.value := by
  rw [literalKind]
  cases token.kind <;> simp [eq_comm]

theorem literal_eq_ok {token : Token} {made : Variable} :
    token.literal = .ok made ↔
      ∃ kind, token.literalKind = .ok kind ∧
        ∃ value, literalValue kind token.value = .ok value ∧
          kind.accepts value = true ∧ made = .holding kind none value := by
  simp only [literal, except_bind_eq_ok, except_mapError_eq_ok, Variable.anonymous_eq_ok]

variable {token : Token} {made : Variable}

theorem literal_settled (read : token.literal = .ok made) : made.Settled := by
  obtain ⟨kind, _, value, _, fits, rfl⟩ := literal_eq_ok.mp read
  exact Variable.settled_holding fits none

theorem literal_unnamed (read : token.literal = .ok made) : made.name? = none := by
  obtain ⟨kind, _, value, _, _, rfl⟩ := literal_eq_ok.mp read
  rfl

theorem literal_kind (read : token.literal = .ok made) :
    token.kind = .string ∧ made.kind = .string ∨
      token.kind = .number ∧ (made.kind = .i64 ∨ made.kind = .f64) := by
  obtain ⟨kind, spelled, value, _, _, rfl⟩ := literal_eq_ok.mp read
  rcases literalKind_eq_ok.mp spelled with ⟨quoted, rfl⟩ | ⟨digits, rfl⟩
  · exact .inl ⟨quoted, rfl⟩
  · refine .inr ⟨digits, ?_⟩
    show Kind.ofNumericText token.value = .i64 ∨ Kind.ofNumericText token.value = .f64
    rw [Kind.ofNumericText]
    split
    · exact .inr rfl
    · exact .inl rfl

theorem literal_actions (read : token.literal = .ok made) :
    token.kind = .string ∧ made.actions = [] ∨
      token.kind = .number ∧ made.actions = Action.number := by
  rw [(literal_settled read).actions]
  rcases literal_kind read with ⟨quoted, kind⟩ | ⟨digits, kind | kind⟩
  · exact .inl ⟨quoted, by rw [kind]; decide⟩
  · exact .inr ⟨digits, by rw [kind]; decide⟩
  · exact .inr ⟨digits, by rw [kind]; decide⟩

theorem literalValue_ofNumericText (text : String) :
    literalValue (.ofNumericText text) text = Value.ofNumericLiteral text := by
  have other : Kind.ofNumericText text ≠ .string := by
    rw [Kind.ofNumericText]
    split
    · decide
    · decide
  rw [literalValue, if_neg other]

theorem literal_number (digits : token.kind = .number) :
    token.literal =
      (Value.ofNumericLiteral token.value >>=
        Variable.anonymous (.ofNumericText token.value)).mapError
          fun cause => ⟨cause, token.start⟩ := by
  rw [literal, literalKind_eq_ok.mpr (.inr ⟨digits, rfl⟩), ← literalValue_ofNumericText]
  rfl

variable {value : Value}

theorem literal_of_accepts (digits : token.kind = .number)
    (read : Value.ofNumericLiteral token.value = .ok value)
    (fits : (Kind.ofNumericText token.value).accepts value = true) :
    token.literal = .ok (.holding (.ofNumericText token.value) none value) := by
  rw [literal_number digits, read]
  show (Variable.anonymous _ value).mapError _ = _
  rw [Variable.anonymous_eq_ok.mpr ⟨fits, rfl⟩]
  rfl

theorem literal_of_not_accepts (digits : token.kind = .number)
    (read : Value.ofNumericLiteral token.value = .ok value)
    (exceeds : ¬(Kind.ofNumericText token.value).accepts value = true) :
    token.literal =
      .error
        ⟨.valueKindMismatch value.text (Kind.ofNumericText token.value).name, token.start⟩ := by
  rw [literal_number digits, read]
  show (Variable.anonymous _ value).mapError _ = _
  rw [Variable.anonymous_eq_error exceeds]
  rfl

theorem literal_of_unread (digits : token.kind = .number) {cause : Cause}
    (failed : Value.ofNumericLiteral token.value = .error cause) :
    token.literal = .error ⟨cause, token.start⟩ := by
  rw [literal_number digits, failed]
  rfl

theorem literal_ne_identifier (read : token.literal = .ok made) : token.kind ≠ .identifier := by
  intro name
  rcases literal_kind read with ⟨quoted, _⟩ | ⟨digits, _⟩
  · rw [name] at quoted
    cases quoted
  · rw [name] at digits
    cases digits

end LetLang.Token
