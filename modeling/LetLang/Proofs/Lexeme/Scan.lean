import LetLang.Proofs.Lexeme.Cut

/-! Where a lexeme stands at the front of a text, the scan cuts off exactly that piece. -/
namespace LetLang.Lexeme

variable {c : Char} {rest chars : List Char} {lexeme : Lexeme}

def shapeAt? (c : Char) (rest : List Char) : Option Shape :=
  if Token.isBlank c then some .blanks
  else if c = '/' ∧ rest.head? = some '/' then some .lineComment
  else if c = '/' ∧ rest.head? = some '*' then some .blockComment
  else if Token.isNameStart c then some .word
  else if c.isDigit then some .number
  else if c = '"' then some .string
  else if (Token.structural? c).isSome then some .mark
  else if Token.isOperator c then some .operator
  else none

theorem isNamePart_apart (part : IsNamePart c) : Token.isBlank c = false ∧ c ≠ '/' := by
  constructor
  · rw [← Bool.not_eq_true, isBlank_iff]
    intro blank
    rcases blank with same | same | same | same
    all_goals
      rw [same] at part
      simp [IsNamePart, IsNameStart, IsDigit] at part
  · intro same
    rw [same] at part
    simp [IsNamePart, IsNameStart, IsDigit] at part

theorem not_isNameStart_of_isDigit (digit : IsDigit c) : ¬IsNameStart c := by
  intro starts
  rcases starts with lower | upper | same
  · exact absurd (Char.le_trans lower.1 digit.2) (by decide)
  · exact absurd (Char.le_trans upper.1 digit.2) (by decide)
  · rw [same] at digit
    simp [IsDigit] at digit

theorem shapeAt?_nameStart (starts : IsNameStart c) : shapeAt? c rest = some .word := by
  rcases isNamePart_apart (.inl starts) with ⟨visible, other⟩
  simp [shapeAt?, visible, other, isNameStart_iff.mpr starts]

theorem shapeAt?_digit (digit : IsDigit c) : shapeAt? c rest = some .number := by
  rcases isNamePart_apart (.inr digit) with ⟨visible, other⟩
  have unnamed : Token.isNameStart c = false := by
    rw [← Bool.not_eq_true, isNameStart_iff]
    exact not_isNameStart_of_isDigit digit
  simp [shapeAt?, visible, other, unnamed, isDigit_iff.mpr digit]

theorem shapeAt?_mark {kind : TokenKind} (listed : (c, kind) ∈ marks) :
    shapeAt? c rest = some .mark := by
  have known : ∀ entry ∈ marks, entry.1 ≠ '/' ∧ shapeAt? entry.1 [] = some .mark := by
    decide
  rcases known _ listed with ⟨other, chosen⟩
  simpa [shapeAt?, other] using chosen

theorem mark_symbol {kind : TokenKind} (listed : (c, kind) ∈ marks) :
    Token.structural? c = some kind ∧ marks.lookup c = some kind := by
  have known : ∀ entry ∈ marks,
      Token.structural? entry.1 = some entry.2 ∧ marks.lookup entry.1 = some entry.2 := by
    decide
  exact known _ listed

theorem operator_symbol (listed : c ∈ operators) :
    Token.structural? c = none ∧ Token.isOperator c = true := by
  refine ⟨?_, isOperator_iff.mpr listed⟩
  simp only [operators, List.mem_cons, List.not_mem_nil, or_false] at listed
  rcases listed with rfl | rfl | rfl | rfl | rfl
  all_goals rfl

theorem shapeAt?_operator (listed : c ∈ operators)
    (opens : c = '/' → ¬Follows (fun next => next = '/' ∨ next = '*') rest) :
    shapeAt? c rest = some .operator := by
  have line : ¬(c = '/' ∧ rest.head? = some '/') :=
    fun both => opens both.1 ⟨'/', both.2, .inl rfl⟩
  have block : ¬(c = '/' ∧ rest.head? = some '*') :=
    fun both => opens both.1 ⟨'*', both.2, .inr rfl⟩
  rcases operator_symbol listed with ⟨unstructured, spelled⟩
  simp only [shapeAt?, if_neg line, if_neg block, unstructured, spelled]
  simp only [operators, List.mem_cons, List.not_mem_nil, or_false] at listed
  rcases listed with rfl | rfl | rfl | rfl | rfl
  all_goals decide

theorem Stands.shapeAt?_eq (stands : Stands rest lexeme)
    (whole : lexeme.text ++ rest = c :: chars) : shapeAt? c chars = some lexeme.shape := by
  cases stands with
  | @blanks text nonempty inside ends =>
      rcases text with _ | ⟨first, others⟩
      · exact absurd rfl nonempty
      · rcases List.cons.inj whole with ⟨rfl, _⟩
        have blank := isBlank_iff.mpr (inside first List.mem_cons_self)
        simp [shapeAt?, blank]
  | lineComment inside ends =>
      rcases List.cons.inj whole with ⟨rfl, rfl⟩
      simp [shapeAt?, Token.isBlank]
  | blockComment first =>
      rcases List.cons.inj whole with ⟨rfl, rfl⟩
      simp [shapeAt?, Token.isBlank]
  | word starts inside ends =>
      rcases List.cons.inj whole with ⟨rfl, _⟩
      exact shapeAt?_nameStart starts
  | @whole digits nonempty inside ends unbroken followed =>
      rcases digits with _ | ⟨first, others⟩
      · exact absurd rfl nonempty
      · rcases List.cons.inj whole with ⟨rfl, _⟩
        exact shapeAt?_digit (inside first List.mem_cons_self)
  | @fraction digits decimals nonempty inside more behind ends followed =>
      rcases digits with _ | ⟨first, others⟩
      · exact absurd rfl nonempty
      · rcases List.cons.inj whole with ⟨rfl, _⟩
        exact shapeAt?_digit (inside first List.mem_cons_self)
  | string inside =>
      rcases List.cons.inj whole with ⟨rfl, _⟩
      simp [shapeAt?, Token.isBlank, Token.isNameStart]
  | mark listed =>
      rcases List.cons.inj whole with ⟨rfl, _⟩
      exact shapeAt?_mark listed
  | operator listed opens =>
      rcases List.cons.inj whole with ⟨rfl, rfl⟩
      exact shapeAt?_operator listed opens

theorem scan_eq (c : Char) (rest : List Char) :
    Token.scan c rest = match shapeAt? c rest with
      | some .blanks => .ok (Token.skip (Text.cut Token.isBlank (c :: rest)))
      | some .lineComment => .ok (Token.skip (Text.cut (· ≠ '\n') (c :: rest)))
      | some .blockComment =>
        match Token.cutComment [] rest.tail with
        | some (body, rest) => .ok ⟨none, '/' :: '*' :: body, rest⟩
        | none => .error .unterminatedComment
      | some .word => .ok (Token.word (Text.cut Token.isNamePart (c :: rest)))
      | some .number => Token.number (Token.cutNumber (c :: rest))
      | some .string => Token.quoted rest
      | some .mark | some .operator | none => Token.symbol c rest := by
  rw [Token.scan, shapeAt?]
  iterate 6
    split
    · rfl
  by_cases mark : (Token.structural? c).isSome = true
  · rw [if_pos mark]
  · by_cases operator : Token.isOperator c = true
    · rw [if_neg mark, if_pos operator]
    · rw [if_neg mark, if_neg operator]

theorem ofWord_eq (word : String) :
    TokenKind.ofWord word =
      if word = "let" then .letKeyword else if word = "as" then .asKeyword else .identifier := by
  by_cases first : word = "let"
  · rw [first]
    rfl
  · by_cases second : word = "as"
    · rw [second]
      rfl
    · have unlisted : TokenKind.reserved.lookup word = none := by
        simp [TokenKind.reserved, first, second]
      rw [TokenKind.ofWord, unlisted, if_neg first, if_neg second]
      rfl

theorem scan_of_stands (stands : Stands rest lexeme) (whole : lexeme.text ++ rest = c :: chars) :
    Token.scan c chars = .ok ⟨lexeme.token?, lexeme.text, rest⟩ := by
  have chosen := stands.shapeAt?_eq whole
  rw [scan_eq, chosen]
  cases stands with
  | @blanks text nonempty inside ends =>
      have split : Text.cut Token.isBlank (c :: chars) = (text, rest) :=
        (Text.cut_eq_iff fun _ => isBlank_iff).mpr ⟨whole.symm, inside, ends⟩
      simp only [split]
      rfl
  | @lineComment body inside ends =>
      have split : Text.cut (· ≠ '\n') (c :: chars) = ('/' :: '/' :: body, rest) :=
        Text.cut_until_iff.mpr ⟨whole.symm, by simp [inside], ends⟩
      simp only [split]
      rfl
  | @blockComment body first =>
      simp only [List.cons_append, List.append_assoc, List.nil_append, List.cons.injEq] at whole
      rcases whole with ⟨rfl, rfl⟩
      have split : Token.cutComment [] (body ++ '*' :: '/' :: rest) =
          some (body ++ ['*', '/'], rest) :=
        Token.cutComment_eq_some.mpr ⟨body, rfl, rfl, first⟩
      simp only [List.tail_cons, split]
      rfl
  | @word first others starts inside ends =>
      have text : ∀ d ∈ first :: others, IsNamePart d :=
        List.forall_mem_cons.mpr ⟨.inl starts, inside⟩
      have split : Text.cut Token.isNamePart (c :: chars) = (first :: others, rest) :=
        (Text.cut_eq_iff fun _ => isNamePart_iff).mpr ⟨whole.symm, text, ends⟩
      simp only [split, Token.word, token?, ofWord_eq]
      split
      · rfl
      · split
        · rfl
        · rfl
  | @whole digits nonempty inside ends unbroken followed =>
      have split : Token.cutNumber (c :: chars) = (digits, rest) := by
        rw [← whole]
        exact Token.cutNumber_whole inside ends unbroken
      rw [split]
      exact Token.number_eq_ok.mpr ⟨followed, rfl⟩
  | @fraction digits decimals nonempty inside more behind ends followed =>
      have split : Token.cutNumber (c :: chars) = (digits ++ '.' :: decimals, rest) := by
        rw [← whole, List.append_assoc]
        exact Token.cutNumber_fraction inside more behind ends
      rw [split]
      exact Token.number_eq_ok.mpr ⟨followed, rfl⟩
  | @string body inside =>
      simp only [List.cons_append, List.append_assoc, List.nil_append, List.cons.injEq] at whole
      rcases whole with ⟨rfl, rfl⟩
      have split : Text.cut (· ≠ '"') (body ++ '"' :: rest) = (body, '"' :: rest) :=
        Text.cut_until_iff.mpr ⟨rfl, inside, .inr rfl⟩
      simp only [Token.quoted, split]
      simp [token?]
  | mark listed =>
      rcases List.cons.inj whole with ⟨rfl, rfl⟩
      rcases mark_symbol listed with ⟨known, found⟩
      simp [Token.symbol, known, found, token?]
  | operator listed opens =>
      rcases List.cons.inj whole with ⟨rfl, rfl⟩
      rcases operator_symbol listed with ⟨known, spelled⟩
      simp [Token.symbol, known, spelled, token?]

end LetLang.Lexeme
