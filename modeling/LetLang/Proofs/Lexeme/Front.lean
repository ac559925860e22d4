import LetLang.Proofs.Lexeme.Scan

/-! A piece is scanned exactly where a lexeme stands, and only one can. -/
namespace LetLang.Lexeme

variable {c : Char} {chars rest : List Char}

def Opens (chars : List Char) : Prop :=
  ∃ lexeme rest, Stands rest lexeme ∧ lexeme.text ++ rest = chars

theorem opens_blanks (blank : IsBlank c) : Opens (c :: chars) := by
  have nonempty := Text.cut_ne_nil (isBlank_iff.mpr blank) chars
  rcases split : Text.cut Token.isBlank (c :: chars) with ⟨text, rest⟩
  rw [split] at nonempty
  rcases (Text.cut_eq_iff fun _ => isBlank_iff).mp split with ⟨whole, inside, ends⟩
  exact ⟨⟨.blanks, text⟩, rest, .blanks nonempty inside ends, whole.symm⟩

theorem opens_lineComment : Opens ('/' :: '/' :: chars) := by
  rcases split : Text.cut (· ≠ '\n') chars with ⟨body, rest⟩
  rcases Text.cut_until_iff.mp split with ⟨whole, inside, ends⟩
  exact ⟨⟨.lineComment, '/' :: '/' :: body⟩, rest, .lineComment inside ends, by rw [whole]; rfl⟩

theorem opens_blockComment {found : List Char × List Char}
    (closed : Token.cutComment [] chars = some found) : Opens ('/' :: '*' :: chars) := by
  rcases Token.cutComment_eq_some.mp closed with ⟨body, _, whole, first⟩
  exact ⟨⟨.blockComment, '/' :: '*' :: (body ++ ['*', '/'])⟩, found.2, .blockComment first,
    by simp [whole]⟩

theorem opens_word (starts : IsNameStart c) : Opens (c :: chars) := by
  rcases split : Text.cut Token.isNamePart chars with ⟨others, rest⟩
  rcases (Text.cut_eq_iff fun _ => isNamePart_iff).mp split with ⟨whole, inside, ends⟩
  exact ⟨⟨.word, c :: others⟩, rest, .word starts inside ends, by rw [whole]; rfl⟩

theorem opens_number {piece : Token.Piece} (digit : IsDigit c)
    (scanned : Token.number (Token.cutNumber (c :: chars)) = .ok piece) : Opens (c :: chars) := by
  rcases Token.cutNumber_cases digit chars with
    ⟨digits, nonempty, inside, ⟨rest, whole, cut, ends, unbroken⟩ |
      ⟨decimals, rest, whole, cut, more, behind, ends⟩⟩
  · rw [cut] at scanned
    have followed := (Token.number_eq_ok.mp scanned).1
    exact ⟨⟨.number, digits⟩, rest, .whole nonempty inside ends unbroken followed, whole.symm⟩
  · rw [cut] at scanned
    have followed := (Token.number_eq_ok.mp scanned).1
    exact ⟨⟨.number, digits ++ '.' :: decimals⟩, rest,
      .fraction nonempty inside more behind ends followed, whole.symm⟩

theorem opens_string {piece : Token.Piece} (scanned : Token.quoted chars = .ok piece) :
    Opens ('"' :: chars) := by
  rcases split : Text.cut (· ≠ '"') chars with ⟨body, rest⟩
  rcases Text.cut_until_iff.mp split with ⟨whole, inside, ends⟩
  cases rest with
  | nil =>
      simp only [Token.quoted, split] at scanned
      cases scanned
  | cons quote after =>
      have closes : quote = '"' := by simpa using ends
      exact ⟨⟨.string, '"' :: (body ++ ['"'])⟩, after, .string inside, by simp [whole, closes]⟩

theorem mem_marks {kind : TokenKind} (known : Token.structural? c = some kind) :
    (c, kind) ∈ marks := by
  unfold Token.structural? at known
  split at known
  all_goals
    cases known
  all_goals decide

theorem opens_symbol {piece : Token.Piece} (scanned : Token.symbol c chars = .ok piece)
    (line : ¬(c = '/' ∧ chars.head? = some '/')) (block : ¬(c = '/' ∧ chars.head? = some '*')) :
    Opens (c :: chars) := by
  rw [Token.symbol] at scanned
  split at scanned
  · rename_i kind known
    exact ⟨⟨.mark, [c]⟩, chars, .mark (mem_marks known), rfl⟩
  · split at scanned
    · rename_i spelled
      refine ⟨⟨.operator, [c]⟩, chars, .operator (isOperator_iff.mp spelled) ?_, rfl⟩
      intro slash follows
      rcases follows with ⟨next, head, same | same⟩
      · exact line ⟨slash, same ▸ head⟩
      · exact block ⟨slash, same ▸ head⟩
    · cases scanned

theorem opens_of_scan {piece : Token.Piece} (scanned : Token.scan c chars = .ok piece) :
    Opens (c :: chars) := by
  rw [Token.scan] at scanned
  split at scanned
  · rename_i blank
    exact opens_blanks (isBlank_iff.mp blank)
  split at scanned
  · rename_i line
    rcases line with ⟨rfl, second⟩
    rcases List.head?_eq_some_iff.mp second with ⟨others, rfl⟩
    exact opens_lineComment
  rename_i line
  split at scanned
  · rename_i block
    rcases block with ⟨rfl, second⟩
    rcases List.head?_eq_some_iff.mp second with ⟨others, rfl⟩
    split at scanned
    · rename_i closed
      exact opens_blockComment closed
    · cases scanned
  rename_i block
  split at scanned
  · rename_i starts
    exact opens_word (isNameStart_iff.mp starts)
  split at scanned
  · rename_i digit
    exact opens_number (isDigit_iff.mp digit) scanned
  split at scanned
  · rename_i quote
    rw [quote]
    exact opens_string scanned
  · exact opens_symbol scanned line block

theorem scan_eq_ok {piece : Token.Piece} :
    Token.scan c chars = .ok piece ↔
      ∃ lexeme rest, Stands rest lexeme ∧ lexeme.text ++ rest = c :: chars ∧
        piece = ⟨lexeme.token?, lexeme.text, rest⟩ := by
  constructor
  · intro scanned
    rcases opens_of_scan scanned with ⟨lexeme, rest, stands, whole⟩
    rw [scan_of_stands stands whole, Except.ok.injEq] at scanned
    exact ⟨lexeme, rest, stands, whole, scanned.symm⟩
  · intro split
    rcases split with ⟨lexeme, rest, stands, whole, rfl⟩
    exact scan_of_stands stands whole

theorem Stands.text_ne_nil {lexeme : Lexeme} (stands : Stands rest lexeme) : lexeme.text ≠ [] := by
  cases stands with
  | blanks nonempty => exact nonempty
  | whole nonempty => exact nonempty
  | _ => simp

theorem Stands.visible {lexeme : Lexeme} (stands : Stands rest lexeme)
    (marked : lexeme.token? ≠ none) : Follows (¬IsBlank ·) (lexeme.text ++ rest) := by
  cases whole : lexeme.text ++ rest with
  | nil =>
      have empty := (List.append_eq_nil_iff.mp whole).1
      exact absurd empty stands.text_ne_nil
  | cons c chars =>
      refine ⟨c, rfl, fun blank => ?_⟩
      have shape := stands.shapeAt?_eq whole
      rw [shapeAt?, if_pos (isBlank_iff.mpr blank)] at shape
      have blanks : lexeme.shape = .blanks := (Option.some.inj shape).symm
      exact marked (by simp [token?, blanks])

theorem Stands.unique {first second : Lexeme} {behind after : List Char}
    (one : Stands behind first) (other : Stands after second)
    (same : first.text ++ behind = second.text ++ after) : first = second ∧ behind = after := by
  rcases whole : first.text ++ behind with _ | ⟨c, chars⟩
  · exact absurd (List.append_eq_nil_iff.mp whole).1 one.text_ne_nil
  · have again : second.text ++ after = c :: chars := same.symm.trans whole
    have scanned := (scan_of_stands one whole).symm.trans (scan_of_stands other again)
    have chosen := (one.shapeAt?_eq whole).symm.trans (other.shapeAt?_eq again)
    simp only [Except.ok.injEq, Token.Piece.mk.injEq] at scanned
    rcases scanned with ⟨_, text, left⟩
    exact ⟨Lexeme.ext (Option.some.inj chosen) text, left⟩

end LetLang.Lexeme
