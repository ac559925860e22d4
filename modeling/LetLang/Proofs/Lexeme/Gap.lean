import LetLang.Proofs.Lexeme.Front

/-! Gaps between tokens: text that makes no token, and that is passed over wherever it stands. -/
namespace LetLang.Lexeme

open Text (byteLength)

/-- Blanks, block comments, and line comments with their line feeds, in any order. -/
inductive Gap : List Char → Prop
  | nil : Gap []
  | blank {c : Char} {rest : List Char} (blank : IsBlank c) (others : Gap rest) : Gap (c :: rest)
  | lineComment {body rest : List Char} (inside : '\n' ∉ body) (others : Gap rest) :
      Gap ('/' :: '/' :: (body ++ '\n' :: rest))
  | blockComment {body rest : List Char} (first : ¬['*', '/'] <:+: body ++ ['*'])
      (others : Gap rest) : Gap ('/' :: '*' :: (body ++ '*' :: '/' :: rest))

/-- A gap that a blank opens. No token goes on over the blank. -/
structure Separates (gap : List Char) : Prop where
  passed : Gap gap
  opened : Follows IsBlank gap

variable {file : String} {offset : Nat} {before : List Token}
variable {text body front rest other : List Char} {lexeme : Lexeme}

theorem tokenizeFrom_stands (stands : Stands rest lexeme) :
    Token.tokenizeFrom file offset before (lexeme.text ++ rest) =
      Token.tokenizeFrom file (offset + byteLength lexeme.text)
        ((Token.Piece.token ⟨lexeme.token?, lexeme.text, rest⟩ file offset).toList ++ before)
        rest := by
  cases whole : lexeme.text ++ rest with
  | nil =>
      have empty := (List.append_eq_nil_iff.mp whole).1
      exact absurd empty stands.text_ne_nil
  | cons c chars =>
      have scanned := scan_of_stands stands whole
      rw [Token.tokenizeFrom]
      split
      · rename_i failed
        rw [scanned] at failed
        cases failed
      · rename_i read
        rw [scanned] at read
        cases read
        rfl

theorem tokenizeFrom_dropped (stands : Stands rest lexeme) (unmarked : lexeme.token? = none) :
    Token.tokenizeFrom file offset before (lexeme.text ++ rest) =
      Token.tokenizeFrom file (offset + byteLength lexeme.text) before rest := by
  have nothing : Token.Piece.token ⟨lexeme.token?, lexeme.text, rest⟩ file offset = none := by
    simp [Token.Piece.token, unmarked]
  rw [tokenizeFrom_stands stands, nothing]
  rfl

/-! Blanks are passed over together with the blanks behind them, so these may be cut anywhere. -/

theorem tokenizeFrom_allBlanks (inside : ∀ c ∈ text, IsBlank c) (ends : ¬Follows IsBlank rest) :
    Token.tokenizeFrom file offset before (text ++ rest) =
      Token.tokenizeFrom file (offset + byteLength text) before rest := by
  by_cases empty : text = []
  · rw [empty]
    rfl
  · exact tokenizeFrom_dropped (.blanks empty inside ends) rfl

theorem tokenizeFrom_blanks (inside : ∀ c ∈ text, IsBlank c) (rest : List Char) :
    Token.tokenizeFrom file offset before (text ++ rest) =
      Token.tokenizeFrom file (offset + byteLength text) before rest := by
  rcases split : Text.cut Token.isBlank rest with ⟨more, after⟩
  rcases (Text.cut_eq_iff fun _ => isBlank_iff).mp split with ⟨whole, blank, ends⟩
  have both : ∀ c ∈ text ++ more, IsBlank c := by
    intro c member
    rcases List.mem_append.mp member with first | second
    · exact inside c first
    · exact blank c second
  -- Blanks at the front of `rest` are dropped on either side, so both come to `after`.
  calc
    _ = Token.tokenizeFrom file offset before ((text ++ more) ++ after) := by
      rw [whole, List.append_assoc]
    _ = Token.tokenizeFrom file (offset + byteLength (text ++ more)) before after :=
      tokenizeFrom_allBlanks both ends
    _ = Token.tokenizeFrom file (offset + byteLength text + byteLength more) before after := by
      rw [Text.offset_append]
    _ = Token.tokenizeFrom file (offset + byteLength text) before rest := by
      rw [whole, tokenizeFrom_allBlanks blank ends]

theorem tokenizeFrom_lineComment (inside : '\n' ∉ body) (rest : List Char) :
    Token.tokenizeFrom file offset before ('/' :: '/' :: (body ++ '\n' :: rest)) =
      Token.tokenizeFrom file (offset + byteLength ('/' :: '/' :: (body ++ ['\n']))) before
        rest := by
  have comment : Stands ('\n' :: rest) ⟨.lineComment, '/' :: '/' :: body⟩ :=
    .lineComment inside (.inr rfl)
  have feed : ∀ c ∈ ['\n'], IsBlank c := by simp [IsBlank]
  have lengths : byteLength ('/' :: '/' :: (body ++ ['\n'])) =
      byteLength ('/' :: '/' :: body) + byteLength ['\n'] :=
    Text.byteLength_append ('/' :: '/' :: body) ['\n']
  rw [lengths, ← Nat.add_assoc]
  exact (tokenizeFrom_dropped comment rfl).trans (tokenizeFrom_blanks feed rest)

theorem tokenizeFrom_blockComment (first : ¬['*', '/'] <:+: body ++ ['*']) (rest : List Char) :
    Token.tokenizeFrom file offset before ('/' :: '*' :: (body ++ '*' :: '/' :: rest)) =
      Token.tokenizeFrom file (offset + byteLength ('/' :: '*' :: (body ++ ['*', '/']))) before
        rest := by
  have comment : Stands rest ⟨.blockComment, '/' :: '*' :: (body ++ ['*', '/'])⟩ :=
    .blockComment first
  have whole : '/' :: '*' :: (body ++ '*' :: '/' :: rest) =
      '/' :: '*' :: (body ++ ['*', '/']) ++ rest := by
    simp
  rw [whole]
  exact tokenizeFrom_dropped comment rfl

theorem tokenizeFrom_gap {gap : List Char} (passed : Gap gap) (rest : List Char) :
    Token.tokenizeFrom file offset before (gap ++ rest) =
      Token.tokenizeFrom file (offset + byteLength gap) before rest := by
  induction passed generalizing offset with
  | nil => rfl
  | @blank c others blank _ ih =>
      have alone : ∀ d ∈ [c], IsBlank d := by simpa using blank
      have step := @tokenizeFrom_blanks file offset before [c] alone (others ++ rest)
      have lengths := Text.byteLength_append [c] others
      rw [← List.singleton_append, lengths, ← Nat.add_assoc, List.append_assoc, step, ih]
  | @lineComment body others inside _ ih =>
      have step := @tokenizeFrom_lineComment file offset before body inside (others ++ rest)
      have lengths := Text.byteLength_append ('/' :: '/' :: (body ++ ['\n'])) others
      simp only [List.cons_append, List.append_assoc, List.nil_append] at lengths step ⊢
      rw [lengths, ← Nat.add_assoc, step, ih]
  | @blockComment body others first _ ih =>
      have step := @tokenizeFrom_blockComment file offset before body first (others ++ rest)
      have lengths := Text.byteLength_append ('/' :: '*' :: (body ++ ['*', '/'])) others
      simp only [List.cons_append, List.append_assoc, List.nil_append] at lengths step ⊢
      rw [lengths, ← Nat.add_assoc, step, ih]

/-! A token still stands there when a blank comes to follow somewhere behind it. -/

theorem isBlank_not_isNamePart {c : Char} (blank : IsBlank c) : ¬IsNamePart c := by
  intro part
  have visible := (isNamePart_apart part).1
  rw [isBlank_iff.mpr blank] at visible
  cases visible

theorem follows_append_iff {holds : Char → Prop} (apart : ∀ c, IsBlank c → ¬holds c)
    (blank : Follows IsBlank other) :
    Follows holds (front ++ other) ↔ front ≠ [] ∧ Follows holds (front ++ rest) := by
  cases front with
  | nil =>
      rcases blank with ⟨c, first, blank⟩
      simp only [List.nil_append, ne_eq, not_true_eq_false, false_and, iff_false]
      intro follows
      rcases follows with ⟨d, second, holds⟩
      have same : c = d := Option.some.inj (first.symm.trans second)
      exact apart c blank (same ▸ holds)
  | cons c others => simp [Follows]

theorem followsFraction_of_blank (blank : Follows IsBlank other)
    (fraction : FollowsFraction (front ++ other)) : FollowsFraction (front ++ rest) := by
  have digitless : ∀ c, IsBlank c → ¬IsDigit c :=
    fun c blank digit => isBlank_not_isNamePart blank (.inr digit)
  rcases fraction with ⟨point, digit⟩
  rcases front with _ | ⟨c, others⟩
  · rcases blank with ⟨d, first, blank⟩
    have same : d = '.' := Option.some.inj (first.symm.trans point)
    rw [same] at blank
    simp [IsBlank] at blank
  · have behind : Follows IsDigit (others ++ rest) :=
      ((@follows_append_iff others rest other IsDigit digitless blank).mp digit).2
    exact ⟨point, behind⟩

theorem Stands.before_blank (stands : Stands (front ++ rest) lexeme)
    (marked : lexeme.token? ≠ none) (blank : Follows IsBlank other) :
    Stands (front ++ other) lexeme := by
  have nonempty : front ++ other ≠ [] := by
    rcases blank with ⟨c, first, _⟩
    intro empty
    rw [(List.append_eq_nil_iff.mp empty).2] at first
    cases first
  have kept : ∀ {holds : Char → Prop}, (∀ c, IsBlank c → ¬holds c) →
      ¬Follows holds (front ++ rest) → ¬Follows holds (front ++ other) :=
    fun apart ends follows => ends ((follows_append_iff apart blank).mp follows).2
  have nameless : ∀ c, IsBlank c → ¬IsNamePart c := fun _ => isBlank_not_isNamePart
  have digitless : ∀ c, IsBlank c → ¬IsDigit c :=
    fun c blank digit => nameless c blank (.inr digit)
  cases stands with
  | blanks => exact absurd rfl marked
  | lineComment => exact absurd rfl marked
  | blockComment => exact absurd rfl marked
  | word starts inside ends => exact .word starts inside (kept nameless ends)
  | whole digits inside ends unbroken followed =>
      have still : ¬FollowsFraction (front ++ other) :=
        fun fraction => unbroken (followsFraction_of_blank blank fraction)
      exact .whole digits inside (kept digitless ends) still nonempty
  | fraction digits inside more behind ends followed =>
      exact .fraction digits inside more behind (kept digitless ends) nonempty
  | string inside => exact .string inside
  | mark listed => exact .mark listed
  | operator listed opens =>
      refine .operator listed fun slash => kept ?_ (opens slash)
      intro c blank symbol
      rcases symbol with rfl | rfl
      all_goals simp [IsBlank] at blank

end LetLang.Lexeme
