import Mathlib
import LetLang.Proofs.Lexeme.Front

/-! Source text becomes the tokens of its lexemes, and there is one way to read it. -/
namespace LetLang.Lexeme

open Text (byteLength)

variable {c : Char} {chars rest : List Char} {lexeme : Lexeme} {lexemes others : List Lexeme}
variable {file : String} {offset : Nat} {token : Token} {tokens : List Token}

theorem reads_nil : Reads [] lexemes ↔ lexemes = [] := by
  constructor
  · intro reads
    generalize empty : [] = chars at reads
    cases reads with
    | done => rfl
    | piece first others =>
        exact absurd (List.append_eq_nil_iff.mp empty.symm).1 first.text_ne_nil
  · intro none
    rw [none]
    exact .done

theorem reads_append (first : Stands rest lexeme) :
    Reads (lexeme.text ++ rest) lexemes ↔
      ∃ others, lexemes = lexeme :: others ∧ Reads rest others := by
  constructor
  · intro reads
    generalize whole : lexeme.text ++ rest = chars at reads
    cases reads with
    | done => exact absurd (List.append_eq_nil_iff.mp whole).1 first.text_ne_nil
    | @piece second after others stands behind =>
        rcases first.unique stands whole with ⟨rfl, rfl⟩
        exact ⟨others, rfl, behind⟩
  · intro split
    rcases split with ⟨others, rfl, behind⟩
    exact .piece first behind

theorem Reads.opens (reads : Reads (c :: chars) lexemes) : Opens (c :: chars) := by
  generalize whole : c :: chars = text at reads
  cases reads with
  | done => cases whole
  | piece first others => exact ⟨_, _, first, rfl⟩

theorem Reads.unique {second : List Lexeme} (one : Reads chars lexemes)
    (other : Reads chars second) : lexemes = second := by
  induction one generalizing second with
  | done => exact (reads_nil.mp other).symm
  | piece first others ih =>
      rcases (reads_append first).mp other with ⟨behind, rfl, more⟩
      rw [ih more]

theorem position_eq_iff {position : Position} (short : offset < 2 ^ 32) :
    position = ⟨.ofNat offset, file⟩ ↔ position.offset.toNat = offset ∧ position.file = file := by
  have kept : (UInt32.ofNat offset).toNat = offset := UInt32.toNat_ofNat_of_lt' short
  constructor
  · intro same
    rw [same]
    exact ⟨kept, rfl⟩
  · intro same
    rcases position with ⟨place, name⟩
    rcases same with ⟨reached, rfl⟩
    have equal : place = .ofNat offset := UInt32.toNat_inj.mp (reached.trans kept.symm)
    rw [equal]

theorem spells_iff (short : offset + byteLength lexeme.text < 2 ^ 32) :
    Spells file offset lexeme token ↔
      Token.Piece.token ⟨lexeme.token?, lexeme.text, rest⟩ file offset = some token := by
  have starts : offset < 2 ^ 32 := by omega
  rcases token with ⟨kind, value, start, stop⟩
  simp only [Token.Piece.token, Option.map_eq_some_iff, Prod.exists, Token.mk.injEq,
    Span.mk.injEq]
  constructor
  · intro spells
    refine ⟨kind, value, spells.written, rfl, rfl, ?_, ?_⟩
    · exact ((position_eq_iff starts).mpr ⟨spells.start, spells.startFile⟩).symm
    · exact ((position_eq_iff short).mpr ⟨spells.stop, spells.stopFile⟩).symm
  · intro made
    rcases made with ⟨_, _, written, rfl, rfl, first, last⟩
    rcases (position_eq_iff starts).mp first.symm with ⟨start, startFile⟩
    rcases (position_eq_iff short).mp last.symm with ⟨stop, stopFile⟩
    exact ⟨written, start, stop, startFile, stopFile⟩

theorem Spells.marked (spells : Spells file offset lexeme token) : lexeme.token? ≠ none := by
  rw [spells.written]
  exact Option.some_ne_none _

theorem yields_nil : Yields file offset [] tokens ↔ tokens = [] := by
  constructor
  · intro yields
    cases yields
    rfl
  · intro none
    rw [none]
    exact .done

theorem yields_cons (rest : List Char) (short : offset + byteLength lexeme.text < 2 ^ 32) :
    Yields file offset (lexeme :: lexemes) tokens ↔
      ∃ behind, tokens =
        (Token.Piece.token ⟨lexeme.token?, lexeme.text, rest⟩ file offset).toList ++ behind ∧
        Yields file (offset + byteLength lexeme.text) lexemes behind := by
  constructor
  · intro yields
    cases yields with
    | dropped unmarked others =>
        refine ⟨tokens, ?_, others⟩
        simp [Token.Piece.token, unmarked]
    | @token _ _ _ token behind first others =>
        refine ⟨behind, ?_, others⟩
        rw [(spells_iff short).mp first]
        rfl
  · intro split
    rcases split with ⟨behind, rfl, others⟩
    cases made : Token.Piece.token ⟨lexeme.token?, lexeme.text, rest⟩ file offset with
    | none =>
        have unmarked : lexeme.token? = none := Option.map_eq_none_iff.mp made
        exact .dropped unmarked others
    | some token => exact .token ((spells_iff short).mpr made) others

theorem reverse_toList_append (made : Option Token) (before behind : List Token) :
    (made.toList ++ before).reverse ++ behind = before.reverse ++ (made.toList ++ behind) := by
  have single : made.toList.reverse = made.toList := by
    cases made with
    | none => rfl
    | some token => rfl
  calc
    _ = before.reverse ++ made.toList.reverse ++ behind := by rw [List.reverse_append]
    _ = before.reverse ++ (made.toList ++ behind) := by rw [single, List.append_assoc]

theorem tokenizeFrom_eq_ok {before : List Token} (short : offset + byteLength chars < 2 ^ 32) :
    Token.tokenizeFrom file offset before chars = .ok tokens ↔
      ∃ lexemes behind, Reads chars lexemes ∧ Yields file offset lexemes behind ∧
        tokens = before.reverse ++ behind := by
  fun_induction Token.tokenizeFrom file offset before chars with
  | case1 offset before => simp [reads_nil, yields_nil, eq_comm]
  | case2 offset before c rest cause failed =>
      simp only [reduceCtorEq, false_iff]
      intro split
      rcases split with ⟨lexemes, behind, reads, _⟩
      rcases reads.opens with ⟨lexeme, after, stands, whole⟩
      rw [scan_of_stands stands whole] at failed
      cases failed
  | case3 offset before c rest piece scanned ih =>
      rcases scan_eq_ok.mp scanned with ⟨lexeme, after, stands, whole, rfl⟩
      rw [← whole, Text.byteLength_append] at short
      rw [ih (by dsimp only; omega), ← whole]
      have front : offset + byteLength lexeme.text < 2 ^ 32 := by omega
      constructor
      · intro split
        rcases split with ⟨lexemes, behind, reads, yields, rfl⟩
        refine ⟨lexeme :: lexemes, _, .piece stands reads,
          (yields_cons after front).mpr ⟨_, rfl, yields⟩, ?_⟩
        exact reverse_toList_append _ before behind
      · intro split
        rcases split with ⟨lexemes, behind, reads, yields, rfl⟩
        rcases (reads_append stands).mp reads with ⟨others, rfl, more⟩
        rcases (yields_cons after front).mp yields with ⟨later, rfl, following⟩
        refine ⟨others, later, more, following, ?_⟩
        exact (reverse_toList_append _ before later).symm

theorem exists_reads {source : String} {file? : Option String}
    (short : source.utf8ByteSize < 2 ^ 32) (read : Token.tokenize source file? = .ok tokens) :
    ∃ lexemes, Reads source.toList lexemes ∧
      Yields (file?.getD Token.unnamedFile) 0 lexemes tokens := by
  have bytes : 0 + byteLength source.toList < 2 ^ 32 := by
    rw [Text.byteLength_toList, Nat.zero_add]
    exact short
  rcases (tokenizeFrom_eq_ok bytes).mp read with ⟨lexemes, behind, reads, yields, whole⟩
  have same : tokens = behind := whole
  exact ⟨lexemes, reads, same ▸ yields⟩

/-- A source text of a length that fits has tokens exactly where it reads as lexemes. These are the
only ones, and the tokens are those that are neither blanks nor comments. -/
theorem tokenize_eq_ok_iff_reads (source : String) (file? : Option String)
    (short : source.utf8ByteSize < 2 ^ 32) :
    (∀ tokens, Token.tokenize source file? = .ok tokens ↔
      ∃ lexemes, Reads source.toList lexemes ∧
        Yields (file?.getD Token.unnamedFile) 0 lexemes tokens) ∧
    ∀ first second, Reads source.toList first → Reads source.toList second → first = second := by
  have bytes : 0 + byteLength source.toList < 2 ^ 32 := by
    rw [← Text.utf8ByteSize_ofList, String.ofList_toList, Nat.zero_add]
    exact short
  constructor
  · intro tokens
    rw [Token.tokenize, tokenizeFrom_eq_ok bytes]
    simp
  · intro first second one other
    exact one.unique other

theorem reads_let_number :
    ∃ lexemes, Reads "let 1.5;".toList lexemes ∧
      Yields "shell" 0 lexemes
        [⟨.letKeyword, "let", ⟨0, "shell"⟩, ⟨3, "shell"⟩⟩,
          ⟨.number, "1.5", ⟨4, "shell"⟩, ⟨7, "shell"⟩⟩,
          ⟨.semicolon, ";", ⟨7, "shell"⟩, ⟨8, "shell"⟩⟩] := by
  have reads := (tokenize_eq_ok_iff_reads "let 1.5;" none (by decide)).1
  apply (reads _).mp
  cbv

end LetLang.Lexeme
