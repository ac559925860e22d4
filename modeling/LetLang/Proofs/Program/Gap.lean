import LetLang.Proofs.Lexeme.Boundary
import LetLang.Proofs.Placement.Program

/-! A gap put in where a token starts or stops changes no program: only places behind it move. -/
namespace LetLang

open Lexeme (Edge Separates)

def Error.moved (offset bytes : Nat) (error : Error) : Error :=
  ⟨error.cause, error.position.moved offset bytes⟩

variable {place bytes : Nat} {source gap : String} {file? : Option String} {tokens : List Token}

theorem Token.map_moved_alike (tokens : List Token) :
    List.Forall₂ (Token.Alike fun here there => there = here.moved place bytes) tokens
      (tokens.map (moved place bytes)) := by
  rw [List.forall₂_map_right_iff, List.forall₂_same]
  intro token member
  refine ⟨?_, ?_, token.start_moved place bytes⟩
  · unfold moved
    split
    · rfl
    · rfl
  · unfold moved
    split
    · rfl
    · rfl

namespace Program

theorem finishOf_append (front back gap : String) (file : String)
    (short : (front ++ back).utf8ByteSize < 2 ^ 32) :
    finishOf (front ++ gap ++ back) file =
      (finishOf (front ++ back) file).moved front.utf8ByteSize gap.utf8ByteSize := by
  have kept : (UInt32.ofNat (front ++ back).utf8ByteSize).toNat = (front ++ back).utf8ByteSize :=
    UInt32.toNat_ofNat_of_lt' short
  have behind : ¬(front ++ back).utf8ByteSize < front.utf8ByteSize := by
    rw [String.utf8ByteSize_append]
    omega
  have sizes : (front ++ gap ++ back).utf8ByteSize =
      (front ++ back).utf8ByteSize + gap.utf8ByteSize := by
    simp only [String.utf8ByteSize_append]
    omega
  simp only [finishOf, Position.moved, Position.shifted, kept, if_neg behind, sizes]

theorem ofTokens_moved (tokens : List Token) {front back gap file : String}
    (short : (front ++ back).utf8ByteSize < 2 ^ 32) :
    (∃ program, ofTokens tokens (front ++ back) file = .ok program ∧
      ofTokens (tokens.map (Token.moved front.utf8ByteSize gap.utf8ByteSize))
        (front ++ gap ++ back) file = .ok program) ∨
    ∃ error, ofTokens tokens (front ++ back) file = Outcome.refuse error ∧
      ofTokens (tokens.map (Token.moved front.utf8ByteSize gap.utf8ByteSize))
        (front ++ gap ++ back) file =
          Outcome.refuse (error.moved front.utf8ByteSize gap.utf8ByteSize) := by
  have alike := @Token.map_moved_alike front.utf8ByteSize gap.utf8ByteSize tokens
  rcases ofTokensFrom_twin (finishOf (front ++ back) file) (finishOf (front ++ gap ++ back) file)
      .empty alike with
    made | ⟨cause, here, _, refused, again, ⟨_, rfl⟩ | ⟨_, rfl, rfl⟩⟩
  · exact .inl made
  · exact .inr ⟨⟨cause, here⟩, refused, again⟩
  · have finish := finishOf_append front back gap file short
    exact .inr ⟨⟨cause, _⟩, refused, again.trans (by rw [finish]; rfl)⟩

/-- A gap put into a source where one of its tokens starts or stops: the tokens stay what they are,
and so does the program, or else the error. What stands at the place or behind it moves by the bytes
of the gap, and all else stays in its place. -/
theorem ofSource_gap (source gap : String) (file? : Option String) {tokens : List Token}
    {place : Nat} (separates : Separates gap.toList)
    (short : source.utf8ByteSize + gap.utf8ByteSize < 2 ^ 32)
    (read : Token.tokenize source file? = .ok tokens) (edge : Edge place tokens) :
    ∃ front back, source = front ++ back ∧ front.utf8ByteSize = place ∧
      Token.tokenize (front ++ gap ++ back) file? =
        .ok (tokens.map (Token.moved place gap.utf8ByteSize)) ∧
      ((∃ program, ofSource source file? = .ok program ∧
          ofSource (front ++ gap ++ back) file? = .ok program) ∨
        ∃ error, ofSource source file? = Outcome.refuse error ∧
          ofSource (front ++ gap ++ back) file? =
            Outcome.refuse (error.moved place gap.utf8ByteSize)) := by
  have fits : source.utf8ByteSize < 2 ^ 32 := by omega
  have bytes : 0 + Text.byteLength source.toList < 2 ^ 32 := by
    rw [Text.byteLength_toList, Nat.zero_add]
    exact fits
  rcases Lexeme.exists_reads fits read with ⟨lexemes, reads, yields⟩
  rcases Lexeme.divides_of_edge reads yields edge bytes with
    ⟨front, back, firsts, lasts, text, rfl, reached, parted, _⟩
  obtain rfl : source = String.ofList front ++ String.ofList back := by
    rw [← String.ofList_append, ← text, String.ofList_toList]
  have size : (String.ofList front).utf8ByteSize = place := by
    rw [Text.utf8ByteSize_ofList, ← reached, Nat.zero_add]
  have gapped : (String.ofList front ++ gap ++ String.ofList back).toList =
      front ++ (gap.toList ++ back) := by
    simp
  have longer : 0 + Text.byteLength (front ++ (gap.toList ++ back)) < 2 ^ 32 := by
    rw [← gapped, Text.byteLength_toList]
    simp only [String.utf8ByteSize_append] at short ⊢
    omega
  have moved : Token.tokenize (String.ofList front ++ gap ++ String.ofList back) file? =
      .ok ((firsts ++ lasts).map (Token.moved place gap.utf8ByteSize)) := by
    rw [Token.tokenize, gapped, parted.tokenizeFrom_gap separates longer, reached,
      Text.byteLength_toList]
  refine ⟨_, _, rfl, size, moved, ?_⟩
  have programs := @ofTokens_moved (firsts ++ lasts) (String.ofList front) (String.ofList back) gap
    (file?.getD Token.unnamedFile) fits
  rw [size] at programs
  unfold ofSource
  rw [read, moved]
  exact programs

theorem gap_before_semicolon :
    ∃ front back, "let x = 1;" = front ++ back ∧ front.utf8ByteSize = 9 ∧
      Token.tokenize (front ++ " /* one */" ++ back) none =
        .ok ([⟨.letKeyword, "let", ⟨0, "shell"⟩, ⟨3, "shell"⟩⟩,
          ⟨.identifier, "x", ⟨4, "shell"⟩, ⟨5, "shell"⟩⟩,
          ⟨.assignment, "=", ⟨6, "shell"⟩, ⟨7, "shell"⟩⟩,
          ⟨.number, "1", ⟨8, "shell"⟩, ⟨9, "shell"⟩⟩,
          ⟨.semicolon, ";", ⟨9, "shell"⟩, ⟨10, "shell"⟩⟩].map (Token.moved 9 10)) ∧
      ((∃ program, ofSource "let x = 1;" none = .ok program ∧
          ofSource (front ++ " /* one */" ++ back) none = .ok program) ∨
        ∃ error, ofSource "let x = 1;" none = Outcome.refuse error ∧
          ofSource (front ++ " /* one */" ++ back) none = Outcome.refuse (error.moved 9 10)) := by
  have gap : Lexeme.Gap " /* one */".toList :=
    .blank (.inl rfl) (@Lexeme.Gap.blockComment " one ".toList [] (by decide) .nil)
  refine ofSource_gap "let x = 1;" " /* one */" none ⟨gap, ' ', rfl, .inl rfl⟩ (by decide) ?_ ?_
  · cbv
  · exact ⟨⟨.semicolon, ";", ⟨9, "shell"⟩, ⟨10, "shell"⟩⟩, by simp, .inl rfl⟩

end Program
end LetLang
