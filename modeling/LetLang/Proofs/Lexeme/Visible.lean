import LetLang.Proofs.Lexeme.Defect

/-! Tokens start at visible characters, and the lexer refuses a text at one. -/
namespace LetLang

open Lexeme (IsBlank Reads Yields)
open Text (byteLength)

structure Position.Visible (position : Position) (file : String) (offset : Nat)
    (chars : List Char) : Prop where
  file : position.file = file
  character : ∃ front c back, chars = front ++ c :: back ∧
    position.offset.toNat = offset + byteLength front ∧ ¬IsBlank c

variable {file : String} {offset : Nat} {position : Position} {chars text rest : List Char}

theorem Position.Visible.behind (visible : position.Visible file (offset + byteLength text) rest) :
    position.Visible file offset (text ++ rest) := by
  rcases visible.character with ⟨front, c, back, rfl, place, other⟩
  have lengths := Text.offset_append offset text front
  exact ⟨visible.file, text ++ front, c, back, (List.append_assoc ..).symm, lengths ▸ place, other⟩

theorem Position.Visible.exists_character (visible : position.Visible file 0 chars) :
    ∃ front c back, chars = front ++ c :: back ∧ position.offset.toNat = byteLength front ∧
      ¬IsBlank c := by
  have character := visible.character
  simpa only [Nat.zero_add] using character

namespace Lexeme

theorem Yields.visible {lexemes : List Lexeme} {tokens : List Token} (reads : Reads chars lexemes)
    (yields : Yields file offset lexemes tokens) :
    ∀ token ∈ tokens, token.start.Visible file offset chars := by
  induction reads generalizing offset tokens with
  | done =>
      cases yields
      exact nofun
  | @piece lexeme rest lexemes stands others ih =>
      cases yields with
      | dropped unmarked later => exact fun token member => (ih later token member).behind
      | token spells later =>
          intro token member
          rcases List.mem_cons.mp member with rfl | member
          · rcases stands.visible spells.marked with ⟨c, first, other⟩
            rcases List.head?_eq_some_iff.mp first with ⟨back, whole⟩
            exact ⟨spells.startFile, [], c, back, whole, spells.start, other⟩
          · exact (ih later token member).behind

end Lexeme

namespace Token

theorem refused_of_scan {c : Char} {cause : Cause} (failed : scan c rest = .error cause) :
    ¬IsBlank c ∧ cause.stage = .lexing := by
  cases Lexeme.defect_of_scan failed with
  | string inside => exact ⟨by simp [IsBlank], rfl⟩
  | comment unclosed => exact ⟨by simp [IsBlank], rfl⟩
  | number numeral =>
      rcases numeral.opens with ⟨d, others, same, digit⟩
      cases same
      exact ⟨fun blank => Lexeme.isBlank_not_isNamePart blank (.inr digit), rfl⟩
  | character strange => exact ⟨strange.visible, rfl⟩

theorem visible_of_tokenizeFrom {before : List Token} {error : Error}
    (short : offset + byteLength chars < 2 ^ 32)
    (failed : tokenizeFrom file offset before chars = .error error) :
    error.position.Visible file offset chars ∧ error.cause.stage = .lexing := by
  fun_induction tokenizeFrom file offset before chars with
  | case1 => cases failed
  | case2 offset before c rest cause scanned =>
      cases failed
      rcases refused_of_scan scanned with ⟨visible, stage⟩
      have fits : offset < 2 ^ 32 := by omega
      have place : (UInt32.ofNat offset).toNat = offset := UInt32.toNat_ofNat_of_lt' fits
      exact ⟨⟨rfl, [], c, rest, rfl, place, visible⟩, stage⟩
  | case3 offset before c rest piece scanned ih =>
      have whole := (scan_split scanned).1
      rw [← whole] at short ⊢
      rw [Text.offset_append] at short
      rcases ih short failed with ⟨visible, stage⟩
      exact ⟨visible.behind, stage⟩

theorem visible_of_tokenize {source : String} {file? : Option String} {error : Error}
    (short : source.utf8ByteSize < 2 ^ 32) (failed : tokenize source file? = .error error) :
    error.position.Visible (file?.getD unnamedFile) 0 source.toList ∧
      error.cause.stage = .lexing := by
  have bytes : 0 + byteLength source.toList < 2 ^ 32 := by
    rw [Text.byteLength_toList, Nat.zero_add]
    exact short
  exact visible_of_tokenizeFrom bytes failed

theorem start_visible {source : String} {file? : Option String} {tokens : List Token}
    (short : source.utf8ByteSize < 2 ^ 32) (read : tokenize source file? = .ok tokens) :
    ∀ token ∈ tokens, token.start.Visible (file?.getD unnamedFile) 0 source.toList := by
  rcases Lexeme.exists_reads short read with ⟨lexemes, reads, yields⟩
  exact yields.visible reads

end Token
end LetLang
