import LetLang.Proofs.Scanner.Turn

/-!
The run of the lexer. In every state that it comes to its offset lies within the source, on the edge
of a character, and each turn moves it on; so the loop ends, and with the tokens of the source.
-/
namespace LetLang.Scanner.State

open Text (byteLength)
open Token (scan tokenize tokenizeFrom)

/-- A state of the run over a source, with the text that is left: what is made of that text is what
is made of the source. -/
structure Along (source : String) (file? : Option String) (state : State) (rest : List Char) :
    Prop where
  within : state.scanner.source = source
  sees : state.scanner.remainder? = some rest
  goesOn : tokenizeFrom state.scanner.file state.scanner.offset state.tokens rest =
    tokenize source file?

variable {source : String} {file? : Option String} {state : State} {rest : List Char}

theorem along_start (source : String) (file? : Option String) :
    (start source file?).Along source file? source.toList :=
  ⟨rfl, dropBytes?_append [] source.toList, rfl⟩

theorem Along.isValid (along : state.Along source file? rest) :
    String.Pos.Raw.IsValid source ⟨state.scanner.offset⟩ := by
  rcases dropBytes?_eq_some.mp along.sees with ⟨front, whole, offset⟩
  refine String.Pos.Raw.isValid_iff_exists_append.mpr ⟨.ofList front, .ofList rest, ?_, ?_⟩
  · rw [← String.ofList_append, ← whole, along.within, String.ofList_toList]
  · rw [offset, ← Text.utf8ByteSize_ofList]
    rfl

theorem Along.turn (along : state.Along source file? rest) :
    state.turn = (Outcome.ofExcept (tokenize source file?)).map .done ∨
      ∃ next left, state.turn = .ok (.more next) ∧ next.Along source file? left ∧
        state.scanner.offset < next.scanner.offset := by
  have made := along.goesOn
  cases rest with
  | nil =>
      rw [tokenizeFrom] at made
      rw [State.turn, if_pos ((atEnd_iff along.sees).mpr rfl), ← made]
      exact .inl rfl
  | cons c rest =>
      rw [turn_eq along.sees]
      rw [tokenizeFrom] at made
      split at made
      · rename_i cause scanned
        rw [scanned, ← made]
        exact .inl rfl
      · rename_i piece scanned
        rcases Token.scan_split scanned with ⟨whole, nonempty⟩
        have positive := Text.byteLength_pos nonempty
        have sees := along.sees
        rw [← whole] at sees
        rw [scanned]
        refine .inr ⟨state.behind piece, piece.rest, rfl, ⟨along.within, ?_, made⟩, ?_⟩
        · exact remainder?_advance sees
        · exact Nat.lt_add_of_pos_right positive

theorem along_of_reaches (reaches : Loop.Reaches State.turn (start source file?) state) :
    ∃ rest, state.Along source file? rest := by
  induction reaches with
  | refl => exact ⟨source.toList, along_start source file?⟩
  | tail before goes ih =>
      rcases ih with ⟨rest, along⟩
      rcases along.turn with stops | ⟨next, left, goes', kept, _⟩
      · exact absurd (stops.symm.trans goes) Loop.map_done_ne_more
      · cases goes.symm.trans goes'
        exact ⟨left, kept⟩

theorem ends_tokenize (source : String) (file? : Option String) :
    Loop.Ends State.turn (start source file?) (Outcome.ofExcept (tokenize source file?)) := by
  refine Loop.ends_of_less (fun state => ∃ rest, state.Along source file? rest)
    (fun state => source.utf8ByteSize - state.scanner.offset) ?_ ⟨_, along_start source file?⟩
  rintro state ⟨rest, along⟩
  rcases along.turn with stops | ⟨next, left, goes, kept, grows⟩
  · exact .inl stops
  · have bound : next.scanner.offset ≤ source.utf8ByteSize := kept.isValid.le_utf8ByteSize
    exact .inr ⟨next, goes, ⟨left, kept⟩, Nat.sub_lt_sub_left (by omega) grows⟩

end LetLang.Scanner.State
