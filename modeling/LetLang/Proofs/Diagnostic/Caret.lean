import LetLang.Diagnostic
import LetLang.Proofs.Text.Place
import Mathlib.Data.List.Forall2

/-! What an error is drawn as: the line that it is about, and a caret below the right character. -/
namespace LetLang.Diagnostic

open Text (Shows)

/-- A line that ends in its only caret, below a character of the line above or below that line's
end. Up to there it has tabs where the line above has tabs. -/
structure Points (above below : List Char) (index : Nat) : Prop where
  length : below.length = index + 1
  caret : below[index]? = some '^'
  only : ∀ i < index, below[i]? ≠ some '^'
  tabs : ∀ i < index, below[i]? = some '\t' ↔ above[i]? = some '\t'

def margin (number : Nat) : List Char := ("  " ++ toString number ++ " | ").toList

def blankMargin (number : Nat) : List Char :=
  ' ' :: ' ' :: (List.replicate (toString number).length ' ' ++ [' ', '|', ' '])

def header (error : Error) (file : String) (number column : Nat) : String :=
  "[error] " ++ file ++ ":" ++ toString number ++ ":" ++ toString column ++ " (" ++
    error.cause.name ++ ")"

def help (cause : Cause) : String :=
  match cause.tip? with
  | some tip => "\nhelp: " ++ tip
  | none => ""

abbrev Aligned : List Char → List Char → Prop := List.Forall₂ fun above below =>
  below ≠ '^' ∧ (below = '\t' ↔ above = '\t')

theorem points_of_aligned {front padding : List Char} (aligned : Aligned front padding)
    (rest : List Char) : Points (front ++ rest) (padding ++ ['^']) front.length := by
  have same := aligned.length_eq
  have each : ∀ i < front.length, ∃ above below, front[i]? = some above ∧
      padding[i]? = some below ∧ below ≠ '^' ∧ (below = '\t' ↔ above = '\t') := by
    intro i inside
    have within : i < padding.length := by omega
    have pair := aligned.get inside within
    exact ⟨_, _, List.getElem?_eq_getElem inside, List.getElem?_eq_getElem within, pair⟩
  constructor
  · rw [List.length_append, same]
    rfl
  · rw [same]
    exact List.getElem?_concat_length
  · intro i inside
    rcases each i inside with ⟨_, below, _, found, other, _⟩
    rw [List.getElem?_append_left (by omega), found]
    exact fun caret => other (Option.some.inj caret)
  · intro i inside
    rcases each i inside with ⟨above, below, first, second, _, tab⟩
    rw [List.getElem?_append_left (by omega), List.getElem?_append_left inside, first, second]
    simpa using tab

theorem aligned_map (left : List Char) :
    Aligned left (left.map fun c => if c = '\t' then '\t' else ' ') := by
  apply List.forall₂_map_right_iff.mpr
  apply List.forall₂_same.mpr
  intro c _
  by_cases tab : c = '\t'
  · simp [tab]
  · simp [tab]

theorem aligned_blanks {front : List Char} (plain : ∀ c ∈ front, c ≠ '\t') :
    Aligned front (List.replicate front.length ' ') := by
  induction front with
  | nil => exact .nil
  | cons c front ih =>
      rcases List.forall_mem_cons.mp plain with ⟨first, others⟩
      have pair : ' ' ≠ '^' ∧ (' ' = '\t' ↔ c = '\t') := by simp [first]
      exact .cons pair (ih others)

/-- No digit is a tab, so blanks stand for the number. -/
theorem aligned_margin (number : Nat) : Aligned (margin number) (blankMargin number) := by
  have digits : ∀ c ∈ (toString number).toList, c ≠ '\t' := by
    intro c member tab
    have written : (toString number).toList = Nat.toDigits 10 number := by simp
    have digit : c.isDigit = true :=
      Nat.isDigit_of_mem_toDigits (by decide) (by decide) (written ▸ member)
    rw [tab] at digit
    exact absurd digit (by decide)
  have blank : ' ' ≠ '^' ∧ (' ' = '\t' ↔ ' ' = '\t') := by decide
  have bar : '|' ≠ '^' ∧ ('|' = '\t' ↔ '|' = '\t') := by decide
  have middle := aligned_blanks digits
  rw [String.length_toList] at middle
  have behind : Aligned [' ', '|', ' '] [' ', '|', ' '] :=
    .cons blank (.cons bar (.cons blank .nil))
  have whole : margin number = ' ' :: ' ' :: ((toString number).toList ++ [' ', '|', ' ']) := by
    simp [margin]
  rw [whole]
  exact .cons blank (.cons blank (List.rel_append middle behind))

variable {source : String} {error : Error} {count : Nat} {left right : List Char}

/-- An error is drawn with the number of its line, its column from 1, the line, and a caret below
what is right of its place. -/
theorem render_ofError
    (shows : Shows source.toList error.position.offset.toNat count left right) (file : String) :
    ∃ caret, Points (margin (count + 1) ++ left ++ right) caret
        (margin (count + 1) ++ left).length ∧
      (ofError error).render source file false =
        header error file (count + 1) (left.length + 1) ++ "\n" ++
          String.ofList (margin (count + 1) ++ left ++ right) ++ "\n" ++ String.ofList caret ++
          "\n\n" ++ error.cause.message ++ help error.cause := by
  have aligned : Aligned (margin (count + 1) ++ left)
      (blankMargin (count + 1) ++ left.map fun c => if c = '\t' then '\t' else ' ') :=
    List.rel_append (aligned_margin (count + 1)) (aligned_map left)
  refine ⟨_, points_of_aligned aligned right, ?_⟩
  have place := Text.placeOf_eq shows
  have drawing : (ofError error).render source file false =
      (ofError error).drawn ⟨count + 1, left.length, left ++ right⟩ file false := by
    rw [← place]
    rfl
  have padded : padding ⟨count + 1, left.length, left ++ right⟩ =
      left.map fun c => if c = '\t' then '\t' else ' ' := by
    rw [padding, List.take_left]
  rw [drawing]
  unfold drawn
  rw [padded]
  refine congrArg₂ (· ++ ·) (congrArg (· ++ error.cause.message) ?_) rfl
  have severity : severityText false (ofError error).severity = "error" := rfl
  have name : (ofError error).name? = some error.cause.name := rfl
  have caret : caretText false = "^" := rfl
  simp only [severity, name, caret]
  unfold header margin blankMargin
  apply String.toList_inj.mp
  simp

end LetLang.Diagnostic
