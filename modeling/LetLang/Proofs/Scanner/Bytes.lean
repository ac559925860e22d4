import LetLang.Token.Scanner

/-!
Text by the byte. An offset is good for a slice only where it lies within the text and on the edge
of a character, which is where the text in front of it has so many bytes.
-/
namespace LetLang.Scanner

open Text (byteLength byteLength_append byteLength_cons byteLength_eq_zero)
open Token (cutComment)

variable {front back chars rest : List Char} {bytes : Nat}

theorem dropBytes?_append (front back : List Char) :
    dropBytes? (byteLength front) (front ++ back) = some back := by
  induction front with
  | nil => cases back <;> rfl
  | cons c front ih =>
      have positive := c.utf8Size_pos
      rw [List.cons_append, dropBytes?, byteLength_cons, if_neg (by omega), if_pos (by omega),
        Nat.add_sub_cancel_left, ih]

theorem dropBytes?_eq_some :
    dropBytes? bytes chars = some rest ↔ ∃ front, chars = front ++ rest ∧ bytes = byteLength front := by
  constructor
  · intro found
    fun_induction dropBytes? bytes chars with
    | case1 => exact ⟨[], (Option.some.inj found), rfl⟩
    | case2 => cases found
    | case3 c chars => exact ⟨[], (Option.some.inj found), rfl⟩
    | case4 bytes c chars more fits ih =>
        rcases ih found with ⟨front, rfl, behind⟩
        exact ⟨c :: front, rfl, by rw [byteLength_cons]; omega⟩
    | case5 => cases found
  · rintro ⟨front, rfl, rfl⟩
    exact dropBytes?_append front rest

theorem atEnd_iff {scanner : Scanner} (sees : scanner.remainder? = some rest) :
    scanner.atEnd = true ↔ rest = [] := by
  rcases dropBytes?_eq_some.mp sees with ⟨front, whole, offset⟩
  rw [atEnd, decide_eq_true_iff, ← Text.byteLength_toList, whole, byteLength_append, offset,
    ← byteLength_eq_zero]
  omega

theorem remainder?_advance {scanner : Scanner} (sees : scanner.remainder? = some (front ++ back)) :
    (scanner.advance (byteLength front)).remainder? = some back := by
  rcases dropBytes?_eq_some.mp sees with ⟨before, whole, offset⟩
  refine dropBytes?_eq_some.mpr ⟨before ++ front, ?_, ?_⟩
  · rw [advance, whole, List.append_assoc]
  · rw [advance, offset, byteLength_append]

def takeBytes? (bytes : Nat) : List Char → Option (List Char)
  | [] => if bytes = 0 then some [] else none
  | c :: chars =>
    if bytes = 0 then some []
    else if c.utf8Size ≤ bytes then (takeBytes? (bytes - c.utf8Size) chars).map (c :: ·)
    else none

theorem takeBytes?_append (front back : List Char) :
    takeBytes? (byteLength front) (front ++ back) = some front := by
  induction front with
  | nil => cases back <;> rfl
  | cons c front ih =>
      have positive := c.utf8Size_pos
      rw [List.cons_append, takeBytes?, byteLength_cons, if_neg (by omega), if_pos (by omega),
        Nat.add_sub_cancel_left, ih, Option.map_some]

def slice? (start stop : Nat) (chars : List Char) : Option (List Char) :=
  if start ≤ stop then (dropBytes? start chars).bind (takeBytes? (stop - start)) else none

theorem slice?_append (front body back : List Char) :
    slice? (byteLength front) (byteLength front + byteLength body) (front ++ (body ++ back)) =
      some body := by
  rw [slice?, if_pos (Nat.le_add_right _ _), dropBytes?_append, Option.bind_some,
    Nat.add_sub_cancel_left, takeBytes?_append]

def closeAt? : List Char → Option Nat
  | '*' :: '/' :: _ => some 0
  | c :: rest => (closeAt? rest).map (c.utf8Size + ·)
  | [] => none

theorem cutComment_of_unclosed (seen : List Char) (unclosed : closeAt? chars = none) :
    cutComment seen chars = none := by
  fun_induction closeAt? chars generalizing seen with
  | case1 => cases unclosed
  | case2 c rest other ih =>
      rw [cutComment]
      · exact ih _ (Option.map_eq_none_iff.mp unclosed)
      · exact other
  | case3 => rfl

theorem cutComment_of_closed (seen : List Char) (closed : closeAt? chars = some bytes) :
    ∃ body rest, chars = body ++ '*' :: '/' :: rest ∧ bytes = byteLength body ∧
      cutComment seen chars = some (seen.reverse ++ body ++ ['*', '/'], rest) := by
  fun_induction closeAt? chars generalizing seen bytes with
  | case1 rest =>
      obtain rfl : 0 = bytes := Option.some.inj closed
      exact ⟨[], rest, rfl, rfl, by simp [cutComment]⟩
  | case2 c rest other ih =>
      rcases Option.map_eq_some_iff.mp closed with ⟨behind, found, rfl⟩
      rcases ih (c :: seen) found with ⟨body, left, rfl, rfl, cut⟩
      refine ⟨c :: body, left, rfl, rfl, ?_⟩
      rw [cutComment, cut]
      · simp
      · exact other
  | case3 => cases closed

end LetLang.Scanner
