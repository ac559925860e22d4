import LetLang.Text.Basic

/-! The line and column of a byte of a text. Lines are shown without what ends them. -/
namespace LetLang.Text

/-- A line by its number from 1, a column in characters from 0, and the line's text. -/
structure Place where
  line : Nat
  column : Nat
  text : List Char

def cutLine (chars : List Char) : List Char × List Char :=
  match cut (· ≠ '\n') chars with
  | (line, terminator :: rest) => (line ++ [terminator], rest)
  | (line, []) => (line, [])

def isLineEnd (c : Char) : Bool := c = '\n' || c = '\r'

def trimLineEnd (line : List Char) : List Char := (line.reverse.dropWhile isLineEnd).reverse

def columnOf (bytes : Nat) : List Char → Nat
  | [] => 0
  | c :: chars => if bytes = 0 then 0 else columnOf (bytes - c.utf8Size) chars + 1

theorem cutLine_append (chars : List Char) : (cutLine chars).1 ++ (cutLine chars).2 = chars := by
  have whole := cut_append (· ≠ '\n') chars
  unfold cutLine
  split <;> (rename_i split; rw [split] at whole; simpa using whole)

theorem cutLine_ne_nil (c : Char) (chars : List Char) : (cutLine (c :: chars)).1 ≠ [] := by
  intro empty
  have whole := cut_append (· ≠ '\n') (c :: chars)
  unfold cutLine at empty
  split at empty <;> rename_i split <;> rw [split] at whole <;> simp_all

theorem cutLine_shorter (c : Char) (chars : List Char) :
    (cutLine (c :: chars)).2.length < (c :: chars).length := by
  have := congrArg List.length (cutLine_append (c :: chars))
  have := List.length_pos_iff.mpr (cutLine_ne_nil c chars)
  simp only [List.length_append] at *
  omega

/-- Goes on at a line of a text, the byte counted from the line's start. A byte past the end stands
at the end of the last line; behind a last line feed that is an empty line. -/
def placeFrom (line : Nat) (byte : Nat) : List Char → Place
  | [] => ⟨line, 0, []⟩
  | c :: chars =>
    let (whole, rest) := cutLine (c :: chars)
    let size := byteLength whole
    let text := trimLineEnd whole
    if byte < size then ⟨line, columnOf byte text, text⟩
    else if rest.isEmpty && whole.getLast? ≠ some '\n' then ⟨line, text.length, text⟩
    else placeFrom (line + 1) (byte - size) (cutLine (c :: chars)).2
termination_by chars => chars.length
decreasing_by exact cutLine_shorter c chars

def placeOf (source : String) (byte : Nat) : Place := placeFrom 1 byte source.toList

end LetLang.Text
