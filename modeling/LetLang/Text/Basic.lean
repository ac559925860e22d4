/-! Stretches of text: cutting them off the front, their length in bytes, runs of digits. -/
namespace LetLang.Text

-- Powers mean the same where algebra, with powers of its own, is imported too.
attribute [default_instance 20000] instPowNat

def cut (p : Char → Bool) (chars : List Char) : List Char × List Char :=
  (chars.takeWhile p, chars.dropWhile p)

/-- The bytes that a text takes. The zero is named, since algebra has another for numbers. -/
def byteLength (chars : List Char) : Nat :=
  @List.sum Nat _ Zero.ofOfNat0 (chars.map Char.utf8Size)

def natural? (chars : List Char) : Option Nat :=
  if !chars.isEmpty && chars.all Char.isDigit then some (Nat.ofDigitChars 10 chars 0) else none

@[simp] theorem cut_append (p : Char → Bool) (chars : List Char) :
    (cut p chars).1 ++ (cut p chars).2 = chars := List.takeWhile_append_dropWhile

theorem cut_ne_nil {p : Char → Bool} {c : Char} (holds : p c = true) (rest : List Char) :
    (cut p (c :: rest)).1 ≠ [] := by
  simp [cut, holds]

@[simp] theorem byteLength_append (front back : List Char) :
    byteLength (front ++ back) = byteLength front + byteLength back := by
  simp [byteLength]

theorem offset_append (offset : Nat) (front back : List Char) :
    offset + byteLength (front ++ back) = offset + byteLength front + byteLength back := by
  rw [byteLength_append, Nat.add_assoc]

theorem byteLength_cons (c : Char) (chars : List Char) :
    byteLength (c :: chars) = c.utf8Size + byteLength chars := rfl

theorem byteLength_eq_zero {chars : List Char} : byteLength chars = 0 ↔ chars = [] := by
  cases chars with
  | nil => exact ⟨fun _ => rfl, fun _ => rfl⟩
  | cons c chars =>
    have positive := c.utf8Size_pos
    rw [byteLength_cons]
    constructor
    · omega
    · exact nofun

theorem byteLength_pos {chars : List Char} (nonempty : chars ≠ []) : 0 < byteLength chars :=
  Nat.pos_of_ne_zero (mt byteLength_eq_zero.mp nonempty)

theorem utf8ByteSize_ofList (chars : List Char) :
    (String.ofList chars).utf8ByteSize = byteLength chars := by
  induction chars with
  | nil => rfl
  | cons c rest ih =>
    rw [String.ofList_cons, String.utf8ByteSize_append, String.utf8ByteSize_singleton, ih]
    rfl

theorem byteLength_toList (text : String) : byteLength text.toList = text.utf8ByteSize := by
  rw [← utf8ByteSize_ofList, String.ofList_toList]

theorem natural?_toDigits (n : Nat) : natural? (Nat.toDigits 10 n) = some n := by
  have digits : (Nat.toDigits 10 n).all Char.isDigit = true :=
    List.all_eq_true.mpr fun c member => Nat.isDigit_of_mem_toDigits (by decide) (by decide) member
  simp [natural?, digits, Nat.toDigits_ne_nil]

end LetLang.Text
