import LetLang.Proofs.Text.Place

/-!
The lines of a text and the offsets in them. A line feed is one byte that no other character has in
its encoding, so the line feeds in front of an offset are counted by the byte, and every offset lies
in just one of the lines: at its start, inside or at its end, before the line feed.
-/
namespace LetLang.Text

def feedsBefore (source : String) (offset : Nat) : Nat :=
  (source.toByteArray.data.toList.take offset).count 10

/-- All lines without their line feeds. Behind a last line feed there is an empty line. -/
def linesOf (source : String) : List (List Char) := source.toList.splitOn '\n'

def lineStart (source : String) (count : Nat) : Nat :=
  byteLength (((linesOf source).take count).flatMap (· ++ ['\n']))

structure Located (source : String) (offset count : Nat) (lead line rest : List Char) : Prop where
  whole : source.toList = lead ++ (line ++ rest)
  lines : Lines count lead
  inside : '\n' ∉ line
  ends : rest = [] ∨ rest.head? = some '\n'
  start : byteLength lead ≤ offset
  within : offset ≤ byteLength lead + byteLength line

variable {source : String} {offset count : Nat} {chars lead line rest : List Char}

/-! Line feeds by the byte. -/

theorem feed_not_mem_encoding {c : Char} (other : c ≠ '\n') : 10 ∉ String.utf8EncodeChar c := by
  have number : c.val.toNat ≠ 10 := fun same => other (Char.toNat_inj.mp same)
  have byte {n : Nat} (apart : n % 2 ^ 8 ≠ 10) : (10 : UInt8) ≠ UInt8.ofNat n := by
    intro same
    have numbers := congrArg UInt8.toNat same
    rw [UInt8.toNat_ofNat'] at numbers
    exact apart numbers.symm
  have continuation (n : Nat) : (10 : UInt8) ≠ UInt8.ofNat (n % 64 + 128) := byte (by omega)
  unfold String.utf8EncodeChar
  dsimp only
  split
  · exact List.not_mem_cons_of_ne_of_not_mem (byte (by omega)) nofun
  · split
    · simp only [List.mem_cons, continuation, List.not_mem_nil, or_false]
      exact byte (by omega)
    · split
      · simp only [List.mem_cons, continuation, List.not_mem_nil, or_false]
        exact byte (by omega)
      · simp only [List.mem_cons, continuation, List.not_mem_nil, or_false]
        exact byte (by omega)

theorem count_encoding (chars : List Char) :
    (chars.flatMap String.utf8EncodeChar).count 10 = chars.count '\n' := by
  induction chars with
  | nil => rfl
  | cons c chars ih =>
      rw [List.flatMap_cons, List.count_append, ih]
      by_cases feed : c = '\n'
      · rw [feed, List.count_cons_self, Nat.add_comm]
        rfl
      · rw [List.count_eq_zero.mpr (feed_not_mem_encoding feed), Nat.zero_add,
          List.count_cons_of_ne feed]

theorem length_encoding (chars : List Char) :
    (chars.flatMap String.utf8EncodeChar).length = byteLength chars := by
  induction chars with
  | nil => rfl
  | cons c chars ih =>
      rw [List.flatMap_cons, List.length_append, ih, String.length_utf8EncodeChar]
      rfl

theorem encoding_eq (source : String) :
    source.toByteArray.data.toList = source.toList.flatMap String.utf8EncodeChar := by
  rw [← String.utf8Encode_toList, List.utf8Encode, List.toList_data_toByteArray]

theorem feedsBefore_mono {first second : Nat} (before : first ≤ second) :
    feedsBefore source first ≤ feedsBefore source second :=
  (List.take_sublist_take_left before).count_le 10

theorem Lines.count_feeds (lines : Lines count lead) : lead.count '\n' = count := by
  induction lines with
  | none => rfl
  | line inside _ ih =>
      rw [List.count_append, List.count_cons_self, ih, List.count_eq_zero.mpr inside, Nat.zero_add]

/-! Lines in front are the lines of the text that come first. -/

theorem Lines.exists_bodies (lines : Lines count lead) :
    ∃ bodies : List (List Char), bodies.length = count ∧ bodies.flatMap (· ++ ['\n']) = lead ∧
      ∀ rest, (lead ++ rest).splitOn '\n' = bodies ++ rest.splitOn '\n' := by
  induction lines with
  | none => exact ⟨[], rfl, rfl, fun _ => rfl⟩
  | @line count body others inside _ ih =>
      rcases ih with ⟨bodies, length, whole, splits⟩
      refine ⟨body :: bodies, congrArg (· + 1) length, ?_, fun rest => ?_⟩
      · rw [List.flatMap_cons, whole, List.append_assoc, List.singleton_append]
      · rw [List.append_assoc, List.cons_append, List.splitOn_append_cons_self_of_not_mem inside,
          splits, List.cons_append]

theorem head?_splitOn (inside : '\n' ∉ line) (ends : rest = [] ∨ rest.head? = some '\n') :
    ((line ++ rest).splitOn '\n')[0]? = some line := by
  rcases ends with rfl | feed
  · rw [List.append_nil, List.splitOn_eq_singleton inside]
    rfl
  · rcases List.head?_eq_some_iff.mp feed with ⟨others, rfl⟩
    rw [List.splitOn_append_cons_self_of_not_mem inside]
    rfl

/-- The longest text in front of an offset: the character behind it, if any, is not over yet. -/
theorem exists_front (within : offset ≤ byteLength chars) :
    ∃ front back, chars = front ++ back ∧ byteLength front ≤ offset ∧
      ∀ c ∈ back.head?, offset < byteLength front + c.utf8Size := by
  induction chars generalizing offset with
  | nil => exact ⟨[], [], rfl, Nat.zero_le _, nofun⟩
  | cons c chars ih =>
      rw [byteLength_cons] at within
      by_cases fits : c.utf8Size ≤ offset
      · have shorter : offset - c.utf8Size ≤ byteLength chars := by omega
        rcases ih shorter with ⟨front, back, rfl, behind, next⟩
        refine ⟨c :: front, back, rfl, ?_, fun d head => ?_⟩
        · rw [byteLength_cons]
          omega
        · have close := next d head
          rw [byteLength_cons]
          omega
      · refine ⟨[], c :: chars, rfl, Nat.zero_le _, fun d head => ?_⟩
        cases head
        have none : byteLength [] = 0 := rfl
        omega

theorem exists_located (within : offset ≤ source.utf8ByteSize) :
    ∃ count lead line rest, Located source offset count lead line rest := by
  rw [← byteLength_toList] at within
  rcases exists_front within with ⟨front, back, whole, behind, next⟩
  rcases exists_lines front with ⟨count, lead, head, rfl, lines, before⟩
  rcases split : cut (· ≠ '\n') back with ⟨tail, rest⟩
  rcases cut_until_iff.mp split with ⟨rfl, after, ends⟩
  have inside : '\n' ∉ head ++ tail := by simp [before, after]
  have sizes := congrArg byteLength whole
  simp only [byteLength_append] at sizes behind next
  refine ⟨count, lead, head ++ tail, rest, ?_, lines, inside, ends, by omega, ?_⟩
  · rw [whole, List.append_assoc, List.append_assoc]
  · rw [byteLength_append]
    cases tail with
    | nil =>
        rcases ends with rfl | feed
        · have none : byteLength [] = 0 := rfl
          omega
        · have close := next '\n' feed
          have one : '\n'.utf8Size = 1 := rfl
          omega
    | cons c tail =>
        have close := next c rfl
        rw [byteLength_cons] at sizes ⊢
        omega

namespace Located

variable (located : Located source offset count lead line rest)
include located

theorem feedsBefore_eq : feedsBefore source offset = count := by
  obtain ⟨behind, rfl⟩ := Nat.exists_eq_add_of_le located.start
  have within : behind ≤ (line.flatMap String.utf8EncodeChar).length := by
    have bounds := located.within
    rw [length_encoding]
    omega
  have none : ((line.flatMap String.utf8EncodeChar).take behind).count 10 = 0 := by
    have absent : (line.flatMap String.utf8EncodeChar).count 10 = 0 :=
      (count_encoding line).trans (List.count_eq_zero.mpr located.inside)
    have fewer := (List.take_sublist behind (line.flatMap String.utf8EncodeChar)).count_le 10
    omega
  calc
    _ = ((lead.flatMap String.utf8EncodeChar ++ (line.flatMap String.utf8EncodeChar ++
        rest.flatMap String.utf8EncodeChar)).take (byteLength lead + behind)).count 10 := by
      rw [feedsBefore, encoding_eq, located.whole, List.flatMap_append, List.flatMap_append]
    _ = (lead.flatMap String.utf8EncodeChar).count 10 +
        ((line.flatMap String.utf8EncodeChar).take behind).count 10 := by
      rw [← length_encoding, List.take_length_add_append, List.take_append_of_le_length within,
        List.count_append]
    _ = count := by
      rw [count_encoding, located.lines.count_feeds, none, Nat.add_zero]

theorem linesOf_eq : (linesOf source)[count]? = some line := by
  rcases located.lines.exists_bodies with ⟨bodies, length, _, splits⟩
  rw [linesOf, located.whole, splits, List.getElem?_append_right (by omega), length, Nat.sub_self]
  exact head?_splitOn located.inside located.ends

theorem lineStart_eq : lineStart source count = byteLength lead := by
  rcases located.lines.exists_bodies with ⟨bodies, length, whole, splits⟩
  rw [lineStart, linesOf, located.whole, splits, ← length, List.take_left, whole]

/-- A byte has the number of its line, and a column in what is shown of it. A byte past the end has
the place of the end. -/
theorem placeOf_eq_columnOf {byte : Nat} (stops : offset = min byte source.utf8ByteSize) :
    placeOf source byte =
      ⟨count + 1, columnOf (offset - byteLength lead) (trimLineEnd line), trimLineEnd line⟩ := by
  have size := congrArg byteLength located.whole
  have start := located.start
  have within := located.within
  have shorter := byteLength_trimLineEnd_le line
  rw [byteLength_toList, byteLength_append, byteLength_append] at size
  obtain ⟨behind, rfl⟩ := Nat.exists_eq_add_of_le (show byteLength lead ≤ byte by omega)
  rw [placeOf, located.whole, placeFrom_lines located.lines, Nat.add_comm 1]
  by_cases past : byteLength lead + behind ≤ source.utf8ByteSize
  · have reached : offset - byteLength lead = behind := by omega
    have before : behind ≤ byteLength line := by omega
    rw [reached]
    exact placeFrom_line located.inside (located.ends.imp_right (And.intro · before))
  · have last : rest = [] := byteLength_eq_zero.mp (by omega)
    rw [placeFrom_line located.inside (.inl last), columnOf_of_le (by omega),
      columnOf_of_le (by omega)]

end Located
end LetLang.Text
