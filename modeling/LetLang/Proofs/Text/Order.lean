import LetLang.Proofs.Text.Lines
import Mathlib.Data.Prod.Lex
import Mathlib.Order.Monotone.Basic

/-!
Lines and columns are offsets in another order of counting: they grow with the offset, and those of
an offset on the edge of a character that is shown are those of no other such offset.
-/
namespace LetLang.Text

def IsEdge (source : String) (offset : Nat) : Prop := String.Pos.Raw.IsValid source ⟨offset⟩

/-- The place of an offset: the number of its line, which is shown without what ends it, and the
characters of the line in front of the offset. -/
structure Place.Of (source : String) (offset : Nat) (place : Place) : Prop where
  line : place.line = 1 + feedsBefore source offset
  text : ∃ returns, (linesOf source)[feedsBefore source offset]? = some (place.text ++ returns) ∧
    (∀ c ∈ returns, c = '\r') ∧ place.text.getLast? ≠ some '\r'
  start : lineStart source (feedsBefore source offset) ≤ offset
  column : place.column ≤ place.text.length
  exact : IsEdge source offset →
    offset ≤ lineStart source (feedsBefore source offset) + byteLength place.text →
    lineStart source (feedsBefore source offset) + byteLength (place.text.take place.column) =
      offset
  ended : lineStart source (feedsBefore source offset) + byteLength place.text ≤ offset →
    place.column = place.text.length
  finish : offset = source.utf8ByteSize → (∀ c ∈ source.toList.getLast?, c = '\n') →
    place.text = []

/-- The offsets on an edge within what is shown of their line, or at its end. Other edges stand
behind a part of what ends a line. -/
def shown (source : String) : Set Nat :=
  {offset | IsEdge source offset ∧
    offset ≤ lineStart source (feedsBefore source offset) +
      byteLength (placeOf source offset).text}

def coordinates (source : String) (byte : Nat) : Nat ×ₗ Nat :=
  toLex ((placeOf source byte).line, (placeOf source byte).column)

variable {source : String} {offset byte other count : Nat} {lead line rest text : List Char}

theorem columnOf_le (bytes : Nat) (text : List Char) : columnOf bytes text ≤ text.length := by
  induction text generalizing bytes with
  | nil => exact Nat.le_refl 0
  | cons c text ih =>
      rw [columnOf]
      split
      · exact Nat.zero_le _
      · exact Nat.succ_le_succ (ih _)

theorem columnOf_mono (text : List Char) (before : byte ≤ other) :
    columnOf byte text ≤ columnOf other text := by
  induction text generalizing byte other with
  | nil => exact Nat.le_refl 0
  | cons c text ih =>
      rw [columnOf, columnOf]
      by_cases first : byte = 0
      · rw [if_pos first]
        exact Nat.zero_le _
      · rw [if_neg first, if_neg (by omega)]
        exact Nat.succ_le_succ (ih (by omega))

theorem trimLineEnd_spec (inside : '\n' ∉ line) :
    ∃ returns, line = trimLineEnd line ++ returns ∧ (∀ c ∈ returns, c = '\r') ∧
      (trimLineEnd line).getLast? ≠ some '\r' := by
  rcases exists_trimmed line with ⟨text, returns, rfl, trimmed, ended⟩
  have unbroken : '\n' ∉ text := fun member => inside (List.mem_append_left _ member)
  rw [trimLineEnd_line unbroken trimmed ended]
  exact ⟨returns, rfl, ended, trimmed⟩

theorem eq_nil_of_byteLength {front back : List Char}
    (shorter : byteLength (front ++ back) ≤ byteLength front) : back = [] := by
  rw [byteLength_append] at shorter
  exact byteLength_eq_zero.mp (by omega)

theorem exists_left {front back : List Char} (whole : front ++ back = lead ++ (text ++ rest))
    (start : byteLength lead ≤ byteLength front)
    (within : byteLength front ≤ byteLength lead + byteLength text) :
    ∃ left right, text = left ++ right ∧ front = lead ++ left := by
  rcases List.append_eq_append_iff.mp whole with ⟨extra, rfl, _⟩ | ⟨left, rfl, others⟩
  · rw [eq_nil_of_byteLength start, List.append_nil]
    exact ⟨[], text, rfl, (List.append_nil front).symm⟩
  · rcases List.append_eq_append_iff.mp others with ⟨extra, rfl, _⟩ | ⟨right, rfl, _⟩
    · rw [byteLength_append, Nat.add_le_add_iff_left] at within
      rw [eq_nil_of_byteLength within, List.append_nil]
      exact ⟨text, [], (List.append_nil text).symm, rfl⟩
    · exact ⟨left, right, rfl, rfl⟩

theorem isEdge_iff : IsEdge source offset ↔
    ∃ front back, source.toList = front ++ back ∧ offset = byteLength front := by
  rw [IsEdge, String.Pos.Raw.isValid_iff_exists_append]
  constructor
  · rintro ⟨front, back, rfl, same⟩
    refine ⟨front.toList, back.toList, String.toList_append, ?_⟩
    rw [byteLength_toList]
    exact congrArg String.Pos.Raw.byteIdx same
  · rintro ⟨front, back, whole, rfl⟩
    refine ⟨String.ofList front, String.ofList back, ?_, ?_⟩
    · rw [← String.toList_inj, String.toList_append, whole, String.toList_ofList,
        String.toList_ofList]
    · rw [← utf8ByteSize_ofList]
      rfl

theorem Located.columnOf_exact (located : Located source offset count lead line rest)
    (edge : IsEdge source offset)
    (within : offset ≤ byteLength lead + byteLength (trimLineEnd line)) :
    byteLength lead + byteLength
      ((trimLineEnd line).take (columnOf (offset - byteLength lead) (trimLineEnd line))) =
      offset := by
  rcases isEdge_iff.mp edge with ⟨front, back, whole, rfl⟩
  rcases trimLineEnd_spec located.inside with ⟨returns, split, _⟩
  have parts : front ++ back = lead ++ (trimLineEnd line ++ (returns ++ rest)) := by
    rw [← whole, located.whole, ← List.append_assoc _ returns, ← split]
  rcases exists_left parts located.start within with ⟨left, right, shown, rfl⟩
  rw [shown, byteLength_append, Nat.add_sub_cancel_left, columnOf_append, List.take_left]

theorem Located.eq_nil (located : Located source offset count lead line rest)
    (finish : offset = source.utf8ByteSize) (feed : ∀ c ∈ source.toList.getLast?, c = '\n') :
    line = [] := by
  have whole := located.whole
  have size : byteLength (lead ++ line ++ rest) ≤ byteLength (lead ++ line) := by
    rw [List.append_assoc, ← whole, byteLength_toList, ← finish, byteLength_append]
    exact located.within
  rw [eq_nil_of_byteLength size, List.append_nil] at whole
  cases last : line.getLast? with
  | none => exact List.getLast?_eq_none_iff.mp last
  | some c =>
      have ends : source.toList.getLast? = some c := by
        rw [whole, List.getLast?_append, last]
        rfl
      exact absurd (feed c ends ▸ List.mem_of_getLast? last) located.inside

theorem placeOf_of (source : String) (byte : Nat) :
    Place.Of source (min byte source.utf8ByteSize) (placeOf source byte) := by
  generalize stops : min byte source.utf8ByteSize = offset
  have within : offset ≤ source.utf8ByteSize := stops ▸ Nat.min_le_right _ _
  rcases exists_located within with ⟨count, lead, line, rest, located⟩
  rcases trimLineEnd_spec located.inside with ⟨returns, split, ended, trimmed⟩
  have start := located.lineStart_eq
  rw [located.placeOf_eq_columnOf stops.symm]
  obtain rfl := located.feedsBefore_eq
  refine ⟨?line, ?text, ?start, ?column, ?exact, ?ended, ?finish⟩
  case line => exact Nat.add_comm _ 1
  case text => exact ⟨returns, split ▸ located.linesOf_eq, ended, trimmed⟩
  case start => exact start ▸ located.start
  case column => exact columnOf_le _ _
  case exact => exact start ▸ located.columnOf_exact
  case ended =>
      rw [start]
      intro past
      exact columnOf_of_le (by dsimp only at past; omega)
  case finish =>
      intro finish feed
      rw [located.eq_nil finish feed]
      rfl

theorem IsEdge.le (edge : IsEdge source offset) : offset ≤ source.utf8ByteSize := edge.le_rawEndPos

theorem IsEdge.stops (edge : IsEdge source offset) : offset = min offset source.utf8ByteSize :=
  (Nat.min_eq_left edge.le).symm

theorem Located.within_shown (located : Located source offset count lead line rest)
    (edge : IsEdge source offset) (member : offset ∈ shown source) :
    offset ≤ byteLength lead + byteLength (trimLineEnd line) := by
  rcases member with ⟨_, within⟩
  rwa [located.feedsBefore_eq, located.lineStart_eq,
    located.placeOf_eq_columnOf edge.stops] at within

theorem Located.line_unique {before after body : List Char}
    (located : Located source offset count lead line rest)
    (another : Located source other count before body after) :
    line = body ∧ byteLength lead = byteLength before := by
  constructor
  · rw [← Option.some.injEq, ← located.linesOf_eq, another.linesOf_eq]
  · rw [← located.lineStart_eq, another.lineStart_eq]

theorem coordinates_mono (source : String) : Monotone (coordinates source) := by
  intro byte other before
  have stops : min byte source.utf8ByteSize ≤ min other source.utf8ByteSize := by omega
  rcases exists_located (Nat.min_le_right byte source.utf8ByteSize) with ⟨_, _, _, _, first⟩
  rcases exists_located (Nat.min_le_right other source.utf8ByteSize) with ⟨_, _, _, _, second⟩
  have feeds : feedsBefore source _ ≤ feedsBefore source _ := feedsBefore_mono stops
  rw [first.feedsBefore_eq, second.feedsBefore_eq] at feeds
  rw [coordinates, coordinates, first.placeOf_eq_columnOf rfl, second.placeOf_eq_columnOf rfl,
    Prod.Lex.toLex_le_toLex]
  rcases Nat.lt_or_eq_of_le feeds with fewer | rfl
  · exact .inl (Nat.succ_lt_succ fewer)
  · rcases first.line_unique second with ⟨rfl, starts⟩
    exact .inr ⟨rfl, columnOf_mono _ (by omega)⟩

theorem coordinates_injOn (source : String) :
    Set.InjOn (coordinates source) (shown source) := by
  intro offset member other another same
  have edge := member.1
  have next := another.1
  rcases exists_located edge.le with ⟨_, _, _, _, first⟩
  rcases exists_located next.le with ⟨_, _, _, _, second⟩
  have within := first.columnOf_exact edge (first.within_shown edge member)
  have reached := second.columnOf_exact next (second.within_shown next another)
  rw [coordinates, coordinates, first.placeOf_eq_columnOf edge.stops,
    second.placeOf_eq_columnOf next.stops, EmbeddingLike.apply_eq_iff_eq, Prod.mk.injEq] at same
  rcases same with ⟨counts, columns⟩
  obtain rfl := Nat.succ.inj counts
  rcases first.line_unique second with ⟨rfl, starts⟩
  dsimp only at columns
  rw [← within, ← reached, columns, starts]

/-- A byte has the place of its offset, or of the end where it is past that. The coordinates grow
with the offset, and are those of one offset only among the edges that are shown. -/
theorem placeOf_orders (source : String) :
    (∀ byte, Place.Of source (min byte source.utf8ByteSize) (placeOf source byte)) ∧
      Monotone (coordinates source) ∧
      Set.InjOn (coordinates source) (shown source) ∧
      StrictMonoOn (coordinates source) (shown source) := by
  have grows := coordinates_mono source
  have determines := coordinates_injOn source
  exact ⟨placeOf_of source, grows, determines,
    (grows.monotoneOn _).strictMonoOn_of_injOn determines⟩

end LetLang.Text
