import LetLang.Proofs.Lexeme.Cut
import LetLang.Text.Place

/-! The line and the column of a byte, read off the lines that a text is made of. -/
namespace LetLang.Text

inductive Lines : Nat → List Char → Prop
  | none : Lines 0 []
  | line {count : Nat} {body rest : List Char} (inside : '\n' ∉ body) (others : Lines count rest) :
      Lines (count + 1) (body ++ '\n' :: rest)

/-- A byte of a text, behind so many whole lines, in a line that is quoted as what is left of the
byte and what is right of it. Carriage returns that end a line are not quoted. -/
inductive Shows : List Char → Nat → Nat → List Char → List Char → Prop
  | character {count : Nat} {c : Char} {lead left right returns behind : List Char}
      (lines : Lines count lead) (inside : '\n' ∉ left ++ c :: right)
      (trimmed : (left ++ c :: right).getLast? ≠ some '\r') (ended : ∀ d ∈ returns, d = '\r')
      (ends : behind = [] ∨ behind.head? = some '\n') :
      Shows (lead ++ (left ++ c :: right ++ (returns ++ behind))) (byteLength (lead ++ left)) count
        left (c :: right)
  | finish {count : Nat} {lead left returns : List Char} (lines : Lines count lead)
      (inside : '\n' ∉ left) (trimmed : left.getLast? ≠ some '\r')
      (ended : ∀ d ∈ returns, d = '\r') :
      Shows (lead ++ (left ++ returns)) (byteLength (lead ++ (left ++ returns))) count left []

variable {body left right rest text ending : List Char} {c : Char}
variable {number byte count : Nat}

/-! Every text is whole lines and the start of one more. -/

theorem exists_lines (chars : List Char) :
    ∃ count lead head, chars = lead ++ head ∧ Lines count lead ∧ '\n' ∉ head := by
  induction chars with
  | nil => exact ⟨0, [], [], rfl, .none, nofun⟩
  | cons c chars ih =>
      rcases ih with ⟨count, lead, head, rfl, lines, inside⟩
      by_cases feed : c = '\n'
      · have empty : '\n' ∉ ([] : List Char) := nofun
        exact ⟨count + 1, c :: lead, head, rfl, feed ▸ .line empty lines, inside⟩
      · cases lines with
        | none =>
            have whole : '\n' ∉ c :: head := by simp [inside, Ne.symm feed]
            exact ⟨0, [], c :: head, rfl, .none, whole⟩
        | @line count body rest absent others =>
            have longer : '\n' ∉ c :: body := by simp [absent, Ne.symm feed]
            exact ⟨count + 1, c :: body ++ '\n' :: rest, head, rfl, .line longer others, inside⟩

theorem exists_trimmed (line : List Char) :
    ∃ text returns, line = text ++ returns ∧ text.getLast? ≠ some '\r' ∧
      ∀ d ∈ returns, d = '\r' := by
  induction line with
  | nil => exact ⟨[], [], rfl, nofun, nofun⟩
  | cons c line ih =>
      rcases ih with ⟨text, returns, rfl, trimmed, ended⟩
      by_cases last : text = [] ∧ c = '\r'
      · rcases last with ⟨rfl, same⟩
        exact ⟨[], c :: returns, rfl, nofun, List.forall_mem_cons.mpr ⟨same, ended⟩⟩
      · refine ⟨c :: text, returns, rfl, ?_, ended⟩
        cases text with
        | nil => simpa using last
        | cons d text => rwa [List.getLast?_cons_cons]

theorem exists_character (front back : List Char) (notFeed : c ≠ '\n') (notReturn : c ≠ '\r') :
    ∃ count left right, Shows (front ++ c :: back) (byteLength front) count left (c :: right) := by
  rcases exists_lines front with ⟨count, lead, left, rfl, lines, before⟩
  rcases split : cut (· ≠ '\n') back with ⟨line, behind⟩
  rcases cut_until_iff.mp split with ⟨rfl, after, ends⟩
  rcases exists_trimmed (c :: line) with ⟨text, returns, whole, trimmed, ended⟩
  cases text with
  | nil =>
      have member : c ∈ returns := by
        rw [List.nil_append] at whole
        exact whole ▸ List.mem_cons_self
      exact absurd (ended c member) notReturn
  | cons first right =>
      rcases List.cons.inj whole with ⟨rfl, rfl⟩
      have quoted : '\n' ∉ right := fun member => after (List.mem_append_left _ member)
      have inside : '\n' ∉ left ++ c :: right := by simp [before, Ne.symm notFeed, quoted]
      have last : (left ++ c :: right).getLast? = (c :: right).getLast? := by
        rw [List.getLast?_append, List.getLast?_cons]
        rfl
      refine ⟨count, left, right, ?_⟩
      have shows := Shows.character lines inside (last ▸ trimmed) ended ends
      simpa using shows

theorem exists_finish (chars : List Char) :
    ∃ count left, Shows chars (byteLength chars) count left [] := by
  rcases exists_lines chars with ⟨count, lead, head, rfl, lines, inside⟩
  rcases exists_trimmed head with ⟨left, returns, rfl, trimmed, ended⟩
  have quoted : '\n' ∉ left := fun member => inside (List.mem_append_left _ member)
  exact ⟨count, left, .finish lines quoted trimmed ended⟩

/-! What the search for a line does on each of its parts. -/

theorem cutLine_feed (inside : '\n' ∉ body) (rest : List Char) :
    cutLine (body ++ '\n' :: rest) = (body ++ ['\n'], rest) := by
  have split : cut (· ≠ '\n') (body ++ '\n' :: rest) = (body, '\n' :: rest) :=
    cut_until_iff.mpr ⟨rfl, inside, .inr rfl⟩
  rw [cutLine, split]

theorem cutLine_last (inside : '\n' ∉ body) : cutLine body = (body, []) := by
  have split : cut (· ≠ '\n') body = (body, []) :=
    cut_until_iff.mpr ⟨(List.append_nil body).symm, inside, .inl rfl⟩
  rw [cutLine, split]

theorem trimLineEnd_append (ended : ∀ d ∈ ending, isLineEnd d = true)
    (trimmed : ∀ d, text.getLast? = some d → isLineEnd d = false) :
    trimLineEnd (text ++ ending) = text := by
  have dropped : ∀ d ∈ ending.reverse, isLineEnd d = true :=
    fun d member => ended d (List.mem_reverse.mp member)
  rw [trimLineEnd, List.reverse_append, List.dropWhile_append_of_pos dropped]
  cases last : text.reverse with
  | nil =>
      rw [List.reverse_eq_nil_iff.mp last]
      rfl
  | cons d others =>
      have stays : isLineEnd d = false := by
        apply trimmed
        rw [← List.head?_reverse, last]
        rfl
      rw [List.dropWhile_cons_of_neg (by simp [stays]), ← last, List.reverse_reverse]

theorem columnOf_append (left right : List Char) :
    columnOf (byteLength left) (left ++ right) = left.length := by
  induction left with
  | nil =>
      cases right with
      | nil => rfl
      | cons c right => rfl
  | cons c left ih =>
      have positive := Char.utf8Size_pos c
      rw [byteLength_cons, List.cons_append, columnOf, if_neg (by omega),
        Nat.add_sub_cancel_left, ih]
      rfl

theorem columnOf_of_le (past : byteLength text ≤ byte) : columnOf byte text = text.length := by
  induction text generalizing byte with
  | nil => rfl
  | cons c text ih =>
      have positive := Char.utf8Size_pos c
      rw [byteLength_cons] at past
      rw [columnOf, if_neg (by omega), ih (by omega)]
      rfl

theorem placeFrom_feed (inside : '\n' ∉ body) (behind : byteLength (body ++ ['\n']) ≤ byte) :
    placeFrom number byte (body ++ '\n' :: rest) =
      placeFrom (number + 1) (byte - byteLength (body ++ ['\n'])) rest := by
  have cutting := cutLine_feed inside rest
  cases whole : body ++ '\n' :: rest with
  | nil => simp at whole
  | cons c chars =>
      rw [whole] at cutting
      rw [placeFrom, cutting]
      dsimp only
      rw [if_neg (by omega), if_neg (by simp)]

theorem placeFrom_lines {lead : List Char} (lines : Lines count lead) (number byte : Nat)
    (rest : List Char) :
    placeFrom number (byteLength lead + byte) (lead ++ rest) =
      placeFrom (number + count) byte rest := by
  induction lines generalizing number with
  | none => rw [List.nil_append, Nat.add_zero, byteLength, List.map_nil, List.sum_nil, Nat.zero_add]
  | @line count body others inside _ ih =>
      have size : byteLength (body ++ '\n' :: others) =
          byteLength (body ++ ['\n']) + byteLength others := by
        rw [← byteLength_append, List.append_assoc, List.singleton_append]
      calc
        _ = placeFrom number (byteLength (body ++ ['\n']) + byteLength others + byte)
            (body ++ '\n' :: (others ++ rest)) := by
          rw [size, List.append_assoc, List.cons_append]
        _ = placeFrom (number + 1) (byteLength others + byte) (others ++ rest) := by
          rw [placeFrom_feed inside (by omega), Nat.add_assoc, Nat.add_sub_cancel_left]
        _ = placeFrom (number + (count + 1)) byte rest := by
          rw [ih (number + 1), Nat.add_assoc, Nat.add_comm 1 count]

theorem trimLineEnd_feed (line : List Char) : trimLineEnd (line ++ ['\n']) = trimLineEnd line := by
  rw [trimLineEnd, List.reverse_append]
  rfl

theorem trimLineEnd_line {returns : List Char} (inside : '\n' ∉ text)
    (trimmed : text.getLast? ≠ some '\r') (ended : ∀ d ∈ returns, d = '\r') :
    trimLineEnd (text ++ returns) = text := by
  apply trimLineEnd_append
  · intro d member
    rw [ended d member]
    rfl
  · intro d last
    have notFeed : d ≠ '\n' := fun same => inside (same ▸ List.mem_of_getLast? last)
    have notReturn : d ≠ '\r' := fun same => trimmed (same ▸ last)
    simp [isLineEnd, notFeed, notReturn]

theorem byteLength_trimLineEnd_le (line : List Char) :
    byteLength (trimLineEnd line) ≤ byteLength line := by
  have suffix := List.reverse_prefix.mpr (List.dropWhile_suffix isLineEnd (l := line.reverse))
  rw [List.reverse_reverse] at suffix
  rcases suffix with ⟨ending, whole⟩
  have sizes := congrArg byteLength whole
  rw [byteLength_append] at sizes
  rw [trimLineEnd]
  omega

theorem feed_not_mem {returns : List Char} (inside : '\n' ∉ text)
    (ended : ∀ d ∈ returns, d = '\r') : '\n' ∉ text ++ returns := by
  intro member
  rcases List.mem_append.mp member with first | second
  · exact inside first
  · exact absurd (ended _ second) (by decide)

/-- A byte is found in the first line up to its line feed, and all that is past the end in the
last one. -/
theorem placeFrom_line {line : List Char} (inside : '\n' ∉ line)
    (ends : rest = [] ∨ rest.head? = some '\n' ∧ byte ≤ byteLength line) :
    placeFrom number byte (line ++ rest) =
      ⟨number, columnOf byte (trimLineEnd line), trimLineEnd line⟩ := by
  rcases ends with rfl | ⟨feed, before⟩
  · have cutting := cutLine_last inside
    rw [List.append_nil]
    cases line with
    | nil =>
        rw [placeFrom]
        rfl
    | cons c chars =>
        have last : (c :: chars).getLast? ≠ some '\n' :=
          fun feed => inside (List.mem_of_getLast? feed)
        rw [placeFrom, cutting]
        dsimp only
        split
        · rfl
        · rename_i past
          have shorter := byteLength_trimLineEnd_le (c :: chars)
          rw [if_pos (by simpa using last), columnOf_of_le (by omega)]
  · rcases List.head?_eq_some_iff.mp feed with ⟨others, rfl⟩
    have cutting := cutLine_feed inside others
    have within : byte < byteLength (line ++ ['\n']) := by
      have one : byteLength ['\n'] = 1 := rfl
      rw [byteLength_append]
      omega
    cases whole : line ++ '\n' :: others with
    | nil => simp at whole
    | cons c chars =>
        rw [whole] at cutting
        rw [placeFrom, cutting]
        dsimp only
        rw [if_pos within, trimLineEnd_feed]

theorem placeOf_eq {source : String} (shows : Shows source.toList byte count left right) :
    placeOf source byte = ⟨count + 1, left.length, left ++ right⟩ := by
  rw [placeOf, Nat.add_comm]
  generalize source.toList = chars at shows
  cases shows with
  | @character _ c lead left right returns behind lines inside trimmed ended ends =>
      have before : byteLength left ≤ byteLength (left ++ c :: right ++ returns) := by
        rw [List.append_assoc, byteLength_append]
        omega
      have reached := ends.imp_right (And.intro · before)
      rw [byteLength_append, placeFrom_lines lines, ← List.append_assoc _ returns,
        placeFrom_line (feed_not_mem inside ended) reached,
        trimLineEnd_line inside trimmed ended, columnOf_append]
  | @finish _ lead left returns lines inside trimmed ended =>
      have past : byteLength left ≤ byteLength (left ++ returns) := by
        rw [byteLength_append]
        omega
      have found :
          placeFrom (1 + count) (byteLength (left ++ returns)) (left ++ returns ++ []) = _ :=
        placeFrom_line (feed_not_mem inside ended) (.inl rfl)
      rw [List.append_nil] at found
      rw [byteLength_append, placeFrom_lines lines, found, trimLineEnd_line inside trimmed ended,
        columnOf_of_le past, List.append_nil]

end LetLang.Text
