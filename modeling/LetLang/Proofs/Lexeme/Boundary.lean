import LetLang.Proofs.Lexeme.Gap
import LetLang.Proofs.Lexeme.Tokenize

/-!
Where a token starts or stops, a text and its tokens come apart, and a gap can be put between.
-/
namespace LetLang

/-! Places that move along when bytes are put in at an offset. -/

def Position.shifted (bytes : Nat) (position : Position) : Position :=
  ⟨.ofNat (position.offset.toNat + bytes), position.file⟩

def Position.moved (offset bytes : Nat) (position : Position) : Position :=
  if position.offset.toNat < offset then position else position.shifted bytes

def Token.shifted (bytes : Nat) (token : Token) : Token :=
  ⟨token.kind, token.value, ⟨token.span.start.shifted bytes, token.span.stop.shifted bytes⟩⟩

/-- Both ends move, or none; the start tells. -/
def Token.moved (offset bytes : Nat) (token : Token) : Token :=
  if token.start.offset.toNat < offset then token else token.shifted bytes

theorem Token.start_moved (offset bytes : Nat) (token : Token) :
    (token.moved offset bytes).start = token.start.moved offset bytes := by
  unfold moved Position.moved
  split
  · rfl
  · rfl

namespace Lexeme

open Text (byteLength)

def Edge (offset : Nat) (tokens : List Token) : Prop :=
  ∃ token ∈ tokens, token.span.start.offset.toNat = offset ∨
    token.span.stop.offset.toNat = offset

/-- Text from an offset on, parted together with its tokens. The front part gives its tokens
whatever text a blank opens behind it. -/
structure Parted (file : String) (offset : Nat) (front back : List Char)
    (firsts lasts : List Token) : Prop where
  ahead : ∀ token ∈ firsts, token.start.offset.toNat < offset + byteLength front
  kept : ∀ other before, Follows IsBlank other →
    Token.tokenizeFrom file offset before (front ++ other) =
      Token.tokenizeFrom file (offset + byteLength front) (firsts.reverse ++ before) other
  behind : ∃ lexemes, Reads back lexemes ∧
    Yields file (offset + byteLength front) lexemes lasts

variable {file : String} {offset place : Nat} {lexeme : Lexeme} {lexemes : List Lexeme}
variable {chars rest front back : List Char} {token : Token} {tokens firsts lasts : List Token}

theorem parted_nil (reads : Reads back lexemes) (yields : Yields file offset lexemes tokens) :
    Parted file offset [] back [] tokens where
  ahead := nofun
  kept := fun _ _ _ => rfl
  behind := ⟨lexemes, reads, yields⟩

/-- A visible character is no line feed, so no comment in front of the text could go on over it. -/
theorem lineComment_before_blank {body other : List Char} (inside : '\n' ∉ body)
    (ends : front ++ back = [] ∨ (front ++ back).head? = some '\n')
    (visible : front = [] → Follows (¬IsBlank ·) back) :
    Stands (front ++ other) ⟨.lineComment, '/' :: '/' :: body⟩ := by
  cases front with
  | nil =>
      rcases visible rfl with ⟨c, first, visible⟩
      rcases ends with empty | feed
      · rw [List.nil_append] at empty
        rw [empty] at first
        cases first
      · have same : c = '\n' := Option.some.inj (first.symm.trans feed)
        exact absurd (.inr (.inr (.inr same))) visible
  | cons c others =>
      rcases ends with empty | feed
      · cases empty
      · exact .lineComment inside (.inr feed)

theorem tokenizeFrom_unmarked {other : List Char} (stands : Stands (front ++ back) lexeme)
    (unmarked : lexeme.token? = none) (visible : front = [] → Follows (¬IsBlank ·) back)
    (before : List Token) :
    Token.tokenizeFrom file offset before (lexeme.text ++ (front ++ other)) =
      Token.tokenizeFrom file (offset + byteLength lexeme.text) before (front ++ other) := by
  cases stands with
  | blanks nonempty inside ends => exact tokenizeFrom_blanks inside (front ++ other)
  | lineComment inside ends =>
      exact tokenizeFrom_dropped (lineComment_before_blank inside ends visible) rfl
  | blockComment first => exact tokenizeFrom_dropped (.blockComment first) rfl
  | word =>
      simp only [token?] at unmarked
      split at unmarked
      · cases unmarked
      · split at unmarked
        · cases unmarked
        · cases unmarked
  | mark listed => simp [token?, (mark_symbol listed).2] at unmarked
  | _ => simp [token?] at unmarked

theorem Parted.unmarked
    (parted : Parted file (offset + byteLength lexeme.text) front back firsts lasts)
    (stands : Stands (front ++ back) lexeme) (unmarked : lexeme.token? = none)
    (visible : front = [] → Follows (¬IsBlank ·) back) :
    Parted file offset (lexeme.text ++ front) back firsts lasts := by
  have lengths := Text.offset_append offset lexeme.text front
  constructor
  · rw [lengths]
    exact parted.ahead
  · intro other before blank
    rw [lengths, ← parted.kept other before blank, List.append_assoc]
    exact tokenizeFrom_unmarked stands unmarked visible before
  · rw [lengths]
    exact parted.behind

theorem Parted.marked
    (parted : Parted file (offset + byteLength lexeme.text) front back firsts lasts)
    (stands : Stands (front ++ back) lexeme) (spells : Spells file offset lexeme token)
    (short : offset + byteLength lexeme.text < 2 ^ 32) :
    Parted file offset (lexeme.text ++ front) back (token :: firsts) lasts := by
  have lengths := Text.offset_append offset lexeme.text front
  constructor
  · intro other member
    rw [lengths]
    rcases List.mem_cons.mp member with rfl | later
    · have start : other.start.offset.toNat = offset := spells.start
      have positive := Text.byteLength_pos stands.text_ne_nil
      omega
    · exact parted.ahead other later
  · intro other before blank
    -- The token ends where it did: the blank comes right behind it, or behind more of the front.
    have made := (@spells_iff (front ++ other) lexeme file offset token short).mp spells
    calc
      _ = Token.tokenizeFrom file offset before (lexeme.text ++ (front ++ other)) := by
        rw [List.append_assoc]
      _ = Token.tokenizeFrom file (offset + byteLength lexeme.text) (token :: before)
          (front ++ other) := by
        rw [tokenizeFrom_stands (stands.before_blank spells.marked blank), made]
        rfl
      _ = Token.tokenizeFrom file (offset + byteLength (lexeme.text ++ front))
          ((token :: firsts).reverse ++ before) other := by
        rw [parted.kept other _ blank, lengths]
        simp
  · rw [lengths]
    exact parted.behind

/-- A text from an offset on comes apart with its tokens at a place. An empty front part is followed
by a visible character, so that a line comment before it ends where it did. -/
def Divides (file : String) (offset place : Nat) (chars : List Char) (tokens : List Token) : Prop :=
  ∃ front back firsts lasts, chars = front ++ back ∧ tokens = firsts ++ lasts ∧
    offset + byteLength front = place ∧ Parted file offset front back firsts lasts ∧
    (front = [] → Follows (¬IsBlank ·) back)

theorem divides_behind_token
    (parted : Parted file (offset + byteLength lexeme.text) front back firsts lasts)
    (stands : Stands (front ++ back) lexeme) (spells : Spells file offset lexeme token)
    (short : offset + byteLength lexeme.text < 2 ^ 32)
    (reached : offset + byteLength lexeme.text + byteLength front = place) :
    Divides file offset place (lexeme.text ++ (front ++ back)) (token :: (firsts ++ lasts)) := by
  refine ⟨lexeme.text ++ front, back, token :: firsts, lasts, ?_, rfl, ?_,
    parted.marked stands spells short, ?_⟩
  · rw [List.append_assoc]
  · rw [Text.offset_append, reached]
  · intro empty
    exact absurd (List.append_eq_nil_iff.mp empty).1 stands.text_ne_nil

theorem divides_behind_unmarked (stands : Stands rest lexeme) (unmarked : lexeme.token? = none)
    (divides : Divides file (offset + byteLength lexeme.text) place rest tokens) :
    Divides file offset place (lexeme.text ++ rest) tokens := by
  rcases divides with ⟨front, back, firsts, lasts, rfl, rfl, rfl, parted, visible⟩
  refine ⟨lexeme.text ++ front, back, firsts, lasts, ?_, rfl, ?_,
    parted.unmarked stands unmarked visible, ?_⟩
  · rw [List.append_assoc]
  · rw [Text.offset_append]
  · intro empty
    exact absurd (List.append_eq_nil_iff.mp empty).1 stands.text_ne_nil

theorem divides_of_edge (reads : Reads chars lexemes) (yields : Yields file offset lexemes tokens)
    (edge : Edge place tokens) (short : offset + byteLength chars < 2 ^ 32) :
    Divides file offset place chars tokens := by
  induction reads generalizing offset tokens with
  | done =>
      cases yields
      rcases edge with ⟨_, member, _⟩
      cases member
  | @piece lexeme rest lexemes stands others ih =>
      rw [Text.offset_append] at short
      have inside : offset + byteLength lexeme.text < 2 ^ 32 := by omega
      cases yields with
      | dropped unmarked later =>
          exact divides_behind_unmarked stands unmarked (ih later edge short)
      | @token _ _ _ token behind spells later =>
          rcases edge with ⟨bound, member, side⟩
          -- The boundary is one of the first token, or that token stands in front of it.
          rcases List.mem_cons.mp member with rfl | member
          · rcases side with start | stop
            · have reached : offset = place := spells.start.symm.trans start
              exact ⟨[], lexeme.text ++ rest, [], bound :: behind, rfl, rfl, reached,
                parted_nil (.piece stands others) (.token spells later),
                fun _ => stands.visible spells.marked⟩
            · have reached : offset + byteLength lexeme.text = place :=
                spells.stop.symm.trans stop
              exact divides_behind_token (parted_nil others later) stands spells inside reached
          · rcases ih later ⟨bound, member, side⟩ short with
              ⟨front, back, firsts, lasts, rfl, rfl, reached, parted, _⟩
            exact divides_behind_token parted stands spells inside reached

/-! Text that comes to stand further back has the same tokens there. -/

theorem Spells.shifted {bytes : Nat} (spells : Spells file offset lexeme token)
    (short : offset + bytes + byteLength lexeme.text < 2 ^ 32) :
    Spells file (offset + bytes) lexeme (token.shifted bytes) where
  written := spells.written
  start := by
    have fits : offset + bytes < 2 ^ 32 := by omega
    have kept : (UInt32.ofNat (offset + bytes)).toNat = offset + bytes :=
      UInt32.toNat_ofNat_of_lt' fits
    rw [← spells.start] at kept ⊢
    exact kept
  stop := by
    have moves : token.span.stop.offset.toNat + bytes =
        offset + bytes + byteLength lexeme.text := by
      rw [spells.stop]
      omega
    have kept : (UInt32.ofNat (offset + bytes + byteLength lexeme.text)).toNat =
        offset + bytes + byteLength lexeme.text := UInt32.toNat_ofNat_of_lt' short
    rw [← moves] at kept ⊢
    exact kept
  startFile := spells.startFile
  stopFile := spells.stopFile

theorem Yields.shifted {bytes : Nat} (reads : Reads chars lexemes)
    (yields : Yields file offset lexemes tokens)
    (short : offset + bytes + byteLength chars < 2 ^ 32) :
    Yields file (offset + bytes) lexemes (tokens.map (Token.shifted bytes)) := by
  induction reads generalizing offset tokens with
  | done =>
      cases yields
      exact .done
  | @piece lexeme rest lexemes stands others ih =>
      rw [Text.byteLength_append] at short
      have moves : offset + byteLength lexeme.text + bytes =
          offset + bytes + byteLength lexeme.text := by omega
      have behind : ∀ {later}, Yields file (offset + byteLength lexeme.text) lexemes later →
          Yields file (offset + bytes + byteLength lexeme.text) lexemes
            (later.map (Token.shifted bytes)) := by
        intro later yields
        rw [← moves]
        exact ih yields (by omega)
      cases yields with
      | dropped unmarked later => exact .dropped unmarked (behind later)
      | token spells later => exact .token (spells.shifted (by omega)) (behind later)

theorem Yields.le_start (yields : Yields file offset lexemes tokens) :
    ∀ token ∈ tokens, offset ≤ token.start.offset.toNat := by
  induction yields with
  | done => exact nofun
  | dropped unmarked others ih =>
      intro token member
      exact Nat.le_trans (Nat.le_add_right _ _) (ih token member)
  | token first others ih =>
      intro token member
      rcases List.mem_cons.mp member with rfl | later
      · exact Nat.le_of_eq first.start.symm
      · exact Nat.le_trans (Nat.le_add_right _ _) (ih token later)

theorem Parted.map_moved {bytes : Nat} (parted : Parted file offset front back firsts lasts) :
    (firsts ++ lasts).map (Token.moved (offset + byteLength front) bytes) =
      firsts ++ lasts.map (Token.shifted bytes) := by
  have stays : ∀ token ∈ firsts, token.moved (offset + byteLength front) bytes = token :=
    fun token member => if_pos (parted.ahead token member)
  have moves : ∀ token ∈ lasts,
      token.moved (offset + byteLength front) bytes = token.shifted bytes := by
    intro token member
    rcases parted.behind with ⟨_, _, yields⟩
    exact if_neg (Nat.not_lt.mpr (yields.le_start token member))
  calc
    _ = firsts.map (Token.moved (offset + byteLength front) bytes) ++
        lasts.map (Token.moved (offset + byteLength front) bytes) := List.map_append
    _ = firsts ++ lasts.map (Token.shifted bytes) := by
      rw [List.map_congr_left moves, List.map_congr_left stays, List.map_id']

/-- A gap between the two parts leaves the tokens of the front where they are and moves the others
by the bytes that it takes. -/
theorem Parted.tokenizeFrom_gap {gap : List Char}
    (parted : Parted file offset front back firsts lasts) (separates : Separates gap)
    (short : offset + byteLength (front ++ (gap ++ back)) < 2 ^ 32) :
    Token.tokenizeFrom file offset [] (front ++ (gap ++ back)) =
      .ok ((firsts ++ lasts).map (Token.moved (offset + byteLength front) (byteLength gap))) := by
  rcases parted.behind with ⟨lexemes, reads, yields⟩
  have opened : Follows IsBlank (gap ++ back) := by
    rcases separates.opened with ⟨c, first, blank⟩
    exact ⟨c, by rw [List.head?_append, first]; rfl, blank⟩
  simp only [Text.offset_append] at short
  have moved := yields.shifted reads short
  calc
    _ = Token.tokenizeFrom file (offset + byteLength front) (firsts.reverse ++ [])
        (gap ++ back) := parted.kept _ _ opened
    _ = Token.tokenizeFrom file (offset + byteLength front + byteLength gap)
        (firsts.reverse ++ []) back := Lexeme.tokenizeFrom_gap separates.passed back
    _ = .ok (firsts ++ lasts.map (Token.shifted (byteLength gap))) := by
      refine (tokenizeFrom_eq_ok short).mpr ⟨lexemes, _, reads, moved, ?_⟩
      rw [List.append_nil, List.reverse_reverse]
    _ = _ := by rw [parted.map_moved]

end Lexeme
end LetLang
