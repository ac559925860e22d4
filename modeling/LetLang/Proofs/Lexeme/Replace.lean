import LetLang.Proofs.Lexeme.Gap
import LetLang.Proofs.Lexeme.Tokenize

/-!
What stands behind a text can be replaced without a change to the tokens in front of it: by a line
feed with anything behind it, or by a text that opens with the same character. Every text comes
apart so, into a front part whose tokens are settled and the place where the reading of it stops.
-/
namespace LetLang.Lexeme

open Text (byteLength)

/-- What can come in the place of a text. A point opens the fraction of a number in front of it if a
digit comes behind, so it keeps what follows it. -/
inductive ReplacedBy (back : List Char) : List Char → Prop
  | same : ReplacedBy back back
  | feed {rest : List Char} : ReplacedBy back ('\n' :: rest)
  | opening {c : Char} {rest other : List Char} (opens : back = c :: rest) (pointless : c ≠ '.') :
      ReplacedBy back (c :: other)

/-- A text with its tokens, which are the same whatever comes in the place of the text behind it. -/
def Settled (file : String) (offset : Nat) (front back : List Char) (tokens : List Token) : Prop :=
  ∀ other, ReplacedBy back other → ∀ before,
    Token.tokenizeFrom file offset before (front ++ other) =
      Token.tokenizeFrom file (offset + byteLength front) (tokens.reverse ++ before) other

inductive Stops : List Char → Prop
  | finish : Stops []
  | stuck {c : Char} {rest : List Char} {cause : Cause}
      (failed : Token.scan c rest = .error cause) : Stops (c :: rest)

variable {file : String} {offset : Nat} {before tokens : List Token} {lexeme : Lexeme}
variable {c : Char} {front back rest other chars : List Char} {cause : Cause}

theorem follows_append_cons {holds : Char → Prop} :
    Follows holds (front ++ c :: other) ↔ Follows holds (front ++ c :: rest) := by
  cases front with
  | nil => simp [Follows]
  | cons d front => simp [Follows]

theorem followsFraction_append_cons (pointless : c ≠ '.')
    (fraction : FollowsFraction (front ++ c :: other)) : FollowsFraction (front ++ c :: rest) := by
  obtain ⟨point, digit⟩ := fraction
  cases front with
  | nil => exact absurd (Option.some.inj point) pointless
  | cons d front => exact ⟨point, follows_append_cons.mp digit⟩

/-- Only the first character behind a lexeme tells where it ends, and the second where the first is
a point. -/
theorem Stands.before_opening (stands : Stands (front ++ c :: rest) lexeme) (pointless : c ≠ '.')
    (other : List Char) : Stands (front ++ c :: other) lexeme := by
  have kept : ∀ {holds : Char → Prop}, ¬Follows holds (front ++ c :: rest) →
      ¬Follows holds (front ++ c :: other) :=
    fun ends follows => ends (follows_append_cons.mp follows)
  have nonempty : front ++ c :: other ≠ [] := by simp
  cases stands with
  | blanks some inside ends => exact .blanks some inside (kept ends)
  | lineComment inside ends =>
      apply Stands.lineComment inside
      cases front with
      | nil => simpa using ends
      | cons d front => simpa using ends
  | blockComment first => exact .blockComment first
  | word starts inside ends => exact .word starts inside (kept ends)
  | whole digits inside ends unbroken followed =>
      have still : ¬FollowsFraction (front ++ c :: other) :=
        fun fraction => unbroken (followsFraction_append_cons pointless fraction)
      exact .whole digits inside (kept ends) still nonempty
  | fraction digits inside more behind ends followed =>
      exact .fraction digits inside more behind (kept ends) nonempty
  | string inside => exact .string inside
  | mark listed => exact .mark listed
  | operator listed opens => exact .operator listed fun slash => kept (opens slash)

/-- A comment to the end of its line ends at this line feed, if it did not end before. -/
theorem Stands.before_feed (stands : Stands (front ++ back) lexeme)
    (visible : lexeme.shape ≠ .blanks) (rest : List Char) :
    Stands (front ++ '\n' :: rest) lexeme := by
  by_cases marked : lexeme.token? = none
  · cases stands with
    | blanks => exact absurd rfl visible
    | lineComment inside ends =>
        apply Stands.lineComment inside
        cases front with
        | nil => exact .inr rfl
        | cons d front => simpa using ends
    | blockComment first => exact .blockComment first
    | word starts inside ends =>
        simp only [token?] at marked
        split at marked
        · cases marked
        · split at marked
          · cases marked
          · cases marked
    | mark listed => simp [token?, (mark_symbol listed).2] at marked
    | _ => simp [token?] at marked
  · exact stands.before_blank marked ⟨'\n', rfl, .inr (.inr (.inr rfl))⟩

/-- Blanks that go on over a replacement are passed over with it; any other piece stays. -/
theorem tokenizeFrom_replaced (stands : Stands (front ++ back) lexeme)
    (replaced : ReplacedBy back other) :
    Token.tokenizeFrom file offset before (lexeme.text ++ (front ++ other)) =
      Token.tokenizeFrom file (offset + byteLength lexeme.text)
        ((Token.Piece.token ⟨lexeme.token?, lexeme.text, front ++ back⟩ file offset).toList ++
          before) (front ++ other) := by
  by_cases blank : lexeme.shape = .blanks
  · cases stands with
    | blanks some inside ends => exact tokenizeFrom_blanks inside (front ++ other)
    | _ => cases blank
  · have still : Stands (front ++ other) lexeme := by
      cases replaced with
      | same => exact stands
      | feed => exact stands.before_feed blank _
      | opening opens pointless =>
          rw [opens] at stands
          exact stands.before_opening pointless _
    exact tokenizeFrom_stands still

theorem settled_nil (file : String) (offset : Nat) (back : List Char) :
    Settled file offset [] back [] :=
  fun _ _ _ => rfl

theorem Settled.piece
    (settled : Settled file (offset + byteLength lexeme.text) front back tokens)
    (stands : Stands (front ++ back) lexeme) :
    Settled file offset (lexeme.text ++ front) back
      ((Token.Piece.token ⟨lexeme.token?, lexeme.text, front ++ back⟩ file offset).toList ++
        tokens) := by
  intro other replaced before
  rw [List.append_assoc, tokenizeFrom_replaced stands replaced, settled other replaced,
    Text.offset_append, reverse_toList_append]

/-- By induction on the reading of the text: a piece that is cut off is settled, since it stands in
front of a text that opens as before. -/
theorem exists_settled (file : String) (offset : Nat) (before : List Token) (chars : List Char) :
    ∃ front back tokens, chars = front ++ back ∧ Settled file offset front back tokens ∧
      Stops back := by
  fun_induction Token.tokenizeFrom file offset before chars with
  | case1 offset => exact ⟨[], [], [], rfl, settled_nil file offset [], .finish⟩
  | case2 offset before c rest cause failed =>
      exact ⟨[], c :: rest, [], rfl, settled_nil file offset _, .stuck failed⟩
  | case3 offset before c rest piece scanned ih =>
      obtain ⟨lexeme, after, stands, whole, rfl⟩ := scan_eq_ok.mp scanned
      obtain ⟨front, back, tokens, rfl, settled, stops⟩ := ih
      refine ⟨lexeme.text ++ front, back, _, ?_, settled.piece stands, stops⟩
      rw [← whole, List.append_assoc]

theorem tokenizeFrom_stuck (failed : Token.scan c rest = .error cause) :
    Token.tokenizeFrom file offset before (c :: rest) =
      .error ⟨cause, ⟨.ofNat offset, file⟩⟩ := by
  rw [Token.tokenizeFrom]
  split
  · rename_i same
    rw [failed] at same
    cases same
    rfl
  · rename_i scanned
    rw [failed] at scanned
    cases scanned

theorem Settled.feed (settled : Settled file offset front back tokens) (before : List Token)
    (rest : List Char) :
    Token.tokenizeFrom file offset before (front ++ '\n' :: rest) =
      Token.tokenizeFrom file (offset + byteLength front + 1) (tokens.reverse ++ before) rest := by
  have blank : ∀ c ∈ ['\n'], IsBlank c := by simp [IsBlank]
  calc
    _ = Token.tokenizeFrom file (offset + byteLength front) (tokens.reverse ++ before)
        ('\n' :: rest) := settled _ .feed before
    _ = _ := tokenizeFrom_blanks blank rest

theorem settled_of_ok (read : Token.tokenizeFrom file offset [] chars = .ok tokens) :
    Settled file offset chars [] tokens := by
  obtain ⟨front, back, own, rfl, settled, stops⟩ := exists_settled file offset [] chars
  rw [settled back .same] at read
  cases stops with
  | stuck failed =>
      rw [tokenizeFrom_stuck failed] at read
      cases read
  | finish =>
      rw [Token.tokenizeFrom, List.append_nil, List.reverse_reverse] at read
      cases read
      rw [List.append_nil]
      exact settled

theorem settled_of_error {error : Error}
    (failed : Token.tokenizeFrom file offset [] chars = .error error) :
    ∃ front c rest tokens, chars = front ++ c :: rest ∧
      Settled file offset front (c :: rest) tokens ∧ Token.scan c rest = .error error.cause ∧
      error.position = ⟨.ofNat (offset + byteLength front), file⟩ := by
  obtain ⟨front, back, own, rfl, settled, stops⟩ := exists_settled file offset [] chars
  rw [settled back .same] at failed
  cases stops with
  | finish =>
      rw [Token.tokenizeFrom] at failed
      cases failed
  | @stuck c rest cause refused =>
      rw [tokenizeFrom_stuck refused] at failed
      cases failed
      exact ⟨front, c, rest, own, rfl, settled, refused, rfl⟩

end LetLang.Lexeme
