import LetLang.Proofs.Lexeme.Boundary
import LetLang.Proofs.Lexeme.Replace
import LetLang.Proofs.Lexeme.Visible

/-!
Two texts with a line feed between them are read one after the other. All that is read of the
second text, tokens or an error, comes to stand behind the first.
-/
namespace LetLang

def Error.shifted (bytes : Nat) (error : Error) : Error :=
  ⟨error.cause, error.position.shifted bytes⟩

def Position.Fits (bytes : Nat) (position : Position) : Prop :=
  position.offset.toNat + bytes < 2 ^ 32

theorem Position.shifted_ofNat (file : String) (offset bytes : Nat) :
    (Position.mk (.ofNat offset) file).shifted bytes = ⟨.ofNat (offset + bytes), file⟩ := by
  have wraps : UInt32.ofNat ((UInt32.ofNat offset).toNat + bytes) =
      UInt32.ofNat (offset + bytes) := by
    apply UInt32.toNat_inj.mp
    simp only [UInt32.toNat_ofNat']
    exact Nat.mod_add_mod _ _ _
  rw [shifted, wraps]

namespace Token

open Text (byteLength)

structure Within (bytes : Nat) (token : Token) : Prop where
  start : token.span.start.offset.toNat ≤ bytes
  stop : token.span.stop.offset.toNat ≤ bytes

variable {file a b : String} {file? : Option String} {offset bytes : Nat} {chars : List Char}
variable {before tokens : List Token} {token : Token}

theorem Piece.token_shifted (piece : Piece) (file : String) (offset bytes : Nat) :
    piece.token file (offset + bytes) = (piece.token file offset).map (Token.shifted bytes) := by
  have stops : offset + bytes + byteLength piece.text =
      offset + byteLength piece.text + bytes := Nat.add_right_comm _ _ _
  cases spelled : piece.token? with
  | none => simp only [token, spelled, Option.map_none]
  | some content =>
      simp only [token, spelled, Option.map_some, Token.shifted, Position.shifted_ofNat, stops]

/-- By induction on the reading of a text that comes to stand further back: every piece moves, and
the tokens that are kept stay before its own. -/
theorem tokenizeFrom_shifted (bytes : Nat) (kept : List Token) :
    tokenizeFrom file (offset + bytes) (before.map (Token.shifted bytes) ++ kept) chars =
      match tokenizeFrom file offset before chars with
      | .ok tokens => .ok (kept.reverse ++ tokens.map (Token.shifted bytes))
      | .error error => .error (error.shifted bytes) := by
  fun_induction tokenizeFrom file offset before chars with
  | case1 offset before =>
      rw [tokenizeFrom]
      simp
  | case2 offset before c rest cause failed =>
      rw [Lexeme.tokenizeFrom_stuck failed, ← Position.shifted_ofNat]
      rfl
  | case3 offset before c rest piece scanned ih =>
      have moves : offset + byteLength piece.text + bytes =
          offset + bytes + byteLength piece.text := Nat.add_right_comm _ _ _
      have made : (piece.token file (offset + bytes)).toList =
          (piece.token file offset).toList.map (Token.shifted bytes) := by
        rw [Piece.token_shifted, Option.toList_map]
      rw [← ih, moves, List.map_append, List.append_assoc, ← made]
      rcases Lexeme.scan_eq_ok.mp scanned with ⟨lexeme, after, stands, whole, rfl⟩
      rw [← whole, Lexeme.tokenizeFrom_stands stands]

/-- No piece of a text that has tokens goes on over a line feed that is put behind it. -/
theorem tokenize_feed (read : tokenize a file? = .ok tokens) (b : String) :
    tokenize (a ++ "\n" ++ b) file? =
      match tokenize b file? with
      | .ok others => .ok (tokens ++ others.map (Token.shifted (a.utf8ByteSize + 1)))
      | .error error => .error (error.shifted (a.utf8ByteSize + 1)) := by
  have chars : (a ++ "\n" ++ b).toList = a.toList ++ '\n' :: b.toList := by simp
  have place : 0 + byteLength a.toList + 1 = 0 + (a.utf8ByteSize + 1) := by
    rw [Text.byteLength_toList, Nat.add_assoc]
  have settled := Lexeme.settled_of_ok read
  have moved := @tokenizeFrom_shifted (file?.getD unnamedFile) 0 b.toList [] (a.utf8ByteSize + 1)
    tokens.reverse
  rw [List.reverse_reverse] at moved
  rw [tokenize, tokenize, chars, settled.feed [] b.toList, place, List.append_nil]
  exact moved

theorem Piece.token_within {piece : Piece} (made : piece.token file offset = some token) :
    token.Within (offset + byteLength piece.text) := by
  rcases Option.map_eq_some_iff.mp made with ⟨content, spelled, rfl⟩
  constructor
  · exact Nat.le_trans (Nat.mod_le _ _) (Nat.le_add_right _ _)
  · exact Nat.mod_le _ _

theorem within_of_tokenizeFrom (fits : offset + byteLength chars ≤ bytes)
    (earlier : ∀ token ∈ before, token.Within bytes)
    (read : tokenizeFrom file offset before chars = .ok tokens) :
    ∀ token ∈ tokens, token.Within bytes := by
  fun_induction tokenizeFrom file offset before chars with
  | case1 offset before =>
      cases read
      simpa using earlier
  | case2 => cases read
  | case3 offset before c rest piece scanned ih =>
      rw [← (scan_split scanned).1, Text.offset_append] at fits
      apply ih fits _ read
      intro token member
      rcases List.mem_append.mp member with made | kept
      · have within := Piece.token_within (Option.mem_toList.mp made)
        constructor
        · exact Nat.le_trans within.start (by omega)
        · exact Nat.le_trans within.stop (by omega)
      · exact earlier token kept

/-- Whatever the first text ends with, it has its tokens before a line feed, and the second text is
read from behind the line feed as it is read alone. -/
theorem tokenize_join (file? : Option String)
    (short : (a ++ "\n" ++ b).utf8ByteSize < 2 ^ 32) (read : tokenize a file? = .ok tokens) :
    (∀ others, tokenize b file? = .ok others →
      tokenize (a ++ "\n" ++ b) file? =
        .ok (tokens ++ others.map (Token.shifted (a.utf8ByteSize + 1))) ∧
      ∀ token ∈ others, token.span.start.Fits (a.utf8ByteSize + 1) ∧
        token.span.stop.Fits (a.utf8ByteSize + 1)) ∧
    ∀ error, tokenize b file? = .error error →
      tokenize (a ++ "\n" ++ b) file? = .error (error.shifted (a.utf8ByteSize + 1)) ∧
        error.position.Fits (a.utf8ByteSize + 1) := by
  have lengths : (a ++ "\n" ++ b).utf8ByteSize = a.utf8ByteSize + 1 + b.utf8ByteSize := by
    rw [String.utf8ByteSize_append, String.utf8ByteSize_append]
    rfl
  rw [lengths] at short
  have joined := tokenize_feed read b
  constructor
  · intro others behind
    rw [behind] at joined
    refine ⟨joined, ?_⟩
    intro token member
    have bytes : 0 + byteLength b.toList ≤ b.utf8ByteSize := by
      rw [Text.byteLength_toList, Nat.zero_add]
    have within := within_of_tokenizeFrom bytes (List.forall_mem_nil _) behind token member
    have start := within.start
    have stop := within.stop
    simp only [Position.Fits]
    omega
  · intro error behind
    rw [behind] at joined
    refine ⟨joined, ?_⟩
    have fits : b.utf8ByteSize < 2 ^ 32 := by omega
    rcases (visible_of_tokenize fits behind).1.exists_character with
      ⟨front, c, back, whole, place, _⟩
    have total : byteLength front + byteLength (c :: back) = b.utf8ByteSize := by
      rw [← Text.byteLength_append, ← whole, Text.byteLength_toList]
    simp only [Position.Fits, place]
    omega

theorem tokenize_join_comment :
    tokenize ("x // \"" ++ "\n" ++ "y;") none =
      .ok [⟨.identifier, "x", ⟨0, "shell"⟩, ⟨1, "shell"⟩⟩,
        ⟨.identifier, "y", ⟨7, "shell"⟩, ⟨8, "shell"⟩⟩,
        ⟨.semicolon, ";", ⟨8, "shell"⟩, ⟨9, "shell"⟩⟩] := by
  have read : tokenize "x // \"" none =
      .ok [⟨.identifier, "x", ⟨0, "shell"⟩, ⟨1, "shell"⟩⟩] := by
    cbv
  have behind : tokenize "y;" none =
      .ok [⟨.identifier, "y", ⟨0, "shell"⟩, ⟨1, "shell"⟩⟩,
        ⟨.semicolon, ";", ⟨1, "shell"⟩, ⟨2, "shell"⟩⟩] := by
    cbv
  have short : ("x // \"" ++ "\n" ++ "y;").utf8ByteSize < 2 ^ 32 := by decide
  exact ((tokenize_join none short read).1 _ behind).1

end Token
end LetLang
