import LetLang.Proofs.Lexeme.Cut
import LetLang.Proofs.Scanner.Lexer

/-!
A turn cuts off the piece at the front of the text. Patterns are tried in the order in which a piece
is told by what the text starts with, and no slice that is taken on the way is out of range.
-/
namespace LetLang.Scanner.State

open Text (byteLength byteLength_cons byteLength_eq_zero cut)
open Token (Piece isBlank isNameStart isNamePart isOperator structural? scan)

variable {c : Char} {rest : List Char} {state : State}

def behind (state : State) (piece : Piece) : State :=
  ⟨state.scanner.advance (byteLength piece.text),
    (piece.token state.scanner.file state.scanner.offset).toList ++ state.tokens⟩

def after (state : State) : Except Cause Piece → Outcome Error State
  | .ok piece => .ok (state.behind piece)
  | .error cause => state.refuse cause

variable (sees : state.scanner.remainder? = some (c :: rest))
include sees

theorem remainder_eq : state.remainder = .ok (c :: rest) := by
  rw [remainder, sees]
  rfl

theorem matched_eq {pattern : Pattern} (opens : pattern.opens c rest = true) :
    state.matched pattern = .ok (pattern.text c rest) := by
  rw [matched, remainder_eq sees]
  dsimp only [bind, Except.bind]
  rw [Pattern.match?, if_pos opens]
  rfl

theorem skipMatched_eq {pattern : Pattern} (opens : pattern.opens c rest = true) :
    state.skipMatched pattern = .ok (state.skip (byteLength (pattern.text c rest))) := by
  rw [skipMatched, matched_eq sees opens]
  rfl

theorem pushWord_eq (opens : Pattern.word.opens c rest = true) :
    state.pushWord = .ok (state.behind (Token.word (cut isNamePart (c :: rest)))) := by
  rw [pushWord, matched_eq sees opens]
  rfl

theorem pushOperator_eq (opens : Pattern.operator.opens c rest = true) :
    state.pushOperator =
      .ok (state.behind ⟨some (.identifier, String.singleton c), [c], rest⟩) := by
  rw [pushOperator, matched_eq sees opens]
  rfl

theorem pushNumber_eq (opens : Pattern.number.opens c rest = true) :
    state.pushNumber = state.after (Token.number (Token.cutNumber (c :: rest))) := by
  have whole := congrArg byteLength (Token.cutNumber_append (c :: rest))
  rw [Text.byteLength_append] at whole
  rw [pushNumber, matched_eq sees opens, remainder_eq sees]
  dsimp only [bind, Except.bind, Pattern.text]
  generalize Token.cutNumber (c :: rest) = parts at whole ⊢
  have reaches : byteLength parts.1 = byteLength (c :: rest) ↔ parts.2 = [] := by
    rw [← whole, ← byteLength_eq_zero]
    omega
  rw [Token.number]
  by_cases last : parts.2 = []
  · rw [if_pos (reaches.mpr last), if_pos (List.isEmpty_iff.mpr last)]
    rfl
  · rw [if_neg (mt reaches.mp last), if_neg (mt List.isEmpty_iff.mp last)]
    rfl

omit sees in
theorem skipComment_eq {others : List Char}
    (sees : state.scanner.remainder? = some ('/' :: '*' :: others)) :
    state.skipComment = state.after (match Token.cutComment [] others with
      | some (body, rest) => .ok ⟨none, '/' :: '*' :: body, rest⟩
      | none => .error .unterminatedComment) := by
  have opened : dropBytes? 2 ('/' :: '*' :: others) = some others :=
    dropBytes?_append ['/', '*'] others
  rw [skipComment, remainder_eq sees]
  dsimp only [bind, Except.bind]
  rw [opened]
  dsimp only [Outcome.orCrash]
  cases closed : closeAt? others with
  | none =>
      rw [cutComment_of_unclosed [] closed]
      rfl
  | some bytes =>
      rcases cutComment_of_closed [] closed with ⟨body, rest, _, rfl, cut⟩
      have length : byteLength ('/' :: '*' :: (body ++ ['*', '/'])) = byteLength body + 4 := by
        rw [byteLength_cons, byteLength_cons, Text.byteLength_append]
        show 1 + (1 + (byteLength body + 2)) = _
        omega
      rw [cut]
      show Except.ok (state.skip (byteLength body + 4)) = _
      rw [← length]
      rfl

/-- Both quotes take one byte, so the value is what stands between the first and the last. -/
theorem pushString_eq (opens : Pattern.string.opens c rest = true) :
    state.pushString = state.after (Token.quoted rest) := by
  rw [pushString, matched_eq sees opens]
  dsimp only [bind, Except.bind, Pattern.text]
  rcases of_decide_eq_true opens with ⟨_, closes⟩
  rcases split : cut (· ≠ '"') rest with ⟨body, left⟩
  rcases Text.cut_until_iff.mp split with ⟨whole, inside, none | ends⟩
  · rw [whole, none, List.append_nil] at closes
    exact absurd closes inside
  · rcases List.head?_eq_some_iff.mp ends with ⟨others, rfl⟩
    have length : byteLength ('"' :: (body ++ ['"'])) = 1 + byteLength body + 1 := by
      rw [byteLength_cons, Text.byteLength_append, ← Nat.add_assoc]
      rfl
    have value : slice? 1 (1 + byteLength body) ('"' :: (body ++ ['"'])) = some body :=
      slice?_append ['"'] body ['"']
    dsimp only
    rw [length, Outcome.difference, if_pos (Nat.le_add_left 1 _), Nat.add_sub_cancel]
    dsimp only
    rw [value]
    dsimp only [Outcome.orCrash]
    rw [← length, Token.quoted, split]
    rfl

omit sees in
theorem quoted_of_unclosed (unclosed : '"' ∉ rest) :
    Token.quoted rest = .error .unterminatedString := by
  have split : cut (· ≠ '"') rest = (rest, []) :=
    Text.cut_until_iff.mpr ⟨(List.append_nil rest).symm, unclosed, .inl rfl⟩
  rw [Token.quoted, split]

/-! The patterns in their order, against the order in which a piece is told. -/

omit sees in
theorem match?_isSome (pattern : Pattern) :
    (pattern.match? (c :: rest)).isSome = pattern.opens c rest := by
  rw [Pattern.match?]
  cases pattern.opens c rest <;> rfl

theorem turn_of_found {pattern : Pattern} {scanned : Except Cause Piece}
    (found : patterns.find? (Pattern.opens c rest) = some pattern)
    (handled : state.handle pattern = state.after scanned) :
    state.turn = (state.after scanned).map .more := by
  have goesOn : ¬state.scanner.atEnd = true := mt (atEnd_iff sees).mp nofun
  rw [turn, if_neg goesOn, remainder_eq sees]
  dsimp only [bind, Except.bind]
  simp only [match?_isSome, found, handled]
  cases state.after scanned <;> rfl

theorem turn_of_none (none : patterns.find? (Pattern.opens c rest) = none) :
    state.turn = state.refuse (.unrecognisedToken (String.singleton c)) := by
  have goesOn : ¬state.scanner.atEnd = true := mt (atEnd_iff sees).mp nofun
  rw [turn, if_neg goesOn, remainder_eq sees]
  dsimp only [bind, Except.bind]
  simp only [match?_isSome, none, at?, sees]
  rfl

omit sees in
theorem find?_mark {kind : TokenKind} (known : structural? c = some kind) :
    (patterns.drop 7).find? (Pattern.opens c rest) = some (.mark c kind) := by
  unfold structural? at known
  split at known
  all_goals
    cases known
  all_goals rfl

omit sees in
theorem find?_unmarked (known : structural? c = none) :
    (patterns.drop 7).find? (Pattern.opens c rest) =
      if isOperator c then some .operator else none := by
  unfold structural? at known
  split at known
  case h_8 =>
    cases operator : isOperator c
    all_goals simp_all [patterns, Pattern.opens]
  all_goals cases known

theorem turn_of_quote (quote : c = '"')
    (search : patterns.find? (Pattern.opens c rest) =
      (patterns.drop 5).find? (Pattern.opens c rest)) :
    state.turn = (state.after (Token.quoted rest)).map .more := by
  by_cases closes : '"' ∈ rest
  · have opens : Pattern.string.opens c rest = true := decide_eq_true ⟨quote, closes⟩
    exact turn_of_found sees (search.trans (List.find?_cons_of_pos opens))
      (pushString_eq sees opens)
  · have unclosed : ¬Pattern.string.opens c rest = true := fun opens =>
      closes (of_decide_eq_true opens).2
    have opens : Pattern.quote.opens c rest = true := decide_eq_true quote
    rw [quoted_of_unclosed closes]
    exact turn_of_found sees (search.trans ((List.find?_cons_of_neg unclosed).trans
      (List.find?_cons_of_pos opens))) rfl

theorem turn_of_symbol (search : patterns.find? (Pattern.opens c rest) =
    (patterns.drop 7).find? (Pattern.opens c rest)) :
    state.turn = (state.after (Token.symbol c rest)).map .more := by
  rw [Token.symbol]
  cases known : structural? c with
  | some kind => exact turn_of_found sees (search.trans (find?_mark known)) rfl
  | none =>
      rw [find?_unmarked known] at search
      dsimp only
      by_cases operator : isOperator c = true
      · rw [if_pos operator] at search ⊢
        exact turn_of_found sees search (pushOperator_eq sees operator)
      · rw [if_neg operator] at search ⊢
        exact turn_of_none sees search

/-- By the order of the patterns: each one that does not match leaves those behind it. -/
theorem turn_eq : state.turn = (state.after (scan c rest)).map .more := by
  rw [scan]
  by_cases blank : isBlank c = true
  · rw [if_pos blank]
    exact turn_of_found sees (List.find?_cons_of_pos blank) (skipMatched_eq sees blank)
  have search : patterns.find? (Pattern.opens c rest) =
      (patterns.drop 1).find? (Pattern.opens c rest) := List.find?_cons_of_neg blank
  rw [if_neg blank]
  by_cases line : c = '/' ∧ rest.head? = some '/'
  · have opens : Pattern.lineComment.opens c rest = true := decide_eq_true line
    rw [if_pos line]
    exact turn_of_found sees (search.trans (List.find?_cons_of_pos opens))
      (skipMatched_eq sees opens)
  replace search : _ = (patterns.drop 2).find? (Pattern.opens c rest) :=
    search.trans (List.find?_cons_of_neg (mt of_decide_eq_true line))
  rw [if_neg line]
  by_cases block : c = '/' ∧ rest.head? = some '*'
  · rw [if_pos block]
    have found := search.trans (List.find?_cons_of_pos (decide_eq_true block))
    rcases block with ⟨rfl, second⟩
    rcases List.head?_eq_some_iff.mp second with ⟨others, rfl⟩
    exact turn_of_found sees found (skipComment_eq sees)
  replace search : _ = (patterns.drop 3).find? (Pattern.opens c rest) :=
    search.trans (List.find?_cons_of_neg (mt of_decide_eq_true block))
  rw [if_neg block]
  by_cases starts : isNameStart c = true
  · rw [if_pos starts]
    exact turn_of_found sees (search.trans (List.find?_cons_of_pos starts)) (pushWord_eq sees starts)
  replace search : _ = (patterns.drop 4).find? (Pattern.opens c rest) :=
    search.trans (List.find?_cons_of_neg starts)
  rw [if_neg starts]
  by_cases digit : c.isDigit = true
  · rw [if_pos digit]
    exact turn_of_found sees (search.trans (List.find?_cons_of_pos digit)) (pushNumber_eq sees digit)
  replace search : _ = (patterns.drop 5).find? (Pattern.opens c rest) :=
    search.trans (List.find?_cons_of_neg digit)
  rw [if_neg digit]
  by_cases quote : c = '"'
  · rw [if_pos quote]
    exact turn_of_quote sees quote search
  replace search : _ = (patterns.drop 7).find? (Pattern.opens c rest) :=
    search.trans ((List.find?_cons_of_neg fun opens => quote (of_decide_eq_true opens).1).trans
      (List.find?_cons_of_neg (mt of_decide_eq_true quote)))
  rw [if_neg quote]
  exact turn_of_symbol sees search

end LetLang.Scanner.State
