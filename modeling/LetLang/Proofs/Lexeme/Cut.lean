import LetLang.Proofs.Lexeme.Basic

/-! Where text is cut: the classes of characters, the longest stretch of one, and what ends it. -/
namespace LetLang

namespace Lexeme

theorem isBlank_iff {c : Char} : Token.isBlank c = true ↔ IsBlank c := by
  simp [Token.isBlank, IsBlank, or_assoc]

theorem isDigit_iff {c : Char} : c.isDigit = true ↔ IsDigit c := by
  simp only [Char.isDigit, Bool.and_eq_true, decide_eq_true_eq, IsDigit]
  rfl

theorem isNameStart_iff {c : Char} : Token.isNameStart c = true ↔ IsNameStart c := by
  have letters : c.isAlpha = true ↔ 'A' ≤ c ∧ c ≤ 'Z' ∨ 'a' ≤ c ∧ c ≤ 'z' := by
    show (decide ('A' ≤ c ∧ c ≤ 'Z') || decide ('a' ≤ c) && decide (c ≤ 'z')) = true ↔ _
    simp only [Bool.or_eq_true, Bool.and_eq_true, decide_eq_true_eq]
  rw [Token.isNameStart, Bool.or_eq_true, letters, decide_eq_true_iff, IsNameStart, or_assoc,
    or_left_comm]

theorem isNamePart_iff {c : Char} : Token.isNamePart c = true ↔ IsNamePart c := by
  rw [IsNamePart, ← isNameStart_iff, ← isDigit_iff]
  simp only [Token.isNamePart, Token.isNameStart, Char.isAlphanum, Bool.or_eq_true]
  exact or_right_comm

theorem isOperator_iff {c : Char} : Token.isOperator c = true ↔ c ∈ operators := by
  rw [Token.isOperator, Operator.symbols_eq, List.contains_iff_mem, operators]

end Lexeme

namespace Text

open Lexeme (Follows)

variable {p : Char → Bool} {holds : Char → Prop} {chars front rest : List Char}

theorem cut_eq_iff (same : ∀ c, p c = true ↔ holds c) :
    cut p chars = (front, rest) ↔
      chars = front ++ rest ∧ (∀ c ∈ front, holds c) ∧ ¬Follows holds rest := by
  constructor
  · intro split
    cases split
    refine ⟨List.takeWhile_append_dropWhile.symm, ?_, ?_⟩
    · intro c member
      have inside := List.all_eq_true.mp (List.all_takeWhile (p := p)) c member
      exact (same c).mp inside
    · intro follows
      rcases follows with ⟨c, first, more⟩
      have ends := List.head?_dropWhile_not p chars
      rw [first] at ends
      rw [← same, ends] at more
      cases more
  · intro split
    rcases split with ⟨rfl, inside, ends⟩
    have before : ∀ c ∈ front, p c = true := fun c member => (same c).mpr (inside c member)
    rw [cut, List.takeWhile_append_of_pos before, List.dropWhile_append_of_pos before]
    rcases rest with _ | ⟨c, others⟩
    · simp
    · have stops : ¬p c = true := by
        intro more
        exact ends ⟨c, rfl, (same c).mp more⟩
      simp [stops]

theorem cut_until_iff {stop : Char} :
    cut (· ≠ stop) chars = (front, rest) ↔
      chars = front ++ rest ∧ stop ∉ front ∧ (rest = [] ∨ rest.head? = some stop) := by
  have ends : ¬Follows (· ≠ stop) rest ↔ rest = [] ∨ rest.head? = some stop := by
    cases rest with
    | nil => simp [Follows]
    | cons c others => simp [Follows]
  have inside : (∀ c ∈ front, c ≠ stop) ↔ stop ∉ front := by
    constructor
    · intro other member
      exact other stop member rfl
    · intro absent c member same
      exact absent (same ▸ member)
  rw [cut_eq_iff fun _ => decide_eq_true_iff, ends, inside]

end Text

namespace Token

open Lexeme (Follows FollowsFraction IsDigit isDigit_iff)

variable {seen chars front rest : List Char}

/-- A star and a slash at the front of what ends in a star, read off the first two characters. -/
theorem closes_iff {c : Char} {body : List Char} :
    ['*', '/'] <+: c :: (body ++ ['*']) ↔ c = '*' ∧ (body ++ '*' :: rest).head? = some '/' := by
  cases body with
  | nil => simp [List.cons_prefix_cons]
  | cons next body => simp [List.cons_prefix_cons, eq_comm]

theorem cutComment_split (found : cutComment seen chars = some (front, rest)) :
    ∃ body, front = seen.reverse ++ (body ++ ['*', '/']) ∧ chars = body ++ '*' :: '/' :: rest ∧
      ¬['*', '/'] <:+: body ++ ['*'] := by
  fun_induction cutComment seen chars with
  | case1 seen others =>
      cases found
      exact ⟨[], rfl, rfl, by decide⟩
  | case2 seen c others goesOn ih =>
      rcases ih found with ⟨body, whole, split, first⟩
      refine ⟨c :: body, by simp [whole], by rw [split]; rfl, ?_⟩
      intro closed
      rcases List.infix_cons_iff.mp closed with starts | behind
      · rcases closes_iff.mp starts with ⟨star, slash⟩
        rw [← split] at slash
        rcases List.head?_eq_some_iff.mp slash with ⟨after, same⟩
        exact goesOn after star same
      · exact first behind
  | case3 => cases found

theorem cutComment_append_eq {body : List Char} (first : ¬['*', '/'] <:+: body ++ ['*']) :
    cutComment seen (body ++ '*' :: '/' :: rest) =
      some (seen.reverse ++ (body ++ ['*', '/']), rest) := by
  induction body generalizing seen with
  | nil => rfl
  | cons c body ih =>
      have goesOn : ∀ after, c = '*' → body ++ '*' :: '/' :: rest = '/' :: after → False := by
        intro after star same
        have starts : ['*', '/'] <+: c :: (body ++ ['*']) :=
          closes_iff.mpr ⟨star, by rw [same]; rfl⟩
        exact first starts.isInfix
      have later : ¬['*', '/'] <:+: body ++ ['*'] := by
        intro behind
        exact first (List.infix_cons_iff.mpr (.inr behind))
      rw [List.cons_append, cutComment.eq_2 seen c _ goesOn, ih later]
      simp

theorem cutComment_eq_some :
    cutComment [] chars = some (front, rest) ↔
      ∃ body, front = body ++ ['*', '/'] ∧ chars = body ++ '*' :: '/' :: rest ∧
        ¬['*', '/'] <:+: body ++ ['*'] := by
  constructor
  · exact cutComment_split
  · intro split
    rcases split with ⟨body, rfl, rfl, first⟩
    exact cutComment_append_eq first

variable {decimals : List Char}

theorem cutFraction_append_eq (more : decimals ≠ []) (behind : ∀ c ∈ decimals, IsDigit c)
    (ends : ¬Follows IsDigit rest) :
    cutFraction ('.' :: (decimals ++ rest)) = ('.' :: decimals, rest) := by
  have split : Text.cut Char.isDigit (decimals ++ rest) = (decimals, rest) :=
    (Text.cut_eq_iff fun _ => isDigit_iff).mpr ⟨rfl, behind, ends⟩
  simp [cutFraction, split, more]

theorem cutFraction_unbroken (unbroken : ¬FollowsFraction chars) :
    cutFraction chars = ([], chars) := by
  unfold cutFraction
  split
  · rename_i digits
    have nothing : Text.cut Char.isDigit digits = ([], digits) :=
      (Text.cut_eq_iff fun _ => isDigit_iff).mpr
        ⟨rfl, nofun, fun follows => unbroken ⟨rfl, follows⟩⟩
    simp [nothing]
  · rfl

theorem decimals_of_followsFraction (follows : FollowsFraction chars) :
    ∃ decimals rest, chars = '.' :: (decimals ++ rest) ∧ decimals ≠ [] ∧
      (∀ c ∈ decimals, IsDigit c) ∧ ¬Follows IsDigit rest := by
  rcases follows with ⟨point, digit⟩
  rcases List.head?_eq_some_iff.mp point with ⟨digits, rfl⟩
  rcases split : Text.cut Char.isDigit digits with ⟨decimals, rest⟩
  rcases (Text.cut_eq_iff fun _ => isDigit_iff).mp split with ⟨whole, behind, ends⟩
  refine ⟨decimals, rest, by rw [whole], ?_, behind, ends⟩
  intro none
  rw [none, List.nil_append] at whole
  rw [← whole] at ends
  exact ends digit

variable {digits : List Char}

theorem cutNumber_whole (inside : ∀ c ∈ digits, IsDigit c) (ends : ¬Follows IsDigit rest)
    (unbroken : ¬FollowsFraction rest) : cutNumber (digits ++ rest) = (digits, rest) := by
  have split : Text.cut Char.isDigit (digits ++ rest) = (digits, rest) :=
    (Text.cut_eq_iff fun _ => isDigit_iff).mpr ⟨rfl, inside, ends⟩
  simp only [cutNumber, split, cutFraction_unbroken unbroken, List.append_nil]

theorem cutNumber_fraction (inside : ∀ c ∈ digits, IsDigit c) (more : decimals ≠ [])
    (behind : ∀ c ∈ decimals, IsDigit c) (ends : ¬Follows IsDigit rest) :
    cutNumber (digits ++ '.' :: (decimals ++ rest)) = (digits ++ '.' :: decimals, rest) := by
  have point : ¬Follows IsDigit ('.' :: (decimals ++ rest)) := by
    intro digit
    rcases digit with ⟨c, first, digit⟩
    cases first
    simp [IsDigit] at digit
  have split : Text.cut Char.isDigit (digits ++ '.' :: (decimals ++ rest)) =
      (digits, '.' :: (decimals ++ rest)) :=
    (Text.cut_eq_iff fun _ => isDigit_iff).mpr ⟨rfl, inside, point⟩
  simp only [cutNumber, split, cutFraction_append_eq more behind ends]

theorem cutNumber_cases {c : Char} (digit : IsDigit c) (chars : List Char) :
    ∃ digits, digits ≠ [] ∧ (∀ d ∈ digits, IsDigit d) ∧
      ((∃ rest, c :: chars = digits ++ rest ∧ cutNumber (c :: chars) = (digits, rest) ∧
          ¬Follows IsDigit rest ∧ ¬FollowsFraction rest) ∨
        ∃ decimals rest, c :: chars = digits ++ '.' :: decimals ++ rest ∧
          cutNumber (c :: chars) = (digits ++ '.' :: decimals, rest) ∧ decimals ≠ [] ∧
          (∀ d ∈ decimals, IsDigit d) ∧ ¬Follows IsDigit rest) := by
  have nonempty := Text.cut_ne_nil (isDigit_iff.mpr digit) chars
  rcases split : Text.cut Char.isDigit (c :: chars) with ⟨digits, rest⟩
  rw [split] at nonempty
  rcases (Text.cut_eq_iff fun _ => isDigit_iff).mp split with ⟨whole, inside, stops⟩
  refine ⟨digits, nonempty, inside, ?_⟩
  rw [whole]
  by_cases broken : FollowsFraction rest
  · rcases decimals_of_followsFraction broken with ⟨decimals, after, rfl, more, behind, ends⟩
    have cut := cutNumber_fraction inside more behind ends
    exact .inr ⟨decimals, after, by simp, cut, more, behind, ends⟩
  · exact .inl ⟨rest, rfl, cutNumber_whole inside stops broken, stops, broken⟩

theorem number_eq_ok {text : List Char} {piece : Piece} :
    number (text, rest) = .ok piece ↔
      rest ≠ [] ∧ piece = ⟨some (.number, String.ofList text), text, rest⟩ := by
  cases rest with
  | nil => simp [number]
  | cons c others => simp [number, eq_comm]

end Token
end LetLang
