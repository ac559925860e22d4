import LetLang.Proofs.Grammar.Program

/-!
Segments in front of other tokens. Only a call that has not taken a semicolon looks at what follows:
it takes the semicolon that comes next.
-/
namespace LetLang

def Token.lastKind? (tokens : List Token) : Option TokenKind := tokens.getLast?.map Token.kind

namespace Grammar

variable {program final : Program} {segment rest more tokens : List Token} {node : Node}

theorem Declares.lastKind? (declares : Declares program segment node) :
    Token.lastKind? segment = some .semicolon := by
  cases declares with
  | @intro keyword name sign mark core descriptor kind? kind start reduced value first named
      assigned values described ends =>
      have last : (keyword :: name :: sign :: (core ++ descriptor ++ [mark])).getLast? =
          some mark := by
        simp [List.getLast?_cons]
      rw [Token.lastKind?, last, Option.map_some, ends]

/-- A call stands in front of other tokens as well, unless a semicolon comes next that it lacks. -/
theorem Calls.before (calls : Calls program rest segment node)
    (kept : more.head?.map Token.kind = some .semicolon →
      rest.head?.map Token.kind = some .semicolon ∨
        Token.lastKind? segment = some .semicolon) : Calls program more segment node := by
  cases calls with
  | @intro name opening closing inside mark arguments named opens passed closes ends whenever
      fresh =>
      refine .intro named opens passed closes ends (fun next => ?_) fresh
      rcases kept next with before | last
      · exact whenever before
      · intro none
        have closed : (name :: opening :: (inside ++ closing :: mark)).getLast? =
            some closing := by
          simp [none, List.getLast?_cons]
        rw [Token.lastKind?, closed, Option.map_some, closes] at last
        cases last

theorem Calls.mark {mark : Token} (calls : Calls program rest segment node)
    (unmarked : Token.lastKind? segment ≠ some .semicolon) (same : mark.kind = .semicolon)
    (more : List Token) : Calls program more (segment ++ [mark]) node := by
  cases calls with
  | @intro name opening closing inside last arguments named opens passed closes ends whenever
      fresh =>
      cases ends with
      | present semicolon =>
          refine absurd ?_ unmarked
          simp [Token.lastKind?, List.getLast?_cons, semicolon]
      | absent =>
          have whenever : more.head?.map Token.kind = some .semicolon → [mark] ≠ [] :=
            fun _ => List.cons_ne_nil mark []
          have added := Calls.intro named opens passed closes (.present same) whenever fresh
          simpa using added

theorem Segment.before (first : Segment program rest segment node)
    (kept : more.head?.map Token.kind = some .semicolon →
      rest.head?.map Token.kind = some .semicolon ∨
        Token.lastKind? segment = some .semicolon) : Segment program more segment node :=
  first.imp_right fun calls => calls.before kept

theorem Segment.append (first : Segment program rest segment node) (some : rest ≠ [])
    (more : List Token) : Segment program (rest ++ more) segment node := by
  apply first.before
  intro next
  rcases rest with _ | ⟨token, others⟩
  · exact absurd rfl some
  · exact .inl next

theorem Segment.of_append (first : Segment program (rest ++ more) segment node) :
    Segment program rest segment node := by
  apply first.before
  intro next
  rcases rest with _ | ⟨token, others⟩
  · cases next
  · exact .inl next

end Grammar
end LetLang
