import LetLang.Proofs.Grammar.Call
import LetLang.Proofs.Grammar.Declaration

/-!
Where a handler stops that succeeds. No token of a segment is of the kind that ends it but the one
that does: a declaration is over behind the first semicolon, a call behind the first closing
parenthesis, with the semicolon that comes next if there is one.
-/
namespace LetLang

structure IsFirst (tokens : List Token) (kind : TokenKind) (start index : Nat) : Prop where
  behind : start ≤ index
  stands : tokens[index]?.map Token.kind = some kind
  others : ∀ earlier, start ≤ earlier → earlier < index →
    tokens[earlier]?.map Token.kind ≠ some kind

/-- The index behind the last token that a handler takes, by the tokens alone. -/
def Handler.StopsAt (tokens : List Token) (start stop : Nat) : Handler → Prop
  | declaration => ∃ mark, IsFirst tokens .semicolon start mark ∧ stop = mark + 1
  | call => ∃ closing, IsFirst tokens .closeParen start closing ∧
      stop = if tokens[closing + 1]?.map Token.kind = some .semicolon then closing + 2
        else closing + 1

variable {taken inside tokens rest : List Token} {token mark : Token} {kind : TokenKind}

theorem isFirst_append (apart : ∀ token ∈ inside, token.kind ≠ kind) (same : mark.kind = kind) :
    IsFirst (taken ++ (inside ++ mark :: rest)) kind taken.length
      (taken.length + inside.length) := by
  constructor
  · apply Nat.le_add_right
  · rw [List.getElem?_append_right (Nat.le_add_right _ _), Nat.add_sub_cancel_left,
      List.getElem?_append_right (Nat.le_refl _), Nat.sub_self, List.getElem?_cons_zero,
      Option.map_some, same]
  · intro earlier start before
    obtain ⟨index, rfl⟩ := Nat.exists_eq_add_of_le start
    have inner : index < inside.length := Nat.lt_of_add_lt_add_left before
    rw [List.getElem?_append_right (Nat.le_add_right _ _), Nat.add_sub_cancel_left,
      List.getElem?_append_left inner, List.getElem?_eq_getElem inner, Option.map_some]
    intro found
    exact apart _ (List.getElem_mem inner) (Option.some.inj found)

namespace Grammar

variable {program : Program} {segment : List Token} {node : Node}

theorem Passes.kind_ne {argument : Argument} (passes : Passes program token argument) :
    token.kind ≠ .closeParen := by
  intro closes
  cases passes with
  | reference named _ =>
      rw [closes] at named
      cases named
  | literal stands =>
      rcases Token.literal_kind stands with ⟨kind, _⟩ | ⟨kind, _⟩
      all_goals
        rw [closes] at kind
        cases kind

theorem Arguments.kind_ne {arguments : List Argument}
    (passed : Arguments program inside arguments) : ∀ token ∈ inside, token.kind ≠ .closeParen := by
  induction passed with
  | nil => exact nofun
  | @cons token comma tokens argument arguments first separated others ih =>
      have comma : ∀ token ∈ comma, token.kind ≠ .closeParen := by
        cases separated with
        | absent => exact nofun
        | present same => simp [same]
      exact List.forall_mem_cons.mpr ⟨first.kind_ne, List.forall_mem_append.mpr ⟨comma, ih⟩⟩

theorem IsValueToken.kind_ne (value : IsValueToken token) : token.kind ≠ .semicolon := by
  intro mark
  rcases value with kind | kind | kind
  all_goals
    rw [mark] at kind
    cases kind

theorem Descriptor.kind_ne {kind? : Option Kind} (described : Descriptor tokens kind?) :
    ∀ token ∈ tokens, token.kind ≠ .semicolon := by
  cases described with
  | absent => exact nofun
  | named first second _ => simp [first, second]

theorem Declares.exists_mark (declares : Declares program segment node) :
    ∃ inside mark, segment = inside ++ [mark] ∧ (∀ token ∈ inside, token.kind ≠ .semicolon) ∧
      mark.kind = .semicolon ∧ 2 ≤ inside.length := by
  cases declares with
  | @intro keyword name sign mark core descriptor kind? kind start reduced value first named
      assigned values described ends =>
      have apart : ∀ token ∈ core ++ descriptor, token.kind ≠ .semicolon :=
        List.forall_mem_append.mpr
          ⟨fun token member => (values token member).kind_ne, described.kind_ne⟩
      refine ⟨keyword :: name :: sign :: (core ++ descriptor), mark, rfl, ?_, ends, ?_⟩
      · simp only [List.forall_mem_cons, first, named, assigned]
        exact ⟨by decide, by decide, by decide, apart⟩
      · exact Nat.le_add_left 2 _

theorem Calls.exists_closing (calls : Calls program rest segment node) :
    ∃ inside closing mark, segment = inside ++ closing :: mark ∧
      (∀ token ∈ inside, token.kind ≠ .closeParen) ∧ closing.kind = .closeParen ∧
      Optional .semicolon mark ∧
      (rest.head?.map Token.kind = some .semicolon → mark ≠ []) ∧ 2 ≤ inside.length := by
  cases calls with
  | @intro name opening closing inside mark arguments named opens passed closes ends whenever
      fresh =>
      refine ⟨name :: opening :: inside, closing, mark, rfl, ?_, closes, ends, whenever, ?_⟩
      · simp only [List.forall_mem_cons, named, opens]
        exact ⟨by decide, by decide, passed.kind_ne⟩
      · exact Nat.le_add_left 2 _

end Grammar

variable {scope : Scope} {node : Node}

theorem Declaration.stopsAt (read : parse scope tokens = .ok node rest) :
    ∃ segment, tokens = segment ++ rest ∧ 3 ≤ segment.length ∧
      Handler.declaration.StopsAt (taken ++ tokens) taken.length
        (taken.length + segment.length) := by
  rcases parse_eq_ok.mp read with ⟨segment, rfl, declares⟩
  rcases declares.exists_mark with ⟨inside, mark, rfl, apart, ends, two⟩
  have length : (inside ++ [mark]).length = inside.length + 1 := List.length_append
  refine ⟨inside ++ [mark], rfl, by omega, taken.length + inside.length, ?_, by omega⟩
  rw [List.append_assoc]
  exact isFirst_append apart ends

theorem Call.stopsAt (read : parse scope tokens = .ok node rest) :
    ∃ segment, tokens = segment ++ rest ∧ 3 ≤ segment.length ∧
      Handler.call.StopsAt (taken ++ tokens) taken.length (taken.length + segment.length) := by
  rcases parse_eq_ok.mp read with ⟨segment, rfl, calls⟩
  rcases calls.exists_closing with ⟨inside, closing, mark, rfl, apart, closes, ends, whenever, two⟩
  have length : (inside ++ closing :: mark).length = inside.length + (mark.length + 1) :=
    List.length_append
  have next : (taken ++ (inside ++ closing :: mark ++ rest))[taken.length + inside.length + 1]? =
      (mark ++ rest)[0]? := by
    rw [List.append_assoc, ← List.append_assoc taken, ← List.length_append,
      List.getElem?_append_right (Nat.le_add_right _ 1), Nat.add_sub_cancel_left]
    rfl
  refine ⟨inside ++ closing :: mark, rfl, by omega, taken.length + inside.length, ?_, ?_⟩
  · rw [List.append_assoc]
    exact isFirst_append apart closes
  · rw [next]
    cases ends with
    | present same =>
        rw [List.singleton_append, List.getElem?_cons_zero, Option.map_some, same, if_pos rfl,
          length]
        rfl
    | absent =>
        have other : rest[0]?.map Token.kind ≠ some .semicolon := by
          rw [← List.head?_eq_getElem?]
          exact fun comes => whenever comes rfl
        rw [List.nil_append, if_neg other, length]
        rfl

/-- By the tokens alone a handler that succeeds stops where it does, and takes three at least. -/
theorem Handler.stopsAt (handler : Handler) (read : handler.parse scope tokens = .ok node rest) :
    ∃ segment, tokens = segment ++ rest ∧ 3 ≤ segment.length ∧
      handler.StopsAt (taken ++ tokens) taken.length (taken.length + segment.length) := by
  cases handler with
  | declaration => exact Declaration.stopsAt read
  | call => exact Call.stopsAt read

end LetLang
