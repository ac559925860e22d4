import LetLang.Proofs.Parser.Steps
import LetLang.Proofs.Reduction.Exact

/-! A declaration is read exactly where its segment stands. -/
namespace LetLang.Declaration

open Grammar (Declares Descriptor IsValueToken)

variable {scope : Scope} {tokens rest window core : List Token}

theorem isCalculable_iff (token : Token) :
    isCalculable token = true ↔ IsValueToken token ∨ token.kind = .asKeyword := by
  rw [isCalculable, IsValueToken]
  cases token.kind <;> simp

theorem takeWindow_split (taken : takeWindow scope tokens = .ok window rest) :
    tokens = window ++ rest ∧ (∀ token ∈ window, isCalculable token = true) ∧
      rest.head?.map Token.kind = some .semicolon := by
  induction tokens generalizing window with
  | nil => cases taken
  | cons token others ih =>
      rw [takeWindow] at taken
      split at taken
      · rename_i mark
        cases taken
        exact ⟨rfl, nofun, by simp [mark]⟩
      · split at taken
        · rename_i calculable
          cases reached : takeWindow scope others with
          | error failure left => simp [reached] at taken
          | ok front left =>
              simp only [reached] at taken
              cases taken
              obtain ⟨whole, inside, ends⟩ := ih reached
              refine ⟨by rw [whole, List.cons_append], ?_, ends⟩
              exact List.forall_mem_cons.mpr ⟨calculable, inside⟩
        · cases taken

theorem takeWindow_append (inside : ∀ token ∈ window, isCalculable token = true)
    (ends : rest.head?.map Token.kind = some .semicolon) :
    takeWindow scope (window ++ rest) = .ok window rest := by
  induction window with
  | nil =>
      rcases rest with _ | ⟨mark, others⟩
      · cases ends
      · have semicolon : mark.kind = .semicolon := Option.some.inj ends
        rw [List.nil_append, takeWindow, if_pos semicolon]
  | cons token window ih =>
      rw [List.forall_mem_cons] at inside
      have other : token.kind ≠ .semicolon := by
        intro mark
        have calculable := inside.1
        simp [isCalculable, mark] at calculable
      rw [List.cons_append, takeWindow, if_neg other, if_pos inside.1, ih inside.2]

theorem takeWindow_eq_ok :
    takeWindow scope tokens = .ok window rest ↔
      tokens = window ++ rest ∧ (∀ token ∈ window, isCalculable token = true) ∧
        rest.head?.map Token.kind = some .semicolon := by
  constructor
  · exact takeWindow_split
  · intro split
    rw [split.1]
    exact takeWindow_append split.2.1 split.2.2

theorem ofName?_eq_some {name : String} {kind : Kind} :
    Kind.ofName? name = some kind ↔ name = kind.name := by
  constructor
  · intro found
    have same := List.find?_some found
    exact (beq_iff_eq.mp same).symm
  · intro same
    rw [same, Kind.ofName?_name]

theorem splitKind_split {name : String} {kind? : Option Kind}
    (split : splitKind name window = .ok (core, kind?)) :
    ∃ descriptor, window = core ++ descriptor ∧ Descriptor descriptor kind? := by
  rw [splitKind] at split
  split at split
  · rename_i written keyword front reversed
    have whole : window = front.reverse ++ [keyword, written] := by
      rw [← List.reverse_reverse window, reversed]
      simp
    split at split
    · rename_i first
      split at split
      · rename_i second
        split at split
        · rename_i kind known
          cases split
          exact ⟨_, whole, .named first second (ofName?_eq_some.mp known)⟩
        · cases split
      · cases split
    · cases split
      exact ⟨[], by simp, .absent⟩
  · cases split
    exact ⟨[], by simp, .absent⟩

theorem splitKind_append {name : String} {descriptor : List Token} {kind? : Option Kind}
    (described : Descriptor descriptor kind?) (plain : ∀ token ∈ core, token.kind ≠ .asKeyword) :
    splitKind name (core ++ descriptor) = .ok (core, kind?) := by
  cases described with
  | named first second spelled =>
      have known := ofName?_eq_some.mpr spelled
      simp [splitKind, first, second, known]
  | absent =>
      rw [List.append_nil]
      rw [splitKind]
      split
      · rename_i written keyword front reversed
        have member : keyword ∈ core := by
          rw [← List.mem_reverse, reversed]
          simp
        rw [if_neg (plain keyword member)]
      · rfl

theorem checkDescriptors_eq_ok {done : Unit} :
    checkDescriptors core = .ok done ↔ ∀ token ∈ core, token.kind ≠ .asKeyword := by
  rw [checkDescriptors]
  cases found : core.find? (·.kind = .asKeyword) with
  | some token =>
      have member := List.mem_of_find?_eq_some found
      have keyword := List.find?_some found
      simp only [reduceCtorEq, false_iff]
      intro plain
      exact plain token member (of_decide_eq_true keyword)
  | none =>
      simp only [List.find?_eq_none, decide_eq_true_eq] at found
      exact iff_of_true rfl found

variable {start : Position} {name : String} {value : Value} {kind : Kind}

theorem evaluate_eq_ok :
    evaluate scope name start window = .ok (value, kind) ↔
      ∃ core descriptor kind?, window = core ++ descriptor ∧ Descriptor descriptor kind? ∧
        (∀ token ∈ core, token.kind ≠ .asKeyword) ∧
        ∃ reduced, Reduction.reduce scope.program start core = .ok reduced ∧
          reduced.value? = some value ∧ kind = kind?.getD (.ofValue value) := by
  simp only [evaluate, except_bind_eq_ok, Outcome.ofExcept_eq_ok, checkDescriptors_eq_ok,
    Prod.exists]
  constructor
  · intro evaluated
    rcases evaluated with ⟨core, kind?, split, _, plain, reduced, reduces, given⟩
    obtain ⟨descriptor, whole, described⟩ := splitKind_split split
    refine ⟨core, descriptor, kind?, whole, described, plain, reduced, reduces, ?_⟩
    cases valued : reduced.value? with
    | none => simp [valued, Outcome.refuse] at given
    | some found =>
        simp only [valued, pure, Except.pure, Except.ok.injEq, Prod.mk.injEq] at given
        rcases given with ⟨rfl, rfl⟩
        exact ⟨rfl, rfl⟩
  · intro split
    rcases split with
      ⟨core, descriptor, kind?, rfl, described, plain, reduced, reduces, valued, rfl⟩
    refine ⟨core, kind?, splitKind_append described plain, (), plain, reduced, reduces, ?_⟩
    simp only [valued]
    rfl

theorem isCalculable_descriptor {descriptor : List Token} {kind? : Option Kind}
    (described : Descriptor descriptor kind?) :
    ∀ token ∈ descriptor, isCalculable token = true := by
  cases described with
  | absent => exact nofun
  | named first second spelled =>
      simp [isCalculable, first, second]

theorem isCalculable_core {token : Token} :
    isCalculable token = true ∧ token.kind ≠ .asKeyword ↔ IsValueToken token := by
  rw [isCalculable_iff]
  constructor
  · intro both
    exact both.1.resolve_right both.2
  · intro value
    refine ⟨.inl value, ?_⟩
    intro keyword
    rcases value with kind | kind | kind
    all_goals
      rw [keyword] at kind
      cases kind

variable {node : Node}

theorem bind_takeWindow_eq_ok {α : Type} {next : List Token → Parse α} {result : α} :
    ((takeWindow scope : Parse (List Token)) >>= next) tokens = .ok result rest ↔
      ∃ window middle, takeWindow scope tokens = .ok window middle ∧
        next window middle = .ok result rest :=
  Parse.bind_eq_ok

theorem parse_eq_ok :
    parse scope tokens = .ok node rest ↔
      ∃ segment, tokens = segment ++ rest ∧ Declares scope.program segment node := by
  simp only [parse, takeName, Parse.bind_eq_ok, Parse.expect_eq_ok, Parse.expectOr_eq_ok,
    Parse.peek_eq_ok, Parse.position_eq_ok, Parse.lift_eq_ok, Parse.checkUnique_eq_ok,
    Parse.pure_eq_ok, bind_takeWindow_eq_ok, takeWindow_eq_ok, Prod.exists, evaluate_eq_ok,
    Outcome.positioned_eq_ok, Outcome.ofExcept_eq_ok, Variable.build_eq_ok]
  constructor
  · intro read
    rcases read with ⟨keyword, _, ⟨rfl, first⟩, name, _, ⟨_, _, ⟨_, rfl⟩, rfl, named⟩, sign, _,
      ⟨rfl, assigned⟩, start, _, ⟨_, rfl⟩, _, _, ⟨rfl, inside, _⟩, value, kind, _,
      ⟨⟨core, descriptor, kind?, rfl, described, plain, reduced, reduces, valued, chosen⟩, rfl⟩,
      _, _, ⟨fresh, rfl⟩, mark, _, ⟨rfl, ends⟩, _, _, ⟨⟨fits, rfl⟩, rfl⟩, rfl, rfl⟩
    have values : ∀ token ∈ core, IsValueToken token := by
      intro token member
      have calculable := inside token (List.mem_append_left descriptor member)
      exact isCalculable_core.mp ⟨calculable, plain token member⟩
    refine ⟨keyword :: name :: sign :: (core ++ descriptor ++ [mark]), by simp, ?_⟩
    exact .intro first named assigned values described ends reduces valued fresh chosen fits
  · intro split
    rcases split with ⟨segment, rfl, declares⟩
    cases declares with
    | @intro keyword name sign mark core descriptor kind? kind start reduced value first named
        assigned values described ends reduces valued fresh chosen fits =>
        have inside : ∀ token ∈ core ++ descriptor, isCalculable token = true := by
          intro token member
          rcases List.mem_append.mp member with front | back
          · exact (isCalculable_core.mpr (values token front)).1
          · exact isCalculable_descriptor described token back
        have plain : ∀ token ∈ core, token.kind ≠ .asKeyword :=
          fun token member => (isCalculable_core.mpr (values token member)).2
        have anywhere := Reduction.reduce_from reduces
          (Parse.placeOf scope (core ++ descriptor ++ [mark] ++ rest))
        refine ⟨keyword, _, ⟨rfl, first⟩, name, _, ⟨_, _, ⟨rfl, rfl⟩, rfl, named⟩, sign, _,
          ⟨rfl, assigned⟩, _, _, ⟨rfl, rfl⟩, core ++ descriptor, mark :: rest,
          ⟨by simp, inside, by simp [ends]⟩, value, kind, _, ⟨⟨core, descriptor, kind?, ?_⟩, rfl⟩,
          (), _, ⟨fresh, rfl⟩, mark, rest, ⟨rfl, ends⟩, _, _, ⟨⟨fits, rfl⟩, rfl⟩, rfl, rfl⟩
        exact ⟨rfl, described, plain, reduced, anywhere, valued, chosen⟩

end LetLang.Declaration
