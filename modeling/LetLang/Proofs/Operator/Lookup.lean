import LetLang.Proofs.Lexeme.Printed
import LetLang.Variable
import Mathlib.Data.List.Basic

/-!
What an operator is, four times over: the table of characters with their entries, the two ways to
look an action up, and the lexer. They agree on every text.
-/
namespace LetLang

def Lexeme.IsName (chars : List Char) : Prop :=
  ∃ c others, chars = c :: others ∧ IsNameStart c ∧ ∀ d ∈ others, IsNamePart d

variable {kind : Kind} {action other : Action} {name : ActionName} {text : String} {c symbol : Char}

theorem Action.isSpelled_iff : action.isSpelled text = true ↔
    ∃ c, action.symbol = some c ∧ text = String.singleton c := by
  rw [isSpelled]
  cases action.symbol with
  | none => simp
  | some c => simp [← String.toList_inj]

namespace Kind

theorem eq_of_symbol (first : action ∈ kind.actions) (second : other ∈ kind.actions)
    (same : action.symbol = other.symbol) : action = other := by
  have apart : ∀ one ∈ kind.actions, ∀ two ∈ kind.actions,
      one.symbol = two.symbol → one = two := by
    cases kind <;> decide
  exact apart action first other second same

/-- A variable has the actions of its kind, and finds among them what its kind finds: one looks at
the text of a single character, the other one at the first character and at nothing behind it. -/
theorem actionForSymbol?_new (kind : Kind) (text : String) :
    (Variable.new kind).actionForSymbol? text = kind.actionForSymbol? text := by
  rw [Variable.actionForSymbol?, actionForSymbol?]
  split
  · rename_i symbol single
    refine congrArg (kind.actions.find? ·) (funext fun action => ?_)
    rw [Action.isSpelled, single]
    cases action.symbol with
    | none => rfl
    | some own => simp [eq_comm]
  · rename_i several
    refine List.find?_eq_none.mpr fun action _ spelled => ?_
    obtain ⟨c, _, rfl⟩ := Action.isSpelled_iff.mp spelled
    exact several c (String.toList_singleton c)

theorem actionForSymbol?_eq_some : kind.actionForSymbol? text = some action ↔
    action ∈ kind.actions ∧ ∃ c, action.symbol = some c ∧ text = String.singleton c := by
  rw [← actionForSymbol?_new, Variable.actionForSymbol?, ← Action.isSpelled_iff]
  constructor
  · intro found
    have spelled := List.find?_some found
    exact ⟨List.mem_of_find?_eq_some found, spelled⟩
  · rintro ⟨own, spelled⟩
    obtain ⟨found, first⟩ : ∃ found, kind.actions.find? (·.isSpelled text) = some found :=
      Option.isSome_iff_exists.mp (List.find?_isSome.mpr ⟨action, own, spelled⟩)
    have alike := List.find?_some first
    obtain ⟨c, symbol, rfl⟩ := Action.isSpelled_iff.mp spelled
    obtain ⟨d, symbol', same⟩ := Action.isSpelled_iff.mp alike
    obtain rfl : c = d := String.singleton_inj.mp same
    have equal := eq_of_symbol own (List.mem_of_find?_eq_some first) (symbol.trans symbol'.symm)
    rw [equal]
    exact first

end Kind

namespace Operator

theorem mem_entries : (kind, name) ∈ entries c ↔
    ∃ action ∈ kind.actions, action.symbol = some c ∧ action.name = name := by
  simp only [entries, List.mem_flatMap, List.mem_map, List.mem_filter, beq_iff_eq, Prod.mk.injEq]
  constructor
  · rintro ⟨_, _, action, ⟨own, spelled⟩, rfl, named⟩
    exact ⟨action, own, spelled, named⟩
  · rintro ⟨action, own, spelled, named⟩
    exact ⟨kind, kind.mem_all, action, ⟨own, spelled⟩, rfl, named⟩

theorem mem_insert {list : List Char} : c ∈ insert symbol list ↔ c = symbol ∨ c ∈ list := by
  induction list with
  | nil => exact List.mem_cons
  | cons head tail ih =>
      rw [insert]
      split
      · rename_i same
        simp [same]
      · split
        · exact List.mem_cons
        · rw [List.mem_cons, ih, List.mem_cons]
          exact or_left_comm

theorem mem_foldr_insert {list : List Char} : c ∈ list.foldr insert [] ↔ c ∈ list := by
  induction list with
  | nil => rfl
  | cons head tail ih => rw [List.foldr_cons, mem_insert, ih, List.mem_cons]

theorem mem_symbols : c ∈ symbols ↔ ∃ kind : Kind, ∃ action ∈ kind.actions,
    action.symbol = some c := by
  simp only [symbols, mem_foldr_insert, List.mem_flatMap, List.mem_filterMap]
  constructor
  · rintro ⟨kind, _, spelled⟩
    exact ⟨kind, spelled⟩
  · rintro ⟨kind, spelled⟩
    exact ⟨kind, kind.mem_all, spelled⟩

theorem exists_listed : (∃ listed, table.lookup c = some listed ∧ (kind, name) ∈ listed) ↔
    (kind, name) ∈ entries c := by
  constructor
  · rintro ⟨listed, found, member⟩
    obtain ⟨before, behind, split, _⟩ := List.lookup_eq_some_iff.mp found
    have present : (c, listed) ∈ table := split ▸ List.mem_append_right _ List.mem_cons_self
    obtain ⟨symbol, _, same⟩ := List.mem_map.mp present
    cases same
    exact member
  · intro member
    obtain ⟨action, own, spelled, _⟩ := mem_entries.mp member
    have known : c ∈ symbols := mem_symbols.mpr ⟨kind, action, own, spelled⟩
    exact ⟨entries c, List.lookup_graph entries known, member⟩

theorem found_iff_listed : (∃ action, kind.actionForSymbol? text = some action ∧
    action.name = name) ↔
      ∃ c listed, text = String.singleton c ∧ table.lookup c = some listed ∧
        (kind, name) ∈ listed := by
  constructor
  · rintro ⟨action, found, named⟩
    obtain ⟨own, c, spelled, single⟩ := Kind.actionForSymbol?_eq_some.mp found
    obtain ⟨listed, inside⟩ := exists_listed.mpr (mem_entries.mpr ⟨action, own, spelled, named⟩)
    exact ⟨c, listed, single, inside⟩
  · rintro ⟨c, listed, single, inside⟩
    obtain ⟨action, own, spelled, named⟩ := mem_entries.mp (exists_listed.mp ⟨listed, inside⟩)
    exact ⟨action, Kind.actionForSymbol?_eq_some.mpr ⟨own, c, spelled, single⟩, named⟩

theorem found_iff_symbol : (∃ (kind : Kind) (action : Action),
    kind.actionForSymbol? text = some action) ↔ ∃ c ∈ symbols, text = String.singleton c := by
  constructor
  · rintro ⟨kind, action, found⟩
    obtain ⟨own, c, spelled, single⟩ := Kind.actionForSymbol?_eq_some.mp found
    exact ⟨c, mem_symbols.mpr ⟨kind, action, own, spelled⟩, single⟩
  · rintro ⟨c, listed, single⟩
    obtain ⟨kind, action, own, spelled⟩ := mem_symbols.mp listed
    exact ⟨kind, action, Kind.actionForSymbol?_eq_some.mpr ⟨own, c, spelled, single⟩⟩

open Lexeme (IsName)
open Token (Writable)

theorem mem_symbols_iff_operators : c ∈ symbols ↔ c ∈ Lexeme.operators := by
  rw [symbols_eq, Lexeme.operators]

theorem symbol_of_writable (writable : Writable (.identifier, text))
    (other : ¬IsName text.toList) : ∃ c ∈ symbols, text = String.singleton c := by
  generalize content : (TokenKind.identifier, text) = written at writable
  cases writable with
  | letKeyword | asKeyword | number | string => cases content
  | mark listed =>
      cases content
      simp [Lexeme.marks] at listed
  | name starts inside free =>
      cases content
      rw [String.toList_ofList] at other
      exact absurd ⟨_, _, rfl, starts, inside⟩ other
  | @operator c listed =>
      cases content
      exact ⟨c, mem_symbols_iff_operators.mpr listed, rfl⟩

theorem not_isName_symbol (listed : c ∈ symbols) : ¬IsName [c] := by
  rintro ⟨_, _, ⟨⟩, starts, _⟩
  have apart : symbols.all (!Token.isNameStart ·) = true := by
    rw [symbols_eq]
    rfl
  have nameless := List.all_eq_true.mp apart c listed
  rw [Lexeme.isNameStart_iff.mpr starts] at nameless
  cases nameless

theorem tokenize_symbol (listed : c ∈ symbols) (file? : Option String) :
    Token.tokenize (String.singleton c ++ " ") file? =
      .ok (Token.placedFrom (file?.getD Token.unnamedFile) 0
        [(.identifier, String.singleton c)]) := by
  have writable : ∀ content ∈ [(TokenKind.identifier, String.singleton c)], Writable content :=
    List.forall_mem_singleton.mpr (.operator (mem_symbols_iff_operators.mp listed))
  have printed : (String.singleton c ++ " ").toList =
      (Token.print [(.identifier, String.singleton c)]).toList ++ [] := by
    simp [Token.print, Token.written]
  rw [Token.tokenize, printed, Token.tokenizeFrom_print writable, Token.tokenizeFrom]
  rfl

theorem tokenized_iff_symbol (text : String) (file? : Option String) :
    (∃ token, Token.tokenize (text ++ " ") file? = .ok [token] ∧ token.kind = .identifier ∧
      token.value = text ∧ ¬IsName text.toList) ↔ ∃ c ∈ symbols, text = String.singleton c := by
  constructor
  · rintro ⟨token, read, kind, rfl, other⟩
    have writable := Token.writable_of_tokenizeFrom (List.forall_mem_nil _) read token
      List.mem_cons_self
    rw [Token.content, kind] at writable
    exact symbol_of_writable writable other
  · rintro ⟨c, listed, rfl⟩
    refine ⟨_, tokenize_symbol listed file?, rfl, rfl, ?_⟩
    rw [String.toList_singleton]
    exact not_isName_symbol listed

/-- A kind and a variable of it find the same action for a text, and they find the one that the
table lists for them under the only character of the text. Some kind finds one just where the text
is an operator character, and just there the lexer makes an identifier of it that is no name. -/
theorem lookups_agree (text : String) (file? : Option String) :
    (∀ kind : Kind, (Variable.new kind).actionForSymbol? text = kind.actionForSymbol? text ∧
      ∀ name, (∃ action, kind.actionForSymbol? text = some action ∧ action.name = name) ↔
        ∃ c listed, text = String.singleton c ∧ table.lookup c = some listed ∧
          (kind, name) ∈ listed) ∧
    ((∃ (kind : Kind) (action : Action), kind.actionForSymbol? text = some action) ↔
      ∃ c ∈ symbols, text = String.singleton c) ∧
    ((∃ c ∈ symbols, text = String.singleton c) ↔
      ∃ token, Token.tokenize (text ++ " ") file? = .ok [token] ∧ token.kind = .identifier ∧
        token.value = text ∧ ¬IsName text.toList) :=
  ⟨fun kind => ⟨kind.actionForSymbol?_new text, fun _ => found_iff_listed⟩, found_iff_symbol,
    (tokenized_iff_symbol text file?).symm⟩

end Operator

end LetLang
