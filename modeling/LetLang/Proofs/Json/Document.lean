import LetLang.Document
import LetLang.Proofs.Json.Pretty

/-!
Documents tell tokens and programs apart: no two of them have the same one. What could keep a
document from having finite numbers only is the value of a variable.
-/
namespace LetLang

theorem Kind.name_inj {a b : Kind} (same : a.name = b.name) : a = b := by
  have read := congrArg ofName? same
  rw [ofName?_name, ofName?_name] at read
  exact Option.some.inj read

theorem TokenKind.name_inj {a b : TokenKind} (same : a.name = b.name) : a = b := by
  have read := congrArg ofName? same
  rw [ofName?_name, ofName?_name] at read
  exact Option.some.inj read

theorem ActionName.text_inj {a b : ActionName} (same : a.text = b.text) : a = b := by
  cases a <;> cases b
  all_goals first
    | rfl
    | exact absurd same (by decide)

namespace Json

theorem array_map_inj {α : Type} {document : α → Json} {items others : List α}
    (each : ∀ a b, document a = document b → a = b)
    (same : array (items.map document) = array (others.map document)) : items = others :=
  (List.map_inj_right (fun a b => each a b)).mp (Json.array.inj same)

theorem tagged_inj {key a b : String} {fields others : List (String × Json)}
    (same : object ((key, string a) :: fields) = object ((key, string b) :: others)) :
    a = b ∧ fields = others := by
  simpa using same

theorem finite_array_map {α : Type} {document : α → Json} {items : List α}
    (each : ∀ item ∈ items, (document item).Finite) : (array (items.map document)).Finite := by
  show FiniteItems (items.map document)
  induction items with
  | nil => trivial
  | cons item items ih =>
      exact ⟨each item List.mem_cons_self, ih fun other member =>
        each other (List.mem_cons_of_mem item member)⟩

end Json

theorem optionalText_inj {a b : Option String} (same : optionalText a = optionalText b) : a = b := by
  cases a <;> cases b
  all_goals simp_all [optionalText]

theorem Action.document_inj (a b : Action) (same : a.document = b.document) : a = b := by
  rcases a with ⟨name, symbol, spread, arguments⟩
  rcases b with ⟨name', symbol', spread', arguments'⟩
  simp only [document, Json.object.injEq, List.cons.injEq, Prod.mk.injEq, Json.string.injEq,
    Json.bool.injEq, true_and, and_true] at same
  obtain ⟨names, symbols, rfl, kinds⟩ := same
  obtain rfl := ActionName.text_inj names
  obtain rfl : symbol = symbol' := by
    cases symbol <;> cases symbol'
    all_goals simp_all [String.singleton_inj]
  obtain rfl : arguments = arguments' :=
    Json.array_map_inj (fun _ _ => Json.array_map_inj fun _ _ same =>
      Kind.name_inj (Json.string.inj same)) kinds
  rfl

theorem actionsField_inj {a b : List Action} (same : actionsField a = actionsField b) : a = b := by
  rcases a with _ | ⟨action, actions⟩ <;> rcases b with _ | ⟨other, others⟩
  · rfl
  · cases same
  · cases same
  · exact Json.array_map_inj Action.document_inj (Prod.mk.inj (List.cons.inj same).1).2

namespace Value

theorem document_ne_null (value : Value) : value.document ≠ .null := by
  cases value <;> exact nofun

theorem variableFields_eq (cell : Variable) :
    variableFields cell = ("name", optionalText cell.name?) :: ("type", .string cell.kind.name) ::
      ("value", (cell.value?.map document).getD .null) :: actionsField cell.actions := by
  rcases cell with ⟨name?, kind, value | _, actions⟩ <;> rfl

theorem eq_of_variableFields {a b : Variable} (same : variableFields a = variableFields b)
    (values : (a.value?.map document).getD .null = (b.value?.map document).getD .null →
      a.value? = b.value?) : a = b := by
  rcases a with ⟨name?, kind, value?, actions⟩
  rcases b with ⟨name?', kind', value?', actions'⟩
  simp only [variableFields_eq, List.cons.injEq, Prod.mk.injEq, Json.string.injEq, true_and] at same
  obtain ⟨names, kinds, documents, actions⟩ := same
  obtain rfl := optionalText_inj names
  obtain rfl := Kind.name_inj kinds
  obtain rfl : value? = value?' := values documents
  obtain rfl := actionsField_inj actions
  rfl

mutual

theorem document_inj : ∀ a b : Value, a.document = b.document → a = b := by
  intro a b same
  match a with
  | .integer a =>
    cases b with
    | integer b => exact congrArg integer (Int128.ext (Json.integer.inj same))
    | _ => cases same
  | .float a =>
    cases b with
    | float b => exact congrArg float (Json.float.inj same)
    | _ => cases same
  | .bool a =>
    cases b with
    | bool b => exact congrArg bool (Json.bool.inj same)
    | _ => cases same
  | .string a =>
    cases b with
    | string b => exact congrArg string (Json.string.inj same)
    | _ => cases same
  | .object members =>
    cases b with
    | object others =>
        exact congrArg object (memberDocuments_inj members others (Json.array.inj same))
    | _ => cases same

theorem memberDocuments_inj : ∀ members others : List Variable,
    memberDocuments members = memberDocuments others → members = others := by
  intro members others same
  match members, others with
  | [], [] => rfl
  | [], _ :: _ => cases same
  | _ :: _, [] => cases same
  | member :: members, other :: others =>
    rcases List.cons.inj same with ⟨first, rest⟩
    rw [variableFields_inj member other (Json.object.inj first),
      memberDocuments_inj members others rest]

theorem variableFields_inj : ∀ a b : Variable, variableFields a = variableFields b → a = b := by
  intro a b same
  refine eq_of_variableFields same fun documents => ?_
  match a, b with
  | ⟨_, _, none, _⟩, ⟨_, _, none, _⟩ => rfl
  | ⟨_, _, none, _⟩, ⟨_, _, some value, _⟩ => exact absurd documents.symm (document_ne_null value)
  | ⟨_, _, some value, _⟩, ⟨_, _, none, _⟩ => exact absurd documents (document_ne_null value)
  | ⟨_, _, some value, _⟩, ⟨_, _, some other, _⟩ =>
    exact congrArg some (document_inj value other documents)

end

end Value

theorem Argument.document_inj (a b : Argument) (same : a.document = b.document) : a = b := by
  cases a <;> cases b
  case literal.literal value other =>
    exact congrArg literal (Value.variableFields_inj value other (Json.tagged_inj same).2)
  case reference.reference target other =>
    have names : target.name = other.name := by simpa using (Json.tagged_inj same).2
    rw [show target = other from congrArg Reference.mk names]
  all_goals exact absurd (Json.tagged_inj same).1 (by decide)

theorem Node.document_inj (a b : Node) (same : a.document = b.document) : a = b := by
  cases a <;> cases b
  case declaration.declaration declared other =>
    exact congrArg declaration (Value.variableFields_inj declared other (Json.tagged_inj same).2)
  case call.call made other =>
    rcases made with ⟨name?, arguments⟩
    rcases other with ⟨name?', arguments'⟩
    have fields := (Json.tagged_inj same).2
    simp only [List.cons.injEq, Prod.mk.injEq, true_and, and_true] at fields
    rw [optionalText_inj fields.1, Json.array_map_inj Argument.document_inj fields.2]
  all_goals exact absurd (Json.tagged_inj same).1 (by decide)

theorem Program.document_inj (a b : Program) (same : a.document = b.document) : a = b := by
  rcases a with ⟨body⟩
  rcases b with ⟨body'⟩
  have bodies := (Prod.mk.inj (List.cons.inj (Json.object.inj same)).1).2
  exact congrArg mk (Json.array_map_inj Node.document_inj bodies)

theorem Position.document_inj (a b : Position) (same : a.document = b.document) : a = b := by
  rcases a with ⟨offset, file⟩
  rcases b with ⟨offset', file'⟩
  simp only [document, Json.array.injEq, List.cons.injEq, Json.integer.injEq, Json.string.injEq,
    and_true, Int.natCast_inj, UInt32.toNat_inj] at same
  rw [same.1, same.2]

theorem Token.document_inj (a b : Token) (same : a.document = b.document) : a = b := by
  rcases a with ⟨kind, value, start, stop⟩
  rcases b with ⟨kind', value', start', stop'⟩
  simp only [document, Json.object.injEq, List.cons.injEq, Prod.mk.injEq, Json.string.injEq,
    true_and, and_true] at same
  obtain ⟨kinds, rfl, starts, stops⟩ := same
  obtain rfl := TokenKind.name_inj kinds
  obtain rfl := Position.document_inj _ _ starts
  obtain rfl := Position.document_inj _ _ stops
  rfl

theorem finite_optionalText (text? : Option String) : (optionalText text?).Finite := by
  cases text? <;> trivial

theorem Action.finite_document (action : Action) : action.document.Finite := by
  refine ⟨trivial, ?_, trivial, ?_, trivial⟩
  · cases action.symbol <;> trivial
  · exact Json.finite_array_map fun _ _ => Json.finite_array_map fun _ _ => trivial

theorem finite_actionsField (actions : List Action) : Json.FiniteFields (actionsField actions) := by
  rw [actionsField]
  split
  · trivial
  · exact ⟨Json.finite_array_map fun action _ => action.finite_document, trivial⟩

theorem Variable.finite_fields {cell : Variable} {value : Value} (valued : cell.value? = some value)
    (finite : value.document.Finite) : Json.FiniteFields cell.fields := by
  rw [fields, Value.variableFields_eq, valued]
  exact ⟨finite_optionalText _, trivial, finite, finite_actionsField _⟩

theorem Token.finite_document (token : Token) : token.document.Finite :=
  ⟨trivial, trivial, ⟨⟨trivial, trivial, trivial⟩, ⟨trivial, trivial, trivial⟩, trivial⟩, trivial⟩

end LetLang
