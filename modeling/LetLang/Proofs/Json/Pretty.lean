import LetLang.Proofs.Json.Code

/-!
The layout of a document as a code. The first character says what sort of document it is, and a
document is followed by what ends it, so two texts are the same only where the documents are. It
takes that every number is finite: the others are written `null`.
-/
namespace LetLang.Json

open Binary64 (IsNumberChar)

mutual

def Finite : Json → Prop
  | .float value => value.isFinite = true
  | .array items => FiniteItems items
  | .object fields => FiniteFields fields
  | _ => True

def FiniteItems : List Json → Prop
  | [] => True
  | item :: items => Finite item ∧ FiniteItems items

def FiniteFields : List (String × Json) → Prop
  | [] => True
  | (_, value) :: fields => Finite value ∧ FiniteFields fields

end

inductive Shape where
  | null
  | bool
  | number
  | string
  | array
  | object

def shape : Json → Shape
  | .null => .null
  | .bool _ => .bool
  | .integer _ => .number
  | .float _ => .number
  | .string _ => .string
  | .array _ => .array
  | .object _ => .object

def shapeOf (chars : List Char) : Shape :=
  match chars with
  | 'n' :: _ => .null
  | 't' :: _ => .bool
  | 'f' :: _ => .bool
  | '"' :: _ => .string
  | '[' :: _ => .array
  | '\x7b' :: _ => .object
  | _ => .number

theorem Numeral.shapeOf {chars : List Char} (numeral : Numeral chars) (rest : List Char) :
    shapeOf (chars ++ rest) = .number := by
  rcases numeral.front with ⟨c, behind, rfl, first⟩
  rw [List.cons_append, Json.shapeOf]
  all_goals
    rintro _ ⟨⟩
    rcases first with sign | digit
    · cases sign
    · cases digit

theorem shapeOf_prettyChars (depth : Nat) (document : Json) (rest : List Char)
    (finite : document.Finite) : shapeOf (prettyChars depth document ++ rest) = document.shape := by
  cases document with
  | null => rfl
  | bool value => cases value <;> rfl
  | integer value => exact (numeral_integerChars value).shapeOf rest
  | float value => exact (floatChars_finite finite).1.shapeOf rest
  | string value => rfl
  | array items => cases items <;> rfl
  | object fields => cases fields <;> rfl

theorem numeral_prettyChars {depth : Nat} {document : Json} (number : document.shape = .number)
    (finite : document.Finite) :
    Numeral (prettyChars depth document) ∧ readNumber (prettyChars depth document) = document := by
  cases document with
  | integer value => exact ⟨numeral_integerChars value, readNumber_integerChars value⟩
  | float value => exact ⟨(floatChars_finite finite).1, readNumber_floatChars finite⟩
  | _ => cases number

theorem ends_prettyItems (depth : Nat) (items : List Json) (rest : List Char) :
    Ends (prettyItems depth items ++ rest) := by
  cases items with
  | nil => exact ends_cons (by decide)
  | cons item items => exact ends_cons (by decide)

theorem ends_prettyFields (depth : Nat) (fields : List (String × Json)) (rest : List Char) :
    Ends (prettyFields depth fields ++ rest) := by
  cases fields with
  | nil => exact ends_cons (by decide)
  | cons field fields => exact ends_cons (by decide)

theorem boolChars_append_inj {value other : Bool} {rest left : List Char}
    (same : boolChars value ++ rest = boolChars other ++ left) : value = other ∧ rest = left := by
  cases value <;> cases other
  all_goals simp_all [boolChars]

theorem number_append_inj {depth : Nat} {a b : Json} {r s : List Char} (number : a.shape = .number)
    (number' : b.shape = .number) (finite : a.Finite) (finite' : b.Finite) (ends : Ends r)
    (ends' : Ends s) (same : prettyChars depth a ++ r = prettyChars depth b ++ s) :
    a = b ∧ r = s := by
  rcases numeral_prettyChars number finite with ⟨numeral, read⟩
  rcases numeral_prettyChars number' finite' with ⟨numeral', read'⟩
  rcases numeral.append_inj numeral' ends ends' same with ⟨chars, rests⟩
  rw [chars, read'] at read
  exact ⟨read.symm, rests⟩

mutual

/-- By recursion on the first document; the first character leaves one shape for the second. -/
theorem prettyChars_append_inj (depth : Nat) : ∀ (a b : Json) {r s : List Char}, a.Finite →
    b.Finite → Ends r → Ends s → prettyChars depth a ++ r = prettyChars depth b ++ s →
    a = b ∧ r = s := by
  intro a b r s finite finite' ends ends' same
  have shapes := (shapeOf_prettyChars depth a r finite).symm.trans
    ((congrArg shapeOf same).trans (shapeOf_prettyChars depth b s finite'))
  match a, b, shapes with
  | .null, .null, _ => exact ⟨rfl, List.append_cancel_left same⟩
  | .bool _, .bool _, _ => exact (boolChars_append_inj same).imp_left (congrArg bool)
  | .string _, .string _, _ => exact (stringChars_append_inj same).imp_left (congrArg string)
  | .integer _, _, number => exact number_append_inj rfl number.symm finite finite' ends ends' same
  | .float _, _, number => exact number_append_inj rfl number.symm finite finite' ends ends' same
  | .array [], .array [], _ => exact ⟨rfl, List.append_cancel_left same⟩
  | .array [], .array (_ :: _), _ => cases same
  | .array (_ :: _), .array [], _ => cases same
  | .array (item :: items), .array (other :: others), _ =>
    have behind : prettyItems depth (item :: items) ++ r = prettyItems depth (other :: others) ++ s :=
      congrArg (',' :: ·) (List.cons.inj same).2
    exact (prettyItems_append_inj depth _ _ finite finite' behind).imp_left (congrArg array)
  | .object [], .object [], _ => exact ⟨rfl, List.append_cancel_left same⟩
  | .object [], .object (_ :: _), _ => cases same
  | .object (_ :: _), .object [], _ => cases same
  | .object (field :: fields), .object (other :: others), _ =>
    have behind : prettyFields depth (field :: fields) ++ r =
        prettyFields depth (other :: others) ++ s := congrArg (',' :: ·) (List.cons.inj same).2
    exact (prettyFields_append_inj depth _ _ finite finite' behind).imp_left (congrArg object)

theorem prettyItems_append_inj (depth : Nat) : ∀ (xs ys : List Json) {r s : List Char},
    FiniteItems xs → FiniteItems ys → prettyItems depth xs ++ r = prettyItems depth ys ++ s →
    xs = ys ∧ r = s := by
  intro xs ys r s finite finite' same
  match xs, ys with
  | [], [] => exact ⟨rfl, List.append_cancel_left same⟩
  | [], _ :: _ => cases same
  | _ :: _, [] => cases same
  | x :: xs, y :: ys =>
    have behind : prettyChars (depth + 1) x ++ (prettyItems depth xs ++ r) =
        prettyChars (depth + 1) y ++ (prettyItems depth ys ++ s) := by
      simpa [prettyItems] using same
    rcases prettyChars_append_inj (depth + 1) x y finite.1 finite'.1 (ends_prettyItems _ _ _)
      (ends_prettyItems _ _ _) behind with ⟨rfl, rests⟩
    exact (prettyItems_append_inj depth xs ys finite.2 finite'.2 rests).imp_left
      (congrArg (x :: ·))

theorem prettyFields_append_inj (depth : Nat) : ∀ (xs ys : List (String × Json))
    {r s : List Char}, FiniteFields xs → FiniteFields ys →
    prettyFields depth xs ++ r = prettyFields depth ys ++ s → xs = ys ∧ r = s := by
  intro xs ys r s finite finite' same
  match xs, ys with
  | [], [] => exact ⟨rfl, List.append_cancel_left same⟩
  | [], _ :: _ => cases same
  | _ :: _, [] => cases same
  | (key, x) :: xs, (key', y) :: ys =>
    have behind : stringChars key ++ ':' :: ' ' ::
          (prettyChars (depth + 1) x ++ (prettyFields depth xs ++ r)) =
        stringChars key' ++ ':' :: ' ' ::
          (prettyChars (depth + 1) y ++ (prettyFields depth ys ++ s)) := by
      simpa [prettyFields] using same
    rcases stringChars_append_inj behind with ⟨rfl, values⟩
    rcases prettyChars_append_inj (depth + 1) x y finite.1 finite'.1 (ends_prettyFields _ _ _)
      (ends_prettyFields _ _ _) (List.cons.inj (List.cons.inj values).2).2 with ⟨rfl, rests⟩
    exact (prettyFields_append_inj depth xs ys finite.2 finite'.2 rests).imp_left
      (congrArg ((key, x) :: ·))

end

/-- Documents of finite numbers are the same where their layouts are. -/
theorem pretty_inj {a b : Json} (finite : a.Finite) (finite' : b.Finite)
    (same : a.pretty = b.pretty) : a = b := by
  have chars : prettyChars 0 a ++ [] = prettyChars 0 b ++ [] :=
    congrArg (· ++ []) (String.ofList_injective same)
  exact (prettyChars_append_inj 0 a b finite finite' ends_nil ends_nil chars).1

end LetLang.Json
