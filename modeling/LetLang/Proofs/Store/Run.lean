import LetLang.Proofs.Store.Made
import Mathlib.Logic.Relation

/-! Runs of operations: what holds of every variable then, and what no step changes again. -/
namespace LetLang.Store

def Operation.cell? : Operation → Option String
  | .setName cell _ | .setValue cell _ => some cell
  | _ => none

/-- A step makes a variable where none is kept yet, or sets the name or the value of one in its
place; if it fails, it changes nothing. Or it keeps a copy of a variable, as one read out of an
object. -/
inductive Step (store : Store) : Store → Prop
  | apply {target : String} {operation : Operation} (given : operation.Given store)
      (free : store.find? target = none ∨ operation.cell? = some target) :
      Step store (store.apply target operation).2
  | copy {target : String} {cell : Variable} (has : store.Has cell)
      (unused : store.find? target = none) : Step store (store.put target cell)

abbrev Runs : Store → Store → Prop := Relation.ReflTransGen Step

/-- A variable as it was, but for a name or a value that it did not have. -/
structure Kept (before after : Variable) : Prop where
  kind : after.kind = before.kind
  actions : after.actions = before.actions
  name : ∀ name, before.name? = some name → after.name? = some name
  value : ∀ value, before.value? = some value → after.value? = some value

variable {store next : Store} {held made cell : Variable} {name target : String}
variable {operation : Operation}

theorem Kept.refl (held : Variable) : Kept held held :=
  ⟨rfl, rfl, fun _ same => same, fun _ same => same⟩

theorem Kept.trans {first second third : Variable} (before : Kept first second)
    (after : Kept second third) : Kept first third where
  kind := after.kind.trans before.kind
  actions := after.actions.trans before.actions
  name := fun name same => after.name name (before.name name same)
  value := fun value same => after.value value (before.value value same)

theorem kept_setName {text : String} (named : held.setName text = .ok made) : Kept held made := by
  rcases Variable.setName_eq_ok.mp named with ⟨unnamed, rfl⟩
  refine ⟨rfl, rfl, fun given same => ?_, fun _ same => same⟩
  rw [unnamed] at same
  cases same

theorem kept_setValue {value : Value} (valued : held.setValue value = .ok made) :
    Kept held made := by
  rcases Variable.setValue_eq_ok_of_unvalued.mp valued with ⟨unvalued, _, rfl⟩
  refine ⟨rfl, rfl, fun _ same => same, fun given same => ?_⟩
  rw [unvalued] at same
  cases same

/-! What is kept under which name. -/

theorem lookup_filter {cells : List (String × Variable)} (other : name ≠ target) :
    (cells.filter (·.1 ≠ target)).lookup name = cells.lookup name := by
  induction cells with
  | nil => rfl
  | cons entry cells ih =>
      rcases entry with ⟨key, kept⟩
      by_cases same : key = target
      · have apart : (name == key) = false := beq_false_of_ne (same ▸ other)
        rw [List.filter_cons_of_neg (by simp [same]), List.lookup_cons, apart, ih]
      · rw [List.filter_cons_of_pos (by simp [same]), List.lookup_cons, List.lookup_cons, ih]

theorem find?_put (store : Store) (target name : String) (made : Variable) :
    (store.put target made).find? name = if name = target then some made else store.find? name := by
  unfold put find?
  rw [List.lookup_cons]
  by_cases same : name = target
  · rw [if_pos same, same, beq_self_eq_true]
  · rw [if_neg same, beq_false_of_ne same]
    exact lookup_filter same

/-- A new variable adds itself to those that exist, and nothing else: its members were there. -/
theorem has_put (provided : ∀ value, made.value? = some value → store.Provides value)
    (has : (store.put target made).Has cell) : store.Has cell ∨ cell = made := by
  induction has with
  | @kept name cell found =>
      rw [find?_put] at found
      by_cases same : name = target
      · rw [if_pos same] at found
        exact .inr (Option.some.inj found).symm
      · rw [if_neg same] at found
        exact .inl (.kept found)
  | @member holder cell members _ object inside ih =>
      rcases ih with before | rfl
      · exact .inl (.member before object inside)
      · exact .inl (provided _ object members rfl cell inside)

theorem apply_cases (store : Store) (target : String) (operation : Operation) :
    (store.apply target operation).2 = store ∨
      ∃ made, store.make operation = .ok made ∧
        (store.apply target operation).2 = store.put target made := by
  unfold apply
  cases built : store.make operation with
  | error failure => exact .inl rfl
  | ok made => exact .inr ⟨made, rfl, rfl⟩

/-! One step. -/

theorem step_sound (step : Step store next) (sound : ∀ cell, store.Has cell → cell.Sound) :
    ∀ cell, next.Has cell → cell.Sound := by
  cases step with
  | @apply target operation given free =>
      rcases apply_cases store target operation with failed | ⟨made, built, put⟩
      · rw [failed]
        exact sound
      · rcases make_sound sound given built with ⟨new, provided⟩
        rw [put]
        intro cell has
        rcases has_put provided has with before | rfl
        · exact sound cell before
        · exact new
  | @copy target copied existing unused =>
      intro cell has
      rcases has_put (fun value held => provides_held existing held) has with before | rfl
      · exact sound cell before
      · exact sound cell existing

theorem kept_make (found : store.find? name = some held) (goesOn : operation.cell? = some name)
    (built : store.make operation = .ok made) : Kept held made := by
  cases operation with
  | setName key text =>
      obtain rfl : key = name := Option.some.inj goesOn
      simp only [make, except_bind_eq_ok, ofCause_eq_ok, Outcome.ofExcept_eq_ok,
        find_eq_ok] at built
      rcases built with ⟨cell, again, named⟩
      obtain rfl : held = cell := Option.some.inj (found.symm.trans again)
      exact kept_setName named
  | setValue key value =>
      obtain rfl : key = name := Option.some.inj goesOn
      simp only [make, except_bind_eq_ok, ofCause_eq_ok, Outcome.ofExcept_eq_ok,
        find_eq_ok] at built
      rcases built with ⟨cell, again, valued⟩
      obtain rfl : held = cell := Option.some.inj (found.symm.trans again)
      exact kept_setValue valued
  | _ => cases goesOn

theorem step_keeps (step : Step store next) (found : store.find? name = some held) :
    ∃ now, next.find? name = some now ∧ Kept held now := by
  cases step with
  | @apply target operation given free =>
      rcases apply_cases store target operation with failed | ⟨made, built, put⟩
      · rw [failed]
        exact ⟨held, found, .refl held⟩
      · rw [put, find?_put]
        by_cases same : name = target
        · rw [if_pos same]
          rcases free with unused | goesOn
          -- No step makes a new variable where `held` is kept.
          · rw [same, unused] at found
            cases found
          · exact ⟨made, rfl, kept_make found (same ▸ goesOn) built⟩
        · rw [if_neg same]
          exact ⟨held, found, .refl held⟩
  | @copy target copied existing unused =>
      have other : name ≠ target := by
        intro same
        rw [same, unused] at found
        cases found
      rw [find?_put, if_neg other]
      exact ⟨held, found, .refl held⟩

/-! Runs of any length. -/

theorem not_has_empty : ¬empty.Has cell := by
  intro has
  induction has with
  | kept found => cases found
  | member _ _ _ ih => exact ih

theorem runs_sound (reached : Runs empty store) : ∀ cell, store.Has cell → cell.Sound := by
  induction reached with
  | refl => exact fun _ has => absurd has not_has_empty
  | tail _ step ih => exact step_sound step ih

theorem runs_keep (run : Runs store next) (found : store.find? name = some held) :
    ∃ now, next.find? name = some now ∧ Kept held now := by
  induction run with
  | refl => exact ⟨held, found, .refl held⟩
  | tail _ step ih =>
      rcases ih with ⟨middle, before, first⟩
      rcases step_keeps step before with ⟨now, after, second⟩
      exact ⟨now, after, first.trans second⟩

/-! What is set is not set again. -/

theorem apply_setName_named {given : String} (found : store.find? name = some held)
    (named : held.name? = some given) (target text : String) :
    store.apply target (.setName name text) =
      (Outcome.refuse (.cause (.nameAlreadyAssigned given)), store) := by
  have refused : held.setName text = .error (.nameAlreadyAssigned given) := by
    rw [Variable.setName, named]
  have built : store.make (.setName name text) =
      Outcome.refuse (.cause (.nameAlreadyAssigned given)) := by
    rw [make, find_eq_ok.mpr found]
    show ofCause (Outcome.ofExcept (held.setName text)) = _
    rw [refused]
    rfl
  rw [apply, built]
  rfl

theorem apply_setValue_valued {given : Value} (found : store.find? name = some held)
    (valued : held.value? = some given) (target : String) (value : Value) :
    store.apply target (.setValue name value) =
      (Outcome.refuse (.cause (.valueAlreadyAssigned held.kind.name)), store) := by
  have refused : held.setValue value = .error (.valueAlreadyAssigned held.kind.name) := by
    rw [Variable.setValue, valued]
    rfl
  have built : store.make (.setValue name value) =
      Outcome.refuse (.cause (.valueAlreadyAssigned held.kind.name)) := by
    rw [make, find_eq_ok.mpr found]
    show ofCause (Outcome.ofExcept (held.setValue value)) = _
    rw [refused]
    rfl
  rw [apply, built]
  rfl

/-- After a run of any length from no variables at all, every variable is sound, those inside
objects included. What is kept stays under its name with its kind; a name and a value that it has
stay what they are, and setting one again fails and changes nothing. -/
theorem runs_sound_and_kept {store : Store} (reached : Runs empty store) :
    (∀ cell, store.Has cell → cell.Sound) ∧
      ∀ name held, store.find? name = some held →
        (∀ later, Runs store later → ∃ now, later.find? name = some now ∧ Kept held now) ∧
        (∀ given, held.name? = some given → ∀ target text,
          store.apply target (.setName name text) =
            (Outcome.refuse (.cause (.nameAlreadyAssigned given)), store)) ∧
        ∀ given, held.value? = some given → ∀ target value,
          store.apply target (.setValue name value) =
            (Outcome.refuse (.cause (.valueAlreadyAssigned held.kind.name)), store) := by
  refine ⟨runs_sound reached, fun name held found => ?_⟩
  refine ⟨fun later run => runs_keep run found, ?_, ?_⟩
  · exact fun given named => apply_setName_named found named
  · exact fun given valued => apply_setValue_valued found valued

theorem named_once :
    Variable.Sound ⟨some "x", .char, some (.string "c"), []⟩ ∧
      apply ⟨[("a", ⟨some "x", .char, some (.string "c"), []⟩)]⟩ "a" (.setName "a" "x") =
        (Outcome.refuse (.cause (.nameAlreadyAssigned "x")),
          ⟨[("a", ⟨some "x", .char, some (.string "c"), []⟩)]⟩) := by
  have plain : (Operation.anonymous .char (.string "c")).Given empty := nofun
  have made : Runs empty ⟨[("a", ⟨none, .char, some (.string "c"), []⟩)]⟩ :=
    .single (@Step.apply empty "a" _ plain (.inl rfl))
  have named : Runs empty ⟨[("a", ⟨some "x", .char, some (.string "c"), []⟩)]⟩ :=
    made.tail (@Step.apply _ "a" (.setName "a" "x") trivial (.inr rfl))
  have reached := runs_sound_and_kept named
  refine ⟨reached.1 _ (@Has.kept _ "a" _ rfl), ?_⟩
  exact (reached.2 "a" _ rfl).2.1 "x" rfl "a" "x"

end LetLang.Store
