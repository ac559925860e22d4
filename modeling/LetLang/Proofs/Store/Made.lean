import LetLang.Proofs.Variable.Arithmetic
import LetLang.Proofs.Variable.Sound
import LetLang.Store

/-! The variables that exist in a store, and what an operation makes of them. -/
namespace LetLang

theorem Variable.get_eq_ok {receiver : Variable} {name : String} {value : Value} :
    receiver.get name = .ok value ↔
      ∃ member, receiver.member? name = some member ∧ member.value? = some value := by
  unfold get
  cases found : receiver.member? name with
  | none => simp
  | some member =>
      cases held : member.value? with
      | none => simp [held]
      | some given => simp [held]

theorem Variable.mem_of_member? {receiver member : Variable} {name : String}
    (found : receiver.member? name = some member) :
    ∃ members, receiver.value? = some (.object members) ∧ member ∈ members := by
  unfold member? at found
  split at found
  · rename_i members held
    exact ⟨members, held, List.mem_of_find?_eq_some found⟩
  · cases found

theorem Variable.invoke_cases {receiver : Variable} {action : Action} {arguments : List Variable}
    {answer : Value} (invoked : receiver.invoke action arguments = .ok answer) :
    (∃ members, receiver.value? = some (.object members) ∧
      ∃ member ∈ members, member.value? = some answer) ∨
    ∃ initial operands, receiver.value? = some initial ∧
      Value.fold receiver.kind action.name initial operands = .ok answer := by
  simp only [invoke, except_bind_eq_ok, Outcome.ofExcept_eq_ok, assignedValue_eq_ok] at invoked
  rcases invoked with ⟨_, _, _, _, initial, held, operands, _, answered⟩
  split at answered
  · cases answered
  · rcases get_eq_ok.mp (Outcome.ofExcept_eq_ok.mp answered) with ⟨member, found, value⟩
    rcases mem_of_member? found with ⟨members, object, inside⟩
    exact .inl ⟨members, object, member, inside, value⟩
  · exact .inr ⟨initial, _, held, Outcome.ofExcept_eq_ok.mp answered⟩

namespace Store

/-- The variables of a store: those that it keeps, and the members of objects that these hold. -/
inductive Has (store : Store) : Variable → Prop
  | kept {name : String} {cell : Variable} (found : store.find? name = some cell) : Has store cell
  | member {holder cell : Variable} {members : List Variable} (holding : Has store holder)
      (object : holder.value? = some (.object members)) (inside : cell ∈ members) : Has store cell

def Provides (store : Store) (value : Value) : Prop :=
  ∀ members, value = .object members → ∀ cell ∈ members, store.Has cell

def Operation.Given (store : Store) : Operation → Prop
  | .anonymous _ value | .setValue _ value => store.Provides value
  | _ => True

variable {store : Store} {cell made : Variable} {value : Value}

theorem provides_held (has : store.Has cell) (held : cell.value? = some value) :
    store.Provides value := by
  intro members same other inside
  rw [same] at held
  exact .member has held inside

theorem provides_number (number : value.IsNumber) : store.Provides value := by
  intro members same
  rw [same] at number
  cases number

theorem find_eq_ok {name : String} : store.find name = .ok cell ↔ store.find? name = some cell := by
  unfold find
  cases store.find? name with
  | none => simp [Outcome.refuse]
  | some held => simp

theorem has_of_findAll {names : List String} {cells : List Variable}
    (found : store.findAll names = .ok cells) : ∀ held ∈ cells, store.Has held := by
  induction names generalizing cells with
  | nil =>
      cases found
      exact nofun
  | cons name names ih =>
      rcases except_bind_eq_ok.mp found with ⟨first, one, rest⟩
      rcases except_bind_eq_ok.mp rest with ⟨others, more, last⟩
      cases last
      exact List.forall_mem_cons.mpr ⟨.kept (find_eq_ok.mp one), ih more⟩

theorem ofCause_eq_ok {α : Type} {outcome : Outcome Cause α} {result : α} :
    ofCause outcome = .ok result ↔ outcome = .ok result := by
  rcases outcome with (cause | _) | found
  · simp [ofCause, Outcome.refuse]
  · simp [ofCause, Outcome.crash]
  · simp [ofCause]

/-- An answer brings no variable that was not there. -/
theorem provides_invoke {receiver : String} {action : Action} {arguments : List String}
    (invoked : store.invoke receiver action arguments = .ok value) : store.Provides value := by
  simp only [invoke, except_bind_eq_ok, ofCause_eq_ok, find_eq_ok] at invoked
  rcases invoked with ⟨held, found, operands, _, answered⟩
  have has : store.Has held := .kept found
  rcases Variable.invoke_cases answered with ⟨members, object, member, inside, given⟩ |
    ⟨initial, operands, given, folded⟩
  · exact provides_held (.member has object inside) given
  · cases operands with
    | nil =>
        obtain rfl : initial = value := Except.ok.inj folded
        exact provides_held has given
    | cons operand operands => exact provides_number (Value.isNumber_of_fold folded)

theorem provides_setValue (given : store.Provides value)
    (valued : cell.setValue value = .ok made) :
    ∀ held, made.value? = some held → store.Provides held := by
  rcases Variable.setValue_eq_ok_of_unvalued.mp valued with ⟨_, _, rfl⟩
  intro held same members object
  obtain rfl : cell.kind.normalise value = held := Option.some.inj same
  exact given members (Kind.object_of_normalise object)

theorem make_sound {operation : Operation} (sound : ∀ held, store.Has held → held.Sound)
    (given : operation.Given store) (built : store.make operation = .ok made) :
    made.Sound ∧ ∀ held, made.value? = some held → store.Provides held := by
  have anonymous : ∀ {kind value}, store.Provides value →
      Variable.anonymous kind value = .ok made →
      made.Sound ∧ ∀ held, made.value? = some held → store.Provides held :=
    fun given valued =>
      ⟨(Variable.sound_new _).setValue valued, provides_setValue given valued⟩
  cases operation with
  | new kind =>
      cases built
      exact ⟨Variable.sound_new kind, nofun⟩
  | anonymous kind value =>
      exact anonymous given (Outcome.ofExcept_eq_ok.mp (ofCause_eq_ok.mp built))
  | setName name text =>
      simp only [make, except_bind_eq_ok, ofCause_eq_ok, Outcome.ofExcept_eq_ok,
        find_eq_ok] at built
      rcases built with ⟨cell, found, named⟩
      have has : store.Has cell := .kept found
      refine ⟨(sound cell has).setName named, ?_⟩
      rcases Variable.setName_eq_ok.mp named with ⟨_, rfl⟩
      exact fun held (same : cell.value? = some held) => provides_held has same
  | setValue name value =>
      simp only [make, except_bind_eq_ok, ofCause_eq_ok, Outcome.ofExcept_eq_ok,
        find_eq_ok] at built
      rcases built with ⟨cell, found, valued⟩
      exact ⟨(sound cell (.kept found)).setValue valued, provides_setValue given valued⟩
  | object names =>
      simp only [make, except_bind_eq_ok, ofCause_eq_ok, Outcome.ofExcept_eq_ok] at built
      rcases built with ⟨members, found, valued⟩
      refine anonymous ?_ valued
      intro others same
      cases same
      exact has_of_findAll found
  | invoke receiver action arguments =>
      simp only [make, except_bind_eq_ok, ofCause_eq_ok, Outcome.ofExcept_eq_ok] at built
      rcases built with ⟨answer, invoked, held, _, valued⟩
      exact anonymous (provides_invoke invoked) valued

end Store
end LetLang
