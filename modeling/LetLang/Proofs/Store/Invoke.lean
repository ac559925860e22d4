import LetLang.Proofs.Store.Run
import LetLang.Proofs.Variable.Invoke

/-!
Invocations of the variables that a run of operations can make. One of an action that the receiver
has itself does not crash, and it fails for no other reason than its arguments give.
-/
namespace LetLang

namespace Variable

def FirstNamed (members : List Variable) (name : String) (member : Variable) : Prop :=
  member.name? = some name ∧
    ∃ front back, members = front ++ member :: back ∧ ∀ earlier ∈ front, earlier.name? ≠ some name

structure ReadsMember (members : List Variable) (name : String) (answer : Outcome Cause Value) :
    Prop where
  found : ∀ value, answer = .ok value ↔
    ∃ member, FirstNamed members name member ∧ member.value? = some value
  missing : answer = Outcome.refuse (.memberNotFound name) ↔
    ∀ member, FirstNamed members name member → member.value? = none

variable {receiver member : Variable} {members arguments : List Variable} {name : String}
variable {action : Action}

theorem member?_eq_some (object : receiver.value? = some (.object members)) :
    receiver.member? name = some member ↔ FirstNamed members name member := by
  simp only [member?, object, List.find?_eq_some_iff_append, FirstNamed, beq_iff_eq,
    Bool.not_eq_true', beq_eq_false_iff_ne, ne_eq]

theorem readsMember_get (object : receiver.value? = some (.object members)) (name : String) :
    ReadsMember members name (Outcome.ofExcept (receiver.get name)) := by
  constructor
  · intro value
    rw [Outcome.ofExcept_eq_ok, get_eq_ok]
    simp only [member?_eq_some object]
  · simp only [← member?_eq_some object, get]
    cases found : receiver.member? name with
    | none => simp [Outcome.ofExcept]
    | some first =>
        cases held : first.value? with
        | none => simp [Outcome.ofExcept, held]
        | some value => simp [Outcome.ofExcept, Outcome.refuse, held]

theorem Sound.own_action (sound : receiver.Sound) (own : action ∈ receiver.actions) :
    receiver.kind ∈ Kind.numeric ∧ action ∈ Action.number ∨
      receiver.kind = .object ∧ action ∈ Action.object := by
  rw [sound.actions, Kind.actions] at own
  split at own
  · rename_i numeric
    exact .inl ⟨receiver.kind.isNumeric_iff.mp numeric, own⟩
  · split at own
    · rename_i object
      exact .inr ⟨object, own⟩
    · cases own

theorem invoke_object_ne_crash (own : action ∈ Action.object) (arguments : List Variable) :
    receiver.invoke action arguments ≠ Outcome.crash := by
  obtain rfl : action = ⟨.get, some '.', false, [[Kind.string]]⟩ := List.mem_singleton.mp own
  unfold invoke
  apply Outcome.bind_ne_crash (Outcome.ofExcept_ne_crash _)
  intro _ fits
  apply Outcome.bind_ne_crash (Outcome.ofExcept_ne_crash _)
  intro _ _
  apply Outcome.bind_ne_crash (Outcome.ofExcept_ne_crash _)
  intro value _
  apply Outcome.bind_ne_crash (Outcome.ofExcept_ne_crash _)
  intro operands held
  have all := assignedValues_eq_ok.mp (Outcome.ofExcept_eq_ok.mp held)
  cases operands with
  | nil =>
      obtain rfl : arguments = [] := by simpa using all
      cases fits
  | cons operand operands => exact Outcome.ofExcept_ne_crash _

theorem Sound.object_of_valued (sound : receiver.Sound) (object : receiver.kind = .object)
    (valued : receiver.value? ≠ none) : ∃ members, receiver.value? = some (.object members) := by
  obtain ⟨value, held⟩ := Option.ne_none_iff_exists'.mp valued
  obtain ⟨members, rfl⟩ : ∃ members, value = .object members := by
    simpa [object, Kind.Holds, Kind.bounds?] using (sound.value value held).2.2
  exact ⟨members, held⟩

theorem Sound.string_of_valued (sound : receiver.Sound) (string : receiver.kind = .string)
    (valued : receiver.value? ≠ none) : ∃ text, receiver.value? = some (.string text) := by
  obtain ⟨value, held⟩ := Option.ne_none_iff_exists'.mp valued
  obtain ⟨text, rfl⟩ : ∃ text, value = .string text := by
    simpa [string, Kind.Holds, Kind.bounds?] using (sound.value value held).2.2
  exact ⟨text, held⟩

theorem readsMember_invoke {argument : Variable} (own : action ∈ Action.object)
    (object : receiver.value? = some (.object members)) (string : argument.kind = .string)
    (named : argument.value? = some (.string name)) :
    ReadsMember members name (receiver.invoke action [argument]) := by
  obtain rfl : action = ⟨.get, some '.', false, [[Kind.string]]⟩ := List.mem_singleton.mp own
  have kinds : checkKinds ⟨.get, some '.', false, [[Kind.string]]⟩ 0 [argument] = .ok () := by
    simp [checkKinds, Action.acceptedKinds?, string]
  have held : assignedValues [receiver, argument] = .ok [.object members, .string name] :=
    assignedValues_eq_ok.mpr (by simp [object, named])
  have answered : receiver.invoke ⟨.get, some '.', false, [[Kind.string]]⟩ [argument] =
      Outcome.ofExcept (receiver.get name) := invoke_of_member rfl kinds held rfl
  rw [answered]
  exact readsMember_get object name

end Variable

namespace Store

open Variable (Calculates ReadsMember)

/-- Whatever variables a run has made, an invocation of an action that the receiver has does not
crash. An operator of numbers answers as its arguments let it, with a number unless arithmetic on
integers fails; an object that has a value answers a string with what its first member of that name
holds. -/
theorem invoke_answers {store : Store} (reached : Runs empty store) {receiver : Variable}
    (has : store.Has receiver) {arguments : List Variable}
    (given : ∀ argument ∈ arguments, store.Has argument) {action : Action}
    (own : action ∈ receiver.actions) :
    receiver.invoke action arguments ≠ Outcome.crash ∧
      (receiver.kind.isNumeric = true →
        Calculates receiver arguments (receiver.invoke action arguments)) ∧
      ∀ argument, receiver.kind = .object → receiver.value? ≠ none → arguments = [argument] →
        argument.kind = .string → argument.value? ≠ none →
          ∃ members name, receiver.value? = some (.object members) ∧
            argument.value? = some (.string name) ∧
            ReadsMember members name (receiver.invoke action arguments) := by
  have sound := runs_sound reached
  rcases (sound receiver has).own_action own with ⟨numeric, listed⟩ | ⟨object, listed⟩
  · have calculates := (sound receiver has).calculates
      (fun argument inside => sound argument (given argument inside)) numeric listed
    refine ⟨?_, fun _ => calculates, ?_⟩
    · intro crashed
      rw [crashed] at calculates
      cases calculates
    · intro argument object
      rw [object] at numeric
      simp [Kind.numeric] at numeric
  · refine ⟨Variable.invoke_object_ne_crash listed arguments, ?_, ?_⟩
    · intro numeric
      rw [object] at numeric
      cases numeric
    · rintro argument _ valued rfl string filled
      obtain ⟨members, held⟩ := (sound receiver has).object_of_valued object valued
      have inside : store.Has argument := given argument List.mem_cons_self
      obtain ⟨name, named⟩ := (sound argument inside).string_of_valued string filled
      exact ⟨members, name, held, named, Variable.readsMember_invoke listed held string named⟩

theorem invoke_answers_member :
    Variable.invoke
        ⟨none, .object, some (.object [⟨some "x", .char, some (.string "c"), []⟩]), Action.object⟩
        ⟨.get, some '.', false, [[Kind.string]]⟩ [⟨none, .string, some (.string "x"), []⟩] =
      .ok (.string "c") := by
  have made : Runs empty ⟨[("m", ⟨none, .char, some (.string "c"), []⟩)]⟩ :=
    .single (@Step.apply empty "m" (.anonymous .char (.string "c")) nofun (.inl rfl))
  have named : Runs empty ⟨[("m", ⟨some "x", .char, some (.string "c"), []⟩)]⟩ :=
    made.tail (@Step.apply _ "m" (.setName "m" "x") trivial (.inr rfl))
  have held := named.tail (@Step.apply _ "o" (.object ["m"]) trivial (.inl rfl))
  have asked := held.tail (@Step.apply _ "s" (.anonymous .string (.string "x")) nofun (.inl rfl))
  have answers := invoke_answers asked (@Has.kept _ "o" _ rfl)
    (List.forall_mem_singleton.mpr (@Has.kept _ "s" _ rfl)) List.mem_cons_self
  obtain ⟨members, name, object, text, reads⟩ := answers.2.2 _ rfl
    (Option.some_ne_none _) rfl rfl (Option.some_ne_none _)
  cases object
  cases text
  exact (reads.found _).mpr ⟨⟨some "x", .char, some (.string "c"), []⟩,
    ⟨rfl, [], [], rfl, List.forall_mem_nil _⟩, rfl⟩

end Store
end LetLang
