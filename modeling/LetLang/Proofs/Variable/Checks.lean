import LetLang.Proofs.Variable.Invoke
import Mathlib.Order.WellFounded

/-!
Invocations of any action on any receiver, also of actions that no kind has. What is wrong with the
arguments is looked for in a fixed order, and the first finding is the answer; without one, a read
of no member at all is what has no answer.
-/
namespace LetLang

def Action.kindsAt (action : Action) (index : Nat) : List Kind :=
  if action.spread then action.arguments.headD [] else action.arguments.getD index []

namespace Variable

inductive Check where
  | tooFew
  | tooMany
  | kinds
  | receiver
  | operands
  deriving DecidableEq

def Check.place : Check → Nat
  | tooFew => 0
  | tooMany => 1
  | kinds => 2
  | receiver => 3
  | operands => 4

inductive Finds (receiver : Variable) (action : Action) (arguments : List Variable) :
    Check → Cause → Prop
  | tooFew (fixed : action.spread = false) (fewer : arguments.length < action.arguments.length) :
      Finds receiver action arguments .tooFew
        (.missingArguments action.arguments.length arguments.length)
  | tooMany (fixed : action.spread = false) (more : action.arguments.length < arguments.length) :
      Finds receiver action arguments .tooMany
        (.tooManyArguments action.arguments.length arguments.length)
  | kinds {front back : List Variable} {argument : Variable}
      (split : arguments = front ++ argument :: back)
      (before : ∀ index earlier, front[index]? = some earlier →
        earlier.kind ∈ action.kindsAt index)
      (other : argument.kind ∉ action.kindsAt front.length) :
      Finds receiver action arguments .kinds
        (.argumentKindMismatch
          (" | ".intercalate ((action.kindsAt front.length).map Kind.name)) argument.kind.name)
  | receiver (missing : receiver.value? = none) :
      Finds receiver action arguments .receiver
        (.valueKindMismatch "nothing" receiver.kind.name)
  | operands {front back : List Variable} {argument : Variable}
      (split : arguments = front ++ argument :: back)
      (before : ∀ earlier ∈ front, earlier.value? ≠ none) (missing : argument.value? = none) :
      Finds receiver action arguments .operands
        (.valueKindMismatch "nothing" argument.kind.name)

/-- What an invocation answers: the finding of the first check that has one, or what the action does
when there is none. -/
inductive Answers (receiver : Variable) (action : Action) (arguments : List Variable) :
    Outcome Cause Value → Prop
  | refused {check : Check} {cause : Cause} (found : Finds receiver action arguments check cause)
      (first : ∀ earlier other, earlier.place < check.place →
        ¬Finds receiver action arguments earlier other) :
      Answers receiver action arguments (Outcome.refuse cause)
  | member {operand : Value} {operands : List Value}
      (passes : ∀ check cause, ¬Finds receiver action arguments check cause)
      (reads : action.name = .get)
      (held : arguments.map value? = some operand :: operands.map some) :
      Answers receiver action arguments
        (Outcome.ofExcept (receiver.get (operand.asString?.getD "")))
  | nothing (passes : ∀ check cause, ¬Finds receiver action arguments check cause)
      (reads : action.name = .get) (empty : arguments = []) :
      Answers receiver action arguments Outcome.crash
  | fold {value : Value} {operands : List Value}
      (passes : ∀ check cause, ¬Finds receiver action arguments check cause)
      (arithmetic : action.name ≠ .get) (valued : receiver.value? = some value)
      (held : arguments.map value? = operands.map some) :
      Answers receiver action arguments
        (Outcome.ofExcept (Value.fold receiver.kind action.name value operands))

variable {receiver : Variable} {action : Action} {arguments front back : List Variable}
variable {cause : Cause} {index : Nat}

theorem kindsAt_eq (action : Action) (index : Nat) :
    (action.acceptedKinds? index).getD [] = action.kindsAt index := by
  rw [Action.acceptedKinds?, Action.kindsAt]
  split
  · exact List.headD_eq_head?_getD.symm
  · exact (List.getD_eq_getElem?_getD ..).symm

/-! Each check of an invocation fails with what is found by it, and for nothing else. -/

theorem checkArity_eq_error : checkArity action arguments.length = .error cause ↔
    Finds receiver action arguments .tooFew cause ∨
      Finds receiver action arguments .tooMany cause := by
  constructor
  · intro failed
    rw [checkArity] at failed
    split at failed
    · cases failed
    · rename_i spread
      have fixed : action.spread = false := Bool.eq_false_iff.mpr spread
      split at failed
      · cases failed
        exact .inl (.tooFew fixed ‹_›)
      · split at failed
        · cases failed
          exact .inr (.tooMany fixed ‹_›)
        · cases failed
  · intro found
    rcases found with few | many
    · cases few with
      | tooFew fixed fewer => simp [checkArity, fixed, fewer]
    · cases many with
      | tooMany fixed more => simp [checkArity, fixed, more, Nat.lt_asymm more]

theorem checkKinds_eq_ok : checkKinds action index front = .ok () ↔
    ∀ place earlier, front[place]? = some earlier →
      earlier.kind ∈ action.kindsAt (index + place) := by
  induction front generalizing index with
  | nil => simp [checkKinds]
  | cons argument others ih =>
      rw [checkKinds, kindsAt_eq]
      by_cases accepted : argument.kind ∈ action.kindsAt index
      · rw [if_pos accepted, ih]
        constructor
        · intro behind place earlier here
          cases place with
          | zero =>
              cases here
              exact accepted
          | succ place =>
              rw [← Nat.succ_add_eq_add_succ]
              exact behind place earlier here
        · intro all place earlier here
          rw [Nat.succ_add_eq_add_succ]
          exact all (place + 1) earlier here
      · rw [if_neg accepted]
        constructor
        · intro passed
          cases passed
        · intro all
          exact absurd (all 0 argument rfl) accepted

theorem checkKinds_append (passed : checkKinds action index front = .ok ()) :
    checkKinds action index (front ++ back) = checkKinds action (index + front.length) back := by
  induction front generalizing index with
  | nil => rfl
  | cons argument others ih =>
      rw [checkKinds] at passed
      split at passed
      · rename_i accepted
        rw [List.cons_append, checkKinds, if_pos accepted, ih passed, List.length_cons,
          Nat.add_right_comm, Nat.add_assoc]
      · cases passed

theorem checkKinds_eq_error : checkKinds action 0 arguments = .error cause ↔
    Finds receiver action arguments .kinds cause := by
  constructor
  · intro failed
    obtain ⟨front, argument, back, split, passed, other, rfl⟩ := checkKinds_refused failed
    have before := checkKinds_eq_ok.mp passed
    simp only [Nat.zero_add, kindsAt_eq] at before other ⊢
    exact .kinds split before other
  · intro found
    cases found with
    | @kinds front back argument split before other =>
        have passed : checkKinds action 0 front = .ok () :=
          checkKinds_eq_ok.mpr (by simpa only [Nat.zero_add] using before)
        rw [split, checkKinds_append passed, checkKinds, Nat.zero_add, kindsAt_eq, if_neg other]

theorem assignedValue_eq_error : receiver.assignedValue = .error cause ↔
    Finds receiver action arguments .receiver cause := by
  rw [assignedValue]
  cases held : receiver.value? with
  | none =>
      constructor
      · intro failed
        cases failed
        exact .receiver held
      · intro found
        cases found
        rfl
  | some value =>
      constructor
      · intro failed
        cases failed
      · intro found
        cases found with
        | receiver missing =>
            rw [held] at missing
            cases missing

theorem assignedValues_append {argument : Variable}
    (before : ∀ earlier ∈ front, earlier.value? ≠ none) (missing : argument.value? = none) :
    assignedValues (front ++ argument :: back) =
      .error (.valueKindMismatch "nothing" argument.kind.name) := by
  induction front with
  | nil =>
      rw [List.nil_append, assignedValues, assignedValue, missing]
      rfl
  | cons cell others ih =>
      rw [List.forall_mem_cons] at before
      obtain ⟨value, valued⟩ := Option.ne_none_iff_exists'.mp before.1
      rw [List.cons_append, assignedValues, assignedValue_eq_ok.mpr valued, ih before.2]
      rfl

theorem assignedValues_eq_error : assignedValues arguments = .error cause ↔
    Finds receiver action arguments .operands cause := by
  constructor
  · intro failed
    obtain ⟨front, cell, back, split, before, missing, rfl⟩ := assignedValues_refused failed
    exact .operands split before missing
  · intro found
    cases found with
    | operands split before missing =>
        rw [split]
        exact assignedValues_append before missing

/-! What passes the checks can run. -/

theorem checkArity_of_passes (few : ∀ cause, ¬Finds receiver action arguments .tooFew cause)
    (many : ∀ cause, ¬Finds receiver action arguments .tooMany cause) :
    checkArity action arguments.length = .ok () := by
  cases checked : checkArity action arguments.length with
  | ok done => rfl
  | error cause =>
      rcases checkArity_eq_error.mp checked with found | found
      · exact absurd found (few cause)
      · exact absurd found (many cause)

theorem checkKinds_of_passes (passes : ∀ cause, ¬Finds receiver action arguments .kinds cause) :
    checkKinds action 0 arguments = .ok () := by
  cases checked : checkKinds action 0 arguments with
  | ok done => rfl
  | error cause => exact absurd (checkKinds_eq_error.mp checked) (passes cause)

theorem valued_of_passes (passes : ∀ cause, ¬Finds receiver action arguments .receiver cause) :
    ∃ value, receiver.value? = some value := by
  cases held : receiver.value? with
  | some value => exact ⟨value, rfl⟩
  | none => exact absurd (.receiver held) (passes _)

theorem assignedValues_of_passes
    (passes : ∀ cause, ¬Finds receiver action arguments .operands cause) :
    ∃ values, assignedValues arguments = .ok values := by
  cases held : assignedValues arguments with
  | ok values => exact ⟨values, rfl⟩
  | error cause => exact absurd (assignedValues_eq_error.mp held) (passes cause)

theorem invoke_of_finds {check : Check} (found : Finds receiver action arguments check cause)
    (first : ∀ earlier other, earlier.place < check.place →
      ¬Finds receiver action arguments earlier other) :
    receiver.invoke action arguments = Outcome.refuse cause := by
  have passes : ∀ earlier : Check, earlier.place < check.place →
      ∀ other, ¬Finds receiver action arguments earlier other :=
    fun earlier before other => first earlier other before
  -- Each case lets the checks in front pass, in the order in which they run.
  cases check with
  | tooFew =>
      rw [invoke, checkArity_eq_error.mpr (.inl found)]
      rfl
  | tooMany =>
      rw [invoke, checkArity_eq_error.mpr (.inr found)]
      rfl
  | kinds =>
      have fits := checkArity_of_passes (passes .tooFew (by decide)) (passes .tooMany (by decide))
      exact invoke_of_kinds_refused fits (checkKinds_eq_error.mpr found)
  | receiver =>
      have fits := checkArity_of_passes (passes .tooFew (by decide)) (passes .tooMany (by decide))
      have kinds := checkKinds_of_passes (passes .kinds (by decide))
      refine invoke_of_values_refused fits kinds ?_
      rw [assignedValues, assignedValue_eq_error.mpr found]
      rfl
  | operands =>
      have fits := checkArity_of_passes (passes .tooFew (by decide)) (passes .tooMany (by decide))
      have kinds := checkKinds_of_passes (passes .kinds (by decide))
      obtain ⟨value, valued⟩ := valued_of_passes (passes .receiver (by decide))
      refine invoke_of_values_refused fits kinds ?_
      rw [assignedValues, assignedValue_eq_ok.mpr valued, assignedValues_eq_error.mpr found]
      rfl

theorem invoke_of_nothing {value : Value} (fits : checkArity action 0 = .ok ())
    (valued : receiver.value? = some value) (reads : action.name = .get) :
    receiver.invoke action [] = Outcome.crash := by
  rw [invoke, List.length_nil, fits, assignedValue_eq_ok.mpr valued, reads]
  rfl

theorem invoke_of_answers {answer : Outcome Cause Value}
    (answers : Answers receiver action arguments answer) :
    receiver.invoke action arguments = answer := by
  cases answers with
  | refused found first => exact invoke_of_finds found first
  | @member operand operands passes reads held =>
      have fits := checkArity_of_passes (passes .tooFew) (passes .tooMany)
      have kinds := checkKinds_of_passes (passes .kinds)
      obtain ⟨value, valued⟩ := valued_of_passes (passes .receiver)
      have all : (receiver :: arguments).map value? =
          (value :: operand :: operands).map some := by
        rw [List.map_cons, valued, held]
        rfl
      exact invoke_of_member fits kinds (assignedValues_eq_ok.mpr all) reads
  | nothing passes reads empty =>
      subst empty
      have fits := checkArity_of_passes (passes .tooFew) (passes .tooMany)
      obtain ⟨value, valued⟩ := valued_of_passes (passes .receiver)
      exact invoke_of_nothing fits valued reads
  | fold passes arithmetic valued held =>
      have fits := checkArity_of_passes (passes .tooFew) (passes .tooMany)
      have kinds := checkKinds_of_passes (passes .kinds)
      refine invoke_of_operands fits kinds (assignedValues_eq_ok.mpr ?_) arithmetic
      rw [List.map_cons, List.map_cons, valued, held]

theorem exists_first_finding {check : Check}
    (found : Finds receiver action arguments check cause) :
    ∃ first cause, Finds receiver action arguments first cause ∧
      ∀ earlier other, earlier.place < first.place →
        ¬Finds receiver action arguments earlier other := by
  obtain ⟨first, ⟨cause, earliest⟩, least⟩ := (measure Check.place).wf.has_min
    {check | ∃ cause, Finds receiver action arguments check cause} ⟨check, cause, found⟩
  exact ⟨first, cause, earliest, fun earlier other before finds =>
    least earlier ⟨other, finds⟩ before⟩

theorem exists_answer (receiver : Variable) (action : Action) (arguments : List Variable) :
    ∃ answer, Answers receiver action arguments answer := by
  by_cases finds : ∃ check cause, Finds receiver action arguments check cause
  · obtain ⟨check, cause, found⟩ := finds
    obtain ⟨earliest, finding, found, first⟩ := exists_first_finding found
    exact ⟨_, .refused found first⟩
  · have passes : ∀ check cause, ¬Finds receiver action arguments check cause :=
      fun check cause found => finds ⟨check, cause, found⟩
    obtain ⟨value, valued⟩ := valued_of_passes (passes .receiver)
    obtain ⟨operands, held⟩ := assignedValues_of_passes (passes .operands)
    have all := assignedValues_eq_ok.mp held
    by_cases reads : action.name = .get
    · cases operands with
      | nil => exact ⟨_, .nothing passes reads (List.map_eq_nil_iff.mp all)⟩
      | cons operand operands => exact ⟨_, .member passes reads all⟩
    · exact ⟨_, .fold passes reads valued all⟩

/-- An invocation answers what its first failing check finds, else what the action does. It crashes
in one corner only: where a member is read, the receiver has a value, and the action lets no name
be given. -/
theorem invoke_eq_iff_answers (receiver : Variable) (action : Action) (arguments : List Variable) :
    (receiver.invoke action arguments = Outcome.crash ↔
      action.name = .get ∧ arguments = [] ∧ receiver.value? ≠ none ∧
        (action.spread = true ∨ action.arguments = [])) ∧
    ∀ answer, receiver.invoke action arguments = answer ↔
      Answers receiver action arguments answer := by
  obtain ⟨given, answers⟩ := exists_answer receiver action arguments
  have invoked := invoke_of_answers answers
  constructor
  · constructor
    · intro crashed
      have same : given = Outcome.crash := invoked.symm.trans crashed
      cases answers with
      | @refused _ cause found first =>
          exact absurd same (Outcome.ofExcept_ne_crash (.error cause))
      | member => exact absurd same (Outcome.ofExcept_ne_crash _)
      | fold => exact absurd same (Outcome.ofExcept_ne_crash _)
      | nothing passes reads empty =>
          obtain ⟨value, valued⟩ := valued_of_passes (passes .receiver)
          refine ⟨reads, empty, valued ▸ Option.some_ne_none value, ?_⟩
          by_contra other
          rw [not_or, Bool.not_eq_true] at other
          exact passes _ _ (.tooFew other.1 (empty ▸ List.length_pos_iff.mpr other.2))
    · rintro ⟨reads, rfl, present, corner⟩
      obtain ⟨value, valued⟩ := Option.ne_none_iff_exists'.mp present
      have fits : checkArity action 0 = .ok () := by
        rcases corner with spread | none
        · simp [checkArity, spread]
        · simp [checkArity, none]
      exact invoke_of_nothing fits valued reads
  · intro answer
    constructor
    · intro asked
      rw [← asked, invoked]
      exact answers
    · exact invoke_of_answers

-- An action that spreads asks for no argument at all.
example : (mk none .object (some (.object [])) []).invoke ⟨.get, none, true, [[.string]]⟩ [] =
    Outcome.crash := rfl

end Variable
end LetLang
