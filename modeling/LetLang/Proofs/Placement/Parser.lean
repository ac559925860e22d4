import LetLang.Parser.Handlers
import LetLang.Proofs.Placement.Reduction
import LetLang.Proofs.Placement.Steps
import LetLang.Proofs.Reduction.Exact

/-! Declarations and calls are read alike wherever their tokens stand. -/
namespace LetLang

open Parse (Stops Ends Twin twin_lift twin_pure twin_refuse twin_current twin_peek twin_expect
  twin_expectOr twin_fromPosition twin_checkUnique twin_skip)

variable {places : Position → Position → Prop} {finish other here there : Position}
variable {program : Program} {window others : List Token}

namespace Declaration

theorem twin_takeWindow :
    Twin places finish other (List.Forall₂ (Token.Alike places))
      (takeWindow ⟨program, finish⟩) (takeWindow ⟨program, other⟩) := by
  intro tokens others alike
  induction alike with
  | nil => exact .error .finished
  | @cons token another rest behind first _ ih =>
      have calculable : isCalculable token = isCalculable another := by
        unfold isCalculable
        rw [first.kind]
      unfold takeWindow
      rw [first.kind, calculable]
      split
      · exact .ok .nil (.cons first ‹_›)
      · split
        · generalize takeWindow ⟨program, finish⟩ rest = reached at ih ⊢
          generalize takeWindow ⟨program, other⟩ behind = arrived at ih ⊢
          cases ih with
          | ok same behind => exact .ok (.cons first same) behind
          | error stops => exact .error stops
        · refine .error (.placed ⟨⟨?_, by rintro ⟨_, ⟨⟩⟩⟩, first.start⟩)
          rw [first.value]

theorem twin_takeName :
    Twin places finish other (Token.Alike places) (takeName ⟨program, finish⟩)
      (takeName ⟨program, other⟩) := by
  refine (twin_peek 0).bind fun next? another? same => twin_expectOr _ ?_
  cases same with
  | none => exact .none
  | some equal =>
      have cause := congrArg (Cause.misplacedToken · nameDetail) equal.value
      exact .some ⟨⟨cause, nofun⟩, equal.start⟩

structure Split (places : Position → Position → Prop) (first second : List Token × Option Kind) :
    Prop where
  core : List.Forall₂ (Token.Alike places) first.1 second.1
  kind : first.2 = second.2

theorem splitKind_alike (name : String)
    (alike : List.Forall₂ (Token.Alike places) window others) :
    LetLang.Alike (Error.Joined places) (Split places) (splitKind name window)
      (splitKind name others) := by
  have back := List.rel_reverse alike
  have unsplit : LetLang.Alike (Error.Joined places) (Split places)
      (.ok (window, none)) (.ok (others, none)) := .ok ⟨alike, rfl⟩
  unfold splitKind
  generalize window.reverse = written at back ⊢
  generalize others.reverse = another at back ⊢
  cases back with
  | nil => exact unsplit
  | cons last rest =>
      cases rest with
      | nil => exact unsplit
      | cons before core =>
          dsimp only
          rw [before.kind, last.kind, last.value]
          split
          · split
            · split
              · exact .ok ⟨List.rel_reverse core, rfl⟩
              · exact .error ⟨⟨rfl, nofun⟩, last.start⟩
            · exact .error ⟨⟨rfl, nofun⟩, last.start⟩
          · exact unsplit

theorem checkDescriptors_alike (alike : List.Forall₂ (Token.Alike places) window others) :
    LetLang.Alike (Error.Joined places) Eq (checkDescriptors window)
      (checkDescriptors others) := by
  unfold checkDescriptors
  induction alike with
  | nil => exact .ok rfl
  | @cons token another _ _ first _ ih =>
      rw [List.find?_cons, List.find?_cons, first.kind]
      by_cases descriptor : another.kind = .asKeyword
      · rw [decide_eq_true descriptor]
        exact .error ⟨⟨rfl, nofun⟩, first.start⟩
      · rw [decide_eq_false descriptor]
        exact ih

theorem evaluate_alike (name : String) (joined : places here there)
    (alike : List.Forall₂ (Token.Alike places) window others) :
    LetLang.Alike (Failure.Joined (Error.Joined places)) Eq
      (evaluate ⟨program, finish⟩ name here window)
      (evaluate ⟨program, other⟩ name there others) := by
  refine (Outcome.ofExcept_alike (splitKind_alike name alike)).bind fun parted another same => ?_
  rcases parted with ⟨core, kind?⟩
  rcases another with ⟨left, _⟩
  obtain ⟨alike, rfl⟩ := same
  refine (Outcome.ofExcept_alike (checkDescriptors_alike alike)).bind fun _ _ _ => ?_
  refine (Reduction.reduce_alike program joined alike).bind fun reduced equal both => ?_
  subst both
  cases reduced.value? with
  | none => exact .error (.refused ⟨⟨rfl, nofun⟩, joined⟩)
  | some value => exact .ok rfl

theorem evaluate_ne_crash (scope : Scope) (name : String) (start : Position)
    (window : List Token) : evaluate scope name start window ≠ Outcome.crash := by
  refine Outcome.bind_ne_crash (Outcome.ofExcept_ne_crash _) fun parted _ => ?_
  refine Outcome.bind_ne_crash (Outcome.ofExcept_ne_crash _) fun _ _ => ?_
  refine Outcome.bind_ne_crash (Reduction.reduce_ne_crash _ _ _) fun reduced _ => ?_
  cases reduced.value? with
  | none => exact nofun
  | some value => exact nofun

theorem twin_parse :
    Twin places finish other Eq (parse ⟨program, finish⟩) (parse ⟨program, other⟩) := by
  refine (twin_expect _).bind fun _ _ _ => ?_
  refine twin_takeName.bind fun name another same => ?_
  refine (twin_expect _).bind fun _ _ _ => ?_
  refine twin_fromPosition (.error .finished) fun here there start => ?_
  refine twin_takeWindow.bind fun window others alike => ?_
  rw [same.value]
  have evaluated := @evaluate_alike places finish other _ _ program _ _ another.value start alike
  refine (twin_lift evaluated (evaluate_ne_crash _ _ _ _)).bind fun given equal both => ?_
  subst both
  refine (twin_checkUnique _ same.start).bind fun _ _ _ => ?_
  refine (twin_expect _).bind fun _ _ _ => ?_
  have built := Outcome.positioned_alike
    (Outcome.ofExcept_alike (Variable.inside_build given.2 another.value given.1)) start
  refine (twin_lift built ?_).bind fun declared equal both => twin_pure (congrArg _ both)
  exact Outcome.positioned_ne_crash (Outcome.ofExcept_ne_crash _) _

end Declaration

namespace Call

theorem takeArgument_alike {first second : Token} (alike : first.Alike places second) :
    LetLang.Alike (Error.Joined places) Eq (takeArgument ⟨program, finish⟩ first)
      (takeArgument ⟨program, other⟩ second) := by
  unfold takeArgument
  rw [alike.kind, alike.value]
  split
  · have made := Reference.inside_new second.value program
    generalize Reference.new second.value program = reached at made ⊢
    cases reached with
    | ok target => exact .ok rfl
    | error cause =>
        cases made with
        | error shared => exact .error ⟨shared, alike.start⟩
  · exact (Token.literal_alike alike).map fun literal other same => congrArg _ same

theorem twin_takeArguments (behind : Bool) :
    Twin places finish other Eq (takeArguments ⟨program, finish⟩ behind)
      (takeArguments ⟨program, other⟩ behind) := by
  intro tokens others alike
  induction alike generalizing behind with
  | nil => exact .error .finished
  | @cons token another rest left first after ih =>
      have argument : isArgument token = isArgument another := by
        unfold isArgument
        rw [first.kind]
      unfold takeArguments
      rw [first.kind, argument]
      split
      · exact ih _
      · split
        · exact .ok rfl after
        · split
          · have taken := @takeArgument_alike places finish other program _ _ first
            generalize takeArgument ⟨program, finish⟩ token = reached at taken ⊢
            generalize takeArgument ⟨program, other⟩ another = arrived at taken ⊢
            cases taken with
            | error joined => exact .error (.placed joined)
            | ok same =>
                have ends := ih true
                dsimp only
                generalize takeArguments ⟨program, finish⟩ true rest = reached at ends ⊢
                generalize takeArguments ⟨program, other⟩ true left = arrived at ends ⊢
                cases ends with
                | ok equal behind => exact .ok (by rw [same, equal]) behind
                | error stops => exact .error stops
          · refine .error (.placed ⟨⟨?_, by rintro ⟨_, ⟨⟩⟩⟩, first.start⟩)
            rw [first.value]

theorem twin_parse :
    Twin places finish other Eq (parse ⟨program, finish⟩) (parse ⟨program, other⟩) := by
  refine (twin_peek 1).bind fun second? another? second => ?_
  have kinds : second?.map Token.kind = another?.map Token.kind := by
    cases second with
    | none => rfl
    | some same => exact congrArg some same.kind
  rw [kinds]
  split
  · refine (twin_current _).bind fun token another same => ?_
    rw [same.value]
    exact twin_refuse nofun same.start
  · refine (twin_expect _).bind fun name another same => ?_
    refine (twin_expect _).bind fun _ _ _ => ?_
    refine Twin.bind (twin_takeArguments false) fun arguments equal both => ?_
    subst both
    rw [same.value]
    refine (twin_checkUnique _ same.start).bind fun _ _ _ => ?_
    refine (twin_skip _).bind fun _ _ _ => ?_
    have named := Outcome.positioned_alike
      (Outcome.ofExcept_alike (inside_setName (new arguments) another.value)) same.start
    refine (twin_lift named ?_).bind fun made equal both => twin_pure (congrArg _ both)
    exact Outcome.positioned_ne_crash (Outcome.ofExcept_ne_crash _) _

end Call

theorem Handler.twin_parse (handler : Handler) :
    Twin places finish other Eq (handler.parse ⟨program, finish⟩)
      (handler.parse ⟨program, other⟩) := by
  cases handler with
  | declaration => exact Declaration.twin_parse
  | call => exact Call.twin_parse

end LetLang
