import LetLang.Parser.Handlers
import LetLang.Proofs.Online.Steps

/-! Declarations and calls are judged alike with more tokens behind them. -/
namespace LetLang

open Parse (Continued Online Firm online_pure online_lift online_expect online_expectOr
  online_fromPosition online_checkUnique firm_of_ok)

variable {more tokens left : List Token} {program : Program} {finish other : Position}
variable {failure : Failure Error}

namespace Declaration

theorem online_takeName :
    Online more (takeName ⟨program, finish⟩) (takeName ⟨program, other⟩) := by
  intro tokens
  cases tokens with
  | nil => exact .ended ⟨_, rfl⟩
  | cons token tokens =>
      exact online_expectOr .identifier (some ⟨.misplacedToken token.value nameDetail, token.start⟩)
        (token :: tokens)

theorem online_takeWindow :
    Online more (takeWindow ⟨program, finish⟩) (takeWindow ⟨program, other⟩) := by
  intro tokens
  induction tokens with
  | nil => exact .ended ⟨_, rfl⟩
  | cons token tokens ih =>
      rw [List.cons_append, takeWindow, takeWindow]
      split
      · exact .ok
      · split
        · generalize takeWindow ⟨program, finish⟩ tokens = reached at ih ⊢
          generalize takeWindow ⟨program, other⟩ (tokens ++ more) = arrived at ih ⊢
          cases ih with
          | ok => exact .ok
          | error => exact .error
          | ended missed => exact .ended missed
        · exact .error

theorem online_parse :
    Online more (parse ⟨program, finish⟩) (parse ⟨program, other⟩) := by
  refine (online_expect _).bind fun _ => ?_
  refine online_takeName.bind fun name => ?_
  refine (online_expect _).bind fun _ => ?_
  refine online_fromPosition ⟨_, _, rfl, ⟨_, rfl⟩⟩ fun start => ?_
  refine Online.bind online_takeWindow fun window => ?_
  refine (online_lift (evaluate ⟨program, finish⟩ name.value start window)).bind fun given => ?_
  refine (online_checkUnique _ _).bind fun _ => ?_
  refine (online_expect _).bind fun _ => ?_
  exact (online_lift _).bind fun declared => online_pure _

end Declaration

namespace Call

theorem online_takeArguments (behind : Bool) :
    Online more (takeArguments ⟨program, finish⟩ behind)
      (takeArguments ⟨program, other⟩ behind) := by
  intro tokens
  induction tokens generalizing behind with
  | nil => exact .ended ⟨_, rfl⟩
  | cons token tokens ih =>
      rw [List.cons_append, takeArguments, takeArguments]
      split
      · exact ih false
      · split
        · exact .ok
        · split
          · have same : takeArgument ⟨program, finish⟩ token =
                takeArgument ⟨program, other⟩ token := rfl
            rw [same]
            cases takeArgument ⟨program, other⟩ token with
            | error error => exact .error
            | ok first =>
                have ends := ih true
                dsimp only
                generalize takeArguments ⟨program, finish⟩ true tokens = reached at ends ⊢
                generalize takeArguments ⟨program, other⟩ true (tokens ++ more) = arrived
                  at ends ⊢
                cases ends with
                | ok => exact .ok
                | error => exact .error
                | ended missed => exact .ended missed
          · exact .error

/-- Only a name at the end of the tokens is judged anew: a parenthesis may open behind it. -/
theorem firm_parse (failed : parse ⟨program, finish⟩ tokens = .error failure left) :
    (∃ error, failure = .refused error ∧ error.cause.IsEnd) ∨
      (∃ behind, parse ⟨program, other⟩ (tokens ++ more) = .error failure behind) ∨
      ∃ token, tokens = [token] ∧ failure = .refused ⟨.unexpectedToken token.value, token.start⟩ ∧
        more.head?.map Token.kind = some .openParen := by
  rcases tokens with _ | ⟨token, _ | ⟨second, rest⟩⟩
  · cases failed
    exact .inl ⟨_, rfl, _, rfl⟩
  · cases failed
    by_cases opens : more.head?.map Token.kind = some .openParen
    · exact .inr (.inr ⟨token, rfl, rfl, opens⟩)
    · refine .inr (.inl ⟨token :: more, ?_⟩)
      have peeked : Parse.peek? 1 (token :: more) = .ok more.head? (token :: more) := by
        cases more with
        | nil => rfl
        | cons next others => rfl
      rw [List.singleton_append, parse, Parse.bind_eq, peeked]
      dsimp only
      rw [if_pos opens]
      rfl
  · have peeked : ∀ behind, Parse.peek? 1 (token :: second :: behind) =
        .ok (some second) (token :: second :: behind) := fun _ => rfl
    rw [parse, Parse.bind_eq, peeked] at failed
    rw [List.cons_append, List.cons_append, parse, Parse.bind_eq, peeked]
    dsimp only at failed ⊢
    split at failed
    · rename_i closed
      cases failed
      rw [if_pos closed]
      exact .inr (.inl ⟨_, rfl⟩)
    · rename_i opened
      rw [if_neg opened]
      refine (Firm.bind (online_expect _) fun name => ?_) failed |>.imp_right .inl
      refine Firm.bind (online_expect _) fun _ => ?_
      refine Firm.bind (online_takeArguments false) fun arguments => ?_
      refine Firm.bind (online_checkUnique _ _) fun _ => ?_
      -- The semicolon may be one of the tokens behind, but nothing fails any more.
      exact firm_of_ok fun tokens => ⟨_, _, rfl⟩

end Call
end LetLang
