import LetLang.Program.OfTokens
import LetLang.Proofs.Loop

/-!
The loops of the parser: over the value tokens of a declaration, over the arguments of a call, over
the nodes of a program. Each turn leaves fewer tokens, so each loop ends, and with what the reader
of the same name gives.
-/
namespace LetLang

def Parse.outcome {α : Type} :
    EStateM.Result (Failure Error) (List Token) α → Outcome Error (α × List Token)
  | .ok value rest => .ok (value, rest)
  | .error failure _ => .error failure

namespace Parse

def collected {α : Type} (taken : List α)
    (found : EStateM.Result (Failure Error) (List Token) (List α)) :
    Outcome Error (List α × List Token) :=
  (outcome found).map fun (items, rest) => (taken.reverse ++ items, rest)

theorem collected_behind_none {α : Type}
    (found : EStateM.Result (Failure Error) (List Token) (List α)) :
    collected [] found = outcome found := by
  cases found <;> rfl

theorem collected_nil {α : Type} (taken : List α) (rest : List Token) :
    collected taken (.ok [] rest) = .ok (taken.reverse, rest) := by
  simp [collected, outcome, Except.map]

theorem collected_cons {α : Type} (taken : List α) (first : α) (items : List α)
    (rest : List Token) :
    collected (first :: taken) (.ok items rest) = collected taken (.ok (first :: items) rest) := by
  simp [collected, outcome, Except.map]

end Parse

namespace Declaration

def windowTurn (scope : Scope) : List Token × List Token →
    Outcome Error (Turn (List Token × List Token) (List Token × List Token))
  | ([], _) => Outcome.refuse ⟨.unexpectedEnd TokenKind.semicolon.name, scope.finish⟩
  | (token :: tokens, taken) =>
    if token.kind = .semicolon then .ok (.done (taken.reverse, token :: tokens))
    else if isCalculable token then .ok (.more (tokens, token :: taken))
    else Outcome.refuse ⟨.incalculableToken token.value, token.start⟩

theorem ends_takeWindow (scope : Scope) (tokens taken : List Token) :
    Loop.Ends (windowTurn scope) (tokens, taken)
      (Parse.collected taken (takeWindow scope tokens)) := by
  induction tokens generalizing taken with
  | nil => exact .last rfl
  | cons token tokens ih =>
      rw [takeWindow]
      by_cases ends : token.kind = .semicolon
      · rw [if_pos ends, Parse.collected_nil]
        exact .last (if_pos ends)
      rw [if_neg ends]
      by_cases inside : isCalculable token = true
      · have turned : windowTurn scope (token :: tokens, taken) = _ :=
          (if_neg ends).trans (if_pos inside)
        rw [if_pos inside]
        refine .more turned ?_
        have others := ih (token :: taken)
        cases found : takeWindow scope tokens with
        | ok window rest => rwa [found, Parse.collected_cons] at others
        | error failure rest => rwa [found] at others
      · rw [if_neg inside]
        exact .last ((if_neg ends).trans (if_neg inside))

end Declaration

namespace Call

def withoutComma : List Token → List Token
  | [] => []
  | token :: tokens => if token.kind = .comma then tokens else token :: tokens

def argumentTurn (scope : Scope) : List Token × List Argument →
    Outcome Error (Turn (List Token × List Argument) (List Argument × List Token))
  | ([], _) => Outcome.refuse ⟨.unexpectedEnd TokenKind.closeParen.name, scope.finish⟩
  | (token :: tokens, taken) =>
    if token.kind = .closeParen then .ok (.done (taken.reverse, tokens))
    else if isArgument token then
      match takeArgument scope token with
      | .ok first => .ok (.more (withoutComma tokens, first :: taken))
      | .error error => Outcome.refuse error
    else
      let detail := "expected an argument or `)`"
      Outcome.refuse ⟨.misplacedToken token.value detail, token.start⟩

theorem takeArguments_behind (scope : Scope) (tokens : List Token) :
    takeArguments scope true tokens = takeArguments scope false (withoutComma tokens) := by
  cases tokens with
  | nil => rfl
  | cons token tokens =>
      rw [withoutComma]
      by_cases comma : token.kind = .comma
      · simp [takeArguments, comma]
      · simp [takeArguments, comma]

theorem length_withoutComma (tokens : List Token) :
    (withoutComma tokens).length ≤ tokens.length := by
  cases tokens with
  | nil => exact Nat.le_refl 0
  | cons token tokens =>
      rw [withoutComma]
      split
      · exact Nat.le_succ _
      · exact Nat.le_refl _

theorem ends_takeArguments (scope : Scope) (tokens : List Token) (taken : List Argument) :
    Loop.Ends (argumentTurn scope) (tokens, taken)
      (Parse.collected taken (takeArguments scope false tokens)) := by
  -- The comma behind an argument goes in the same turn, so a turn can take two tokens.
  induction size : tokens.length using Nat.strongRecOn generalizing tokens taken with
  | _ n ih =>
      subst size
      cases tokens with
      | nil => exact .last rfl
      | cons token tokens =>
          rw [takeArguments, Bool.false_and, if_neg Bool.false_ne_true, takeArguments_behind]
          by_cases ends : token.kind = .closeParen
          · rw [if_pos ends, Parse.collected_nil]
            exact .last (if_pos ends)
          rw [if_neg ends]
          by_cases passes : isArgument token = true
          · have turned : argumentTurn scope (token :: tokens, taken) = _ :=
              (if_neg ends).trans (if_pos passes)
            rw [if_pos passes]
            cases read : takeArgument scope token with
            | error error =>
                rw [read] at turned
                exact .last turned
            | ok first =>
                rw [read] at turned
                have fewer := Nat.lt_succ_of_le (length_withoutComma tokens)
                have others := ih _ fewer (withoutComma tokens) (first :: taken) rfl
                refine .more turned ?_
                dsimp only
                cases found : takeArguments scope false (withoutComma tokens) with
                | ok behind rest => rwa [found, Parse.collected_cons] at others
                | error failure rest => rwa [found] at others
          · rw [if_neg passes]
            exact .last ((if_neg ends).trans (if_neg passes))

end Call

namespace Program

def nodeTurn (finish : Position) : Program × List Token →
    Outcome Error (Turn (Program × List Token) Program)
  | (program, []) => .ok (.done program)
  | (program, token :: tokens) =>
    match Handlers.find? .standard token.kind with
    | none => Outcome.refuse ⟨.unexpectedToken token.value, token.start⟩
    | some handler =>
      (Parse.outcome (handler.parse ⟨program, finish⟩ (token :: tokens))).map fun found =>
        .more (program.push found.1, found.2)

theorem ends_ofTokensFrom (finish : Position) (program : Program) (tokens : List Token) :
    Loop.Ends (nodeTurn finish) (program, tokens) (ofTokensFrom finish program tokens) := by
  fun_induction ofTokensFrom finish program tokens with
  | case1 program => exact .last rfl
  | case2 program token tokens unknown =>
      refine .last ?_
      rw [nodeTurn, unknown]
      rfl
  | case3 program token tokens handler known node rest read ih =>
      refine .more ?_ ih
      rw [nodeTurn, known]
      dsimp only
      rw [read]
      rfl
  | case4 program token tokens handler known failure rest read =>
      refine .last ?_
      rw [nodeTurn, known]
      dsimp only
      rw [read]
      rfl

end Program
end LetLang
