import LetLang.Parser.Handlers
import LetLang.Program.OfTokens

/-! A parser driven step by step: its tokens, how far it has come, and its handlers. -/
namespace LetLang

structure Parser where
  tokens : List Token
  rest : List Token
  handlers : Handlers
  scope : Scope

namespace Parser

inductive Step where
  | current (expected : String)
  | kind
  | peek (ahead : Nat)
  | advance (expected : String)
  | expect (kind : TokenKind) (error? : Option Error)
  | hasTokens
  | position
  | unique (name : String) (position : Position)
  | register (kind : TokenKind) (handler : Handler)
  | dispatch
  | run (handler : Handler)
  | program

inductive Answer where
  | token (token? : Option Token)
  | kind (kind? : Option TokenKind)
  | bool (value : Bool)
  | position (position : Position)
  | count (number : Nat)
  | node (node? : Option Node)
  | program (program : Program)

def new (tokens : List Token) (source file : String) : Parser :=
  ⟨tokens, tokens, [], ⟨.empty, Program.finishOf source file⟩⟩

def cursor (parser : Parser) : Nat := parser.tokens.length - parser.rest.length

def run {α : Type} (parser : Parser) (step : Parse α) : Outcome Error α × Parser :=
  match step parser.rest with
  | .ok value rest => (.ok value, { parser with rest })
  | .error failure rest => (.error failure, { parser with rest })

def dispatch (handlers : Handlers) (scope : Scope) : Parse (Option Node) := do
  match (← Parse.kind?).bind (Handlers.find? handlers) with
  | some handler => return some (← handler.parse scope)
  | none => return none

def parse (handlers : Handlers) (scope : Scope) : Step → Parse Answer
  | .current expected => return .token (← Parse.current scope expected)
  | .kind => return .kind (← Parse.kind?)
  | .peek ahead => return .token (← Parse.peek? ahead)
  | .advance expected => return .token (← Parse.advance scope expected)
  | .expect kind error? => return .token (← Parse.expectOr scope kind error?)
  | .hasTokens => return .bool (← Parse.hasTokens)
  | .position => return .position (← Parse.position scope)
  | .unique name position => do
    Parse.checkUnique scope name position
    return .bool true
  | .register kind handler => return .count (Handlers.register handlers kind handler).length
  | .dispatch => return .node (← dispatch handlers scope)
  | .run handler => return .node (← handler.parse scope)
  | .program => return .program scope.program

def step (parser : Parser) (step : Step) : Outcome Error Answer × Parser :=
  let (answer, parser) := parser.run (parse parser.handlers parser.scope step)
  match step with
  | .register kind handler =>
    (answer, { parser with handlers := Handlers.register parser.handlers kind handler })
  | _ => (answer, parser)

end Parser
end LetLang
