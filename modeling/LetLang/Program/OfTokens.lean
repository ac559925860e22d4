import LetLang.Parser.Progress
import LetLang.Token.Lexer

/-! Programs from tokens and from source text: node after node, up to the first error. -/
namespace LetLang.Program

def ofTokensFrom (finish : Position) (program : Program) : List Token → Outcome Error Program
  | [] => .ok program
  | token :: tokens =>
    match Handlers.find? .standard token.kind with
    | none => Outcome.refuse ⟨.unexpectedToken token.value, token.start⟩
    | some handler =>
      match _ : handler.parse ⟨program, finish⟩ (token :: tokens) with
      | .ok node rest => ofTokensFrom finish (program.push node) rest
      | .error failure _ => .error failure
termination_by tokens => tokens.length
decreasing_by exact Parse.takes_handler _ _ ‹_›

/-- Where a source ends, of which only the length in bytes matters. -/
def finishOf (source file : String) : Position := ⟨.ofNat source.utf8ByteSize, file⟩

def ofTokens (tokens : List Token) (source file : String) : Outcome Error Program :=
  ofTokensFrom (finishOf source file) .empty tokens

def ofSource (source : String) (file? : Option String) : Outcome Error Program := do
  let tokens ← Outcome.ofExcept (Token.tokenize source file?)
  ofTokens tokens source (file?.getD Token.unnamedFile)

end LetLang.Program
