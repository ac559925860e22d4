import LetLang.Parser.Declaration
import LetLang.Parser.Call

/-! What reads a node, by the kind of the node's first token. -/
namespace LetLang

inductive Handler where
  | declaration
  | call
  deriving DecidableEq

def Handler.parse : Handler → Scope → Parse Node
  | declaration => Declaration.parse
  | call => Call.parse

abbrev Handlers := List (TokenKind × Handler)

namespace Handlers

def register (handlers : Handlers) (kind : TokenKind) (handler : Handler) : Handlers :=
  (kind, handler) :: handlers.filter (·.1 ≠ kind)

def find? (handlers : Handlers) (kind : TokenKind) : Option Handler := handlers.lookup kind

def standard : Handlers := [(.letKeyword, .declaration), (.identifier, .call)]

end Handlers

end LetLang
