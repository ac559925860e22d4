import LetLang.Program.Reduction
import LetLang.Proofs.Value.NormalForm

/-!
The grammar of programs. Tokens split into segments, one for each node, and every segment is judged
against the nodes before it.
-/
namespace LetLang.Grammar

inductive Optional (kind : TokenKind) : List Token → Prop
  | absent : Optional kind []
  | present {token : Token} (same : token.kind = kind) : Optional kind [token]

inductive Descriptor : List Token → Option Kind → Prop
  | absent : Descriptor [] none
  | named {keyword written : Token} {kind : Kind} (first : keyword.kind = .asKeyword)
      (second : written.kind = .identifier) (spelled : written.value = kind.name) :
      Descriptor [keyword, written] (some kind)

/-- A token as an argument: the name of a variable that is declared already, or a literal. -/
inductive Passes (program : Program) : Token → Argument → Prop
  | reference {token : Token} {declared : Variable} (named : token.kind = .identifier)
      (found : program.find? token.value = some declared) :
      Passes program token (.reference ⟨token.value⟩)
  | literal {token : Token} {read : Variable} (stands : token.literal = .ok read) :
      Passes program token (.literal read)

inductive Arguments (program : Program) : List Token → List Argument → Prop
  | nil : Arguments program [] []
  | cons {token : Token} {comma tokens : List Token} {argument : Argument}
      {arguments : List Argument} (first : Passes program token argument)
      (separated : Optional .comma comma) (others : Arguments program tokens arguments) :
      Arguments program (token :: (comma ++ tokens)) (argument :: arguments)

def IsValueToken (token : Token) : Prop :=
  token.kind = .string ∨ token.kind = .number ∨ token.kind = .identifier

/-- The tokens of a declaration. Its value is what the core reduces to, and its kind the one that is
written, or else the one that the value has by itself. Where the reduction starts only places its
errors. -/
inductive Declares (program : Program) : List Token → Node → Prop
  | intro {keyword name sign mark : Token} {core descriptor : List Token} {kind? : Option Kind}
      {kind : Kind} {start : Position} {reduced : Variable} {value : Value}
      (first : keyword.kind = .letKeyword) (named : name.kind = .identifier)
      (assigned : sign.kind = .assignment) (values : ∀ token ∈ core, IsValueToken token)
      (described : Descriptor descriptor kind?) (ends : mark.kind = .semicolon)
      (reduces : Reduction.reduce program start core = .ok reduced)
      (valued : reduced.value? = some value) (fresh : program.containsName name.value = false)
      (chosen : kind = kind?.getD (.ofValue value)) (fits : kind.accepts value = true) :
      Declares program (keyword :: name :: sign :: (core ++ descriptor ++ [mark]))
        (.declaration (.holding kind (some name.value) value))

/-- The tokens of a call in front of `rest`. It takes a semicolon whenever one follows. -/
inductive Calls (program : Program) (rest : List Token) : List Token → Node → Prop
  | intro {name opening closing : Token} {inside mark : List Token} {arguments : List Argument}
      (named : name.kind = .identifier) (opens : opening.kind = .openParen)
      (passed : Arguments program inside arguments) (closes : closing.kind = .closeParen)
      (ends : Optional .semicolon mark)
      (whenever : rest.head?.map Token.kind = some .semicolon → mark ≠ [])
      (fresh : program.containsName name.value = false) :
      Calls program rest (name :: opening :: (inside ++ closing :: mark))
        (.call ⟨some name.value, arguments⟩)

def Segment (program : Program) (rest segment : List Token) (node : Node) : Prop :=
  Declares program segment node ∨ Calls program rest segment node

/-- Tokens that add the nodes of their segments, in order, to a program. -/
inductive Extends : Program → List Token → Program → Prop
  | done {program : Program} : Extends program [] program
  | node {program final : Program} {segment rest : List Token} {node : Node}
      (first : Segment program rest segment node)
      (others : Extends (program.push node) rest final) : Extends program (segment ++ rest) final

end LetLang.Grammar
