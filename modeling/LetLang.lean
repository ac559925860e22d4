import LetLang.Main
import LetLang.Parser.Session
import LetLang.Store
import LetLang.Token.Scanner
import LetLang.Workspace
import LetLang.Proofs.Grammar.Program
import LetLang.Proofs.Program.Online
import LetLang.Proofs.Program.Annotated
import LetLang.Proofs.Program.Copy
import LetLang.Proofs.Program.WellFormed
import LetLang.Proofs.Program.Gap
import LetLang.Proofs.Program.Errors
import LetLang.Proofs.Reduction.Exact
import LetLang.Proofs.InPlace.Pass
import LetLang.Proofs.Lexeme.Printed
import LetLang.Proofs.Lexeme.Tokenize
import LetLang.Proofs.Store.Run
import LetLang.Proofs.Variable.Sound
import LetLang.Proofs.Value.Literal
import LetLang.Proofs.Program.Places
import LetLang.Proofs.Value.Exact
import LetLang.Proofs.Program.Dump
import LetLang.Proofs.Program.Safe
import LetLang.Proofs.Value.Rounded
import LetLang.Proofs.Variable.Invoke
import LetLang.Proofs.Store.Invoke
import LetLang.Proofs.Lexeme.Replace
import LetLang.Proofs.Lexeme.Defect
import LetLang.Proofs.Lexeme.Join
import LetLang.Proofs.Program.Inferred
import LetLang.Proofs.Value.Whole
import LetLang.Proofs.Text.Order
import LetLang.Proofs.Parser.Session
import LetLang.Proofs.Variable.Checks
import LetLang.Proofs.Operator.Lookup
import LetLang.Proofs.Value.ReadBack
import LetLang.Proofs.Token.Number
