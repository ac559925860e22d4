import LetLang.Diagnostic
import LetLang.Dump
import LetLang.Program.OfTokens

/-! The command line: what it is asked for, and what it answers for the source that it read. -/
namespace LetLang

structure Options where
  file : String
  dump : Bool
  verbosity : Nat
  plain : Bool
  deriving DecidableEq

inductive Usage where
  | unexpected (argument : String)
  | repeated (argument : String)
  | absent (argument : String)
  | help
  deriving DecidableEq

namespace Options

/-- Options as far as they are read; the file is not settled while it may still come. -/
structure Draft where
  file? : Option String
  dump : Bool
  verbosity : Nat
  plain : Bool

def setDump (draft : Draft) : Except Usage Draft :=
  if draft.dump then .error (.repeated "--dump") else .ok { draft with dump := true }

def setPlain (draft : Draft) : Except Usage Draft :=
  if draft.plain then .error (.repeated "--no-color") else .ok { draft with plain := true }

def setFile (draft : Draft) (argument : String) : Except Usage Draft :=
  match draft.file? with
  | some _ => .error (.unexpected argument)
  | none =>
    if argument.isEmpty then .error (.absent "FILE")
    else .ok { draft with file? := some argument }

def setLetters (draft : Draft) : List Char → Except Usage Draft
  | [] => .ok draft
  | 'd' :: letters => do setLetters (← setDump draft) letters
  | 'v' :: letters => setLetters { draft with verbosity := draft.verbosity + 1 } letters
  | 'h' :: _ => .error .help
  | letter :: _ => .error (.unexpected ("-" ++ String.singleton letter))

def setFiles (draft : Draft) : List String → Except Usage Draft
  | [] => .ok draft
  | argument :: arguments => do setFiles (← setFile draft argument) arguments

/-- Behind a bare `--` every argument is a file. -/
def read (draft : Draft) : List String → Except Usage Draft
  | [] => .ok draft
  | "--" :: arguments => setFiles draft arguments
  | "--dump" :: arguments => do read (← setDump draft) arguments
  | "--no-color" :: arguments => do read (← setPlain draft) arguments
  | "--help" :: _ => .error .help
  | argument :: arguments => do
    match argument.toList with
    | '-' :: '-' :: _ => .error (.unexpected argument)
    | '-' :: letter :: letters => read (← setLetters draft (letter :: letters)) arguments
    | _ => read (← setFile draft argument) arguments

def defaultFile : String := "example.wi"

def ofArguments (arguments : List String) : Except Usage Options := do
  let draft ← read ⟨none, false, 0, false⟩ arguments
  return ⟨draft.file?.getD defaultFile, draft.dump, draft.verbosity, draft.plain⟩

end Options

structure Report where
  code : UInt32
  out : String
  err : String
  written : List (String × String)

namespace Command

def tokensPath : String := ".tokens.json"

def treePath : String := ".tree.json"

def failed (message : String) (written : List (String × String)) : Report :=
  ⟨1, "", message ++ "\n", written⟩

def crashed (written : List (String × String)) : Report := ⟨101, "", "", written⟩

def refused (error : Error) (source file : String) (colour : Bool)
    (written : List (String × String)) : Report :=
  failed ((Diagnostic.ofError error).render source file colour) written

/-- Tokens are dumped before they are parsed, the tree after it. -/
def check (options : Options) (source : String) (colour : Bool) : Report :=
  let file := fileName options.file
  match Token.tokenize source (some file) with
  | .error error => refused error source file colour []
  | .ok tokens =>
    let written := if options.dump then [(tokensPath, Token.dump tokens)] else []
    match Program.ofTokens tokens source file with
    | .error (.refused error) => refused error source file colour written
    | .error .crash => crashed written
    | .ok program =>
      let written := if options.dump then written ++ [(treePath, program.dump)] else written
      let nodes := toString program.body.length
      let summary := Diagnostic.info (file ++ ": " ++ nodes ++ " nodes parsed")
      ⟨0, summary.render source file colour ++ "\n", "", written⟩

def run (options : Options) (source : Except FileError String) (colour : Bool) : Report :=
  match source with
  | .error reason => failed ("Error: " ++ reason.text) []
  | .ok source => check options source colour

def usage : String := "Usage: letlang [OPTIONS] [FILE]\n"

def misused : Usage → Report
  | .unexpected argument =>
    ⟨2, "", "error: unexpected argument \"" ++ argument ++ "\" found\n", []⟩
  | .repeated argument =>
    ⟨2, "", "error: the argument \"" ++ argument ++ "\" cannot be used multiple times\n", []⟩
  | .absent argument =>
    ⟨2, "", "error: a value is required for \"" ++ argument ++ "\" but none was supplied\n", []⟩
  | .help => ⟨0, usage, "", []⟩

/-- A dump that cannot be written ends the run, with what was written before it. -/
def unwritten (error : DumpError) (written : List (String × String)) : Report :=
  failed ("Error: " ++ error.text) written

def saveFrom (report : Report) (written : List (String × String)) (files : Files) :
    List (String × String) → Report × Files
  | [] => (report, files)
  | (path, content) :: rest =>
    match files.dump path content with
    | .error error => (unwritten error written, files)
    | .ok files => saveFrom report (written ++ [(path, content)]) files rest

def save (report : Report) (files : Files) : Report × Files :=
  saveFrom report [] files report.written

end Command
end LetLang
