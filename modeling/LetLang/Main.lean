import LetLang.Command

/-! The program: reads the file it is given, and writes what the command answers. -/
namespace LetLang.Command

def fileError? : IO.Error → Option FileError
  | .noFileOrDirectory .. => some .missing
  | .inappropriateType _ _ details =>
    some (if details = "not a directory" then .notADirectory else .isADirectory)
  | .invalidArgument .. => some .nameTooLong
  | _ => none

def attempt {α : Type} (action : IO α) : IO (Except FileError α) := do
  match ← action.toBaseIO with
  | .ok value => return .ok value
  | .error error =>
    match fileError? error with
    | some reason => return .error reason
    | none => throw error

def readSource (path : String) : IO (Except FileError String) := do
  return (← attempt (IO.FS.readBinFile path)).bind textOfBytes

def saveOnDisk (result : Report) (written : List (String × String)) :
    List (String × String) → IO Report
  | [] => return result
  | (path, content) :: rest => do
    match ← attempt (IO.FS.writeFile path content) with
    | .error reason => return unwritten (.unwritten reason) written
    | .ok _ => saveOnDisk result (written ++ [(path, content)]) rest

def report (result : Report) : IO UInt32 := do
  let result ← saveOnDisk result [] result.written
  IO.print result.out
  IO.eprint result.err
  return result.code

end LetLang.Command

open LetLang in
def main (arguments : List String) : IO UInt32 := do
  match Options.ofArguments arguments with
  | .error usage => Command.report (Command.misused usage)
  | .ok options =>
    let source ← Command.readSource options.file
    let terminal ← (← IO.getStderr).isTty
    Command.report (Command.run options source (terminal && !options.plain))
