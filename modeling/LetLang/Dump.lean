import LetLang.Document
import LetLang.Files

/-!
Dumps of tokens and programs in files. Every document can be laid out, so that a dump is refused
for its file alone.
-/
namespace LetLang

inductive DumpError where
  | unwritten (reason : FileError)
  deriving DecidableEq

namespace DumpError

def message : DumpError → String
  | unwritten reason => "failed to write dump: " ++ reason.message

def text : DumpError → String
  | unwritten reason => "Io(" ++ reason.text ++ ")"

end DumpError

def Files.dump (files : Files) (path content : String) : Except DumpError Files :=
  (files.write path content.toUTF8).mapError .unwritten

end LetLang
