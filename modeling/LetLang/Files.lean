/-!
Files under one directory, by path: what reading a path gives, what writing one changes, and why
either may be refused.
-/
namespace LetLang

inductive FileError where
  | missing
  | notADirectory
  | isADirectory
  | nameTooLong
  | notText
  deriving DecidableEq

namespace FileError

def system? : FileError → Option (Nat × String × String)
  | missing => some (2, "NotFound", "No such file or directory")
  | notADirectory => some (20, "NotADirectory", "Not a directory")
  | isADirectory => some (21, "IsADirectory", "Is a directory")
  | nameTooLong => some (36, "InvalidFilename", "File name too long")
  | notText => none

def notTextMessage : String := "stream did not contain valid UTF-8"

def message (reason : FileError) : String :=
  match reason.system? with
  | some (code, _, message) => message ++ " (os error " ++ toString code ++ ")"
  | none => notTextMessage

def text (reason : FileError) : String :=
  match reason.system? with
  | some (code, kind, message) =>
    "Os \x7b code: " ++ toString code ++ ", kind: " ++ kind ++ ", message: \"" ++ message ++
      "\" \x7d"
  | none => "Error \x7b kind: InvalidData, message: \"" ++ notTextMessage ++ "\" \x7d"

end FileError

def pathParts (path : String) : List String :=
  (path.toList.splitOn '/').map String.ofList

/-- The name at the end of a path, or the path itself where it ends in no name. -/
def fileName (path : String) : String :=
  match ((pathParts path).filter fun part => part ≠ "" ∧ part ≠ ".").getLast? with
  | some name => if name = ".." then path else name
  | none => path

structure Files where
  entries : List (List String × ByteArray)

namespace Files

def put (files : Files) (place : List String) (content : ByteArray) : Files :=
  ⟨(place, content) :: files.entries.filter (·.1 ≠ place)⟩

def insert (files : Files) (path : String) (content : ByteArray) : Files :=
  files.put ((pathParts path).filter fun part => part ≠ "" ∧ part ≠ ".") content

def find? (files : Files) (parts : List String) : Option ByteArray := files.entries.lookup parts

/-- A directory is a place with a file below it; the top one is always there. -/
def isDirectory (files : Files) (parts : List String) : Bool :=
  parts.isEmpty ||
    files.entries.any fun (path, _) => parts.isPrefixOf path && parts.length < path.length

inductive Place where
  | directory
  | file (parts : List String) (content : ByteArray)
  | free (parts : List String)

def longestName : Nat := 255

def longestPath : Nat := 4095

/-- Goes on above the top directory, where nothing but the directories themselves is known. -/
def walkOutside : List String → Except FileError Place
  | [] => .ok .directory
  | part :: parts =>
    if part = "" ∨ part = "." ∨ part = ".." then walkOutside parts
    else if longestName < part.utf8ByteSize then .error .nameTooLong
    else .error .missing

def walk (files : Files) (directory : List String) : List String → Except FileError Place
  | [] => .ok .directory
  | part :: parts =>
    if part = "" ∨ part = "." then files.walk directory parts
    else if part = ".." then
      if directory.isEmpty then walkOutside parts else files.walk directory.dropLast parts
    else if longestName < part.utf8ByteSize then .error .nameTooLong
    else
      let place := directory ++ [part]
      match files.find? place with
      | some content => if parts.isEmpty then .ok (.file place content) else .error .notADirectory
      | none =>
        if files.isDirectory place then files.walk place parts
        else if parts.isEmpty then .ok (.free place)
        else .error .missing

def placeOf (files : Files) (path : String) : Except FileError Place :=
  if path.isEmpty then .error .missing
  else if longestPath < path.utf8ByteSize then .error .nameTooLong
  else if path.startsWith "/" then walkOutside (pathParts path)
  else files.walk [] (pathParts path)

def read (files : Files) (path : String) : Except FileError ByteArray := do
  match ← files.placeOf path with
  | .directory => .error .isADirectory
  | .file _ content => .ok content
  | .free _ => .error .missing

/-- Writing replaces a file, but never a directory, and makes no directory. -/
def write (files : Files) (path : String) (content : ByteArray) : Except FileError Files := do
  match ← files.placeOf path with
  | .directory => .error .isADirectory
  | .file place _ | .free place => .ok (files.put place content)

end Files

def textOfBytes (bytes : ByteArray) : Except FileError String :=
  match String.fromUTF8? bytes with
  | some text => .ok text
  | none => .error .notText

end LetLang
