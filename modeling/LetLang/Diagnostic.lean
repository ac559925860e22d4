import LetLang.Outcome
import LetLang.Text.Place

/-! Messages about a source, drawn below the line that they are about. -/
namespace LetLang

inductive Severity where
  | info
  | warning
  | error
  deriving DecidableEq

def Severity.name : Severity → String
  | info => "info"
  | warning => "warning"
  | error => "error"

structure Diagnostic where
  severity : Severity
  name? : Option String
  message : String
  /-- The byte that the caret stands under. -/
  offset? : Option Nat
  tip? : Option String

namespace Diagnostic

def isFatal (diagnostic : Diagnostic) : Bool := diagnostic.severity = .error

def ofError (error : Error) : Diagnostic :=
  ⟨.error, some error.cause.name, error.cause.message, some error.position.offset.toNat,
    error.cause.tip?⟩

def info (message : String) : Diagnostic := ⟨.info, none, message, none, none⟩

def painted (before after : String) (text : String) : String :=
  "\x1b[" ++ before ++ "m" ++ text ++ "\x1b[" ++ after ++ "m"

def bold (text : String) : String := painted "1" "0" text

def severityText (colour : Bool) (severity : Severity) : String :=
  if colour then
    match severity with
    | .info => painted "32" "39" severity.name
    | .warning => painted "93" "39" severity.name
    | .error => bold (painted "91" "39" severity.name)
  else severity.name

def caretText (colour : Bool) : String := if colour then bold (painted "31" "39" "^") else "^"

/-- Blanks that bring the caret under a column; tabs stay tabs. -/
def padding (place : Text.Place) : List Char :=
  (place.text.take place.column).map fun c => if c = '\t' then '\t' else ' '

def drawn (diagnostic : Diagnostic) (place : Text.Place) (file : String) (colour : Bool) :
    String :=
  let number := toString place.line
  let gutter := String.ofList (List.replicate number.length ' ')
  let name := match diagnostic.name? with
    | some name => " (" ++ name ++ ")"
    | none => ""
  let tip := match diagnostic.tip? with
    | some tip => "\nhelp: " ++ tip
    | none => ""
  "[" ++ severityText colour diagnostic.severity ++ "] " ++ file ++ ":" ++ number ++ ":" ++
    toString (place.column + 1) ++ name ++
    "\n  " ++ number ++ " | " ++ String.ofList place.text ++
    "\n  " ++ gutter ++ " | " ++ String.ofList (padding place) ++ caretText colour ++
    "\n\n" ++ diagnostic.message ++ tip

/-- An information is its bare message; without an offset there is no line to draw. -/
def render (diagnostic : Diagnostic) (source file : String) (colour : Bool) : String :=
  match diagnostic.severity, diagnostic.offset? with
  | .info, _ => diagnostic.message
  | _, some offset => diagnostic.drawn (Text.placeOf source offset) file colour
  | severity, none =>
    "[" ++ severityText colour severity ++ "] " ++ file ++ ": " ++ diagnostic.message

end Diagnostic
end LetLang
