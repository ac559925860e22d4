import LetLang.Token.Lexer

/-! A place in a source text, in bytes, and what can be read there. -/
namespace LetLang

structure Scanner where
  source : String
  file : String
  offset : Nat

namespace Scanner

def new (source : String) (file? : Option String) : Scanner :=
  ⟨source, file?.getD Token.unnamedFile, 0⟩

def advance (scanner : Scanner) (bytes : Nat) : Scanner :=
  { scanner with offset := scanner.offset + bytes }

def atEnd (scanner : Scanner) : Bool := scanner.source.utf8ByteSize ≤ scanner.offset

def dropBytes? (bytes : Nat) : List Char → Option (List Char)
  | [] => if bytes = 0 then some [] else none
  | c :: chars =>
    if bytes = 0 then some (c :: chars)
    else if c.utf8Size ≤ bytes then dropBytes? (bytes - c.utf8Size) chars
    else none

/-- The text from here to the end. A scanner that stands past the end, or inside a character,
crashes. -/
def remainder? (scanner : Scanner) : Option (List Char) :=
  dropBytes? scanner.offset scanner.source.toList

def at? (scanner : Scanner) : Option Char :=
  scanner.remainder?.map fun rest => rest.head?.getD '\x00'

def position (scanner : Scanner) : Position := ⟨.ofNat scanner.offset, scanner.file⟩

def span (scanner : Scanner) (bytes : Nat) : Span :=
  ⟨scanner.position, (scanner.advance bytes).position⟩

end Scanner
end LetLang
