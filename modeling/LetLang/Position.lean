/-! Places in source files. -/
namespace LetLang

/-- A byte offset into a named file. Offsets wrap at 32 bits. -/
structure Position where
  offset : UInt32
  file : String
  deriving DecidableEq

structure Span where
  start : Position
  stop : Position
  deriving DecidableEq

end LetLang
