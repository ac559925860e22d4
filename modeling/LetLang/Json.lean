import LetLang.Binary64.Decimal

/-! JSON documents, written on one line or laid out two blanks to a level. -/
namespace LetLang

inductive Json where
  | null
  | bool (value : Bool)
  | integer (value : Int)
  | float (value : Binary64)
  | string (value : String)
  | array (items : List Json)
  | object (fields : List (String × Json))

namespace Json

def escape (c : Char) : List Char :=
  if c = '"' then ['\\', '"']
  else if c = '\\' then ['\\', '\\']
  else if c = '\x08' then ['\\', 'b']
  else if c = '\x0c' then ['\\', 'f']
  else if c = '\n' then ['\\', 'n']
  else if c = '\r' then ['\\', 'r']
  else if c = '\t' then ['\\', 't']
  else if c.toNat < 0x20 then
    ['\\', 'u', '0', '0', Nat.digitChar (c.toNat / 16), Nat.digitChar (c.toNat % 16)]
  else [c]

def stringChars (text : String) : List Char := '"' :: (text.toList.flatMap escape ++ ['"'])

def boolChars (value : Bool) : List Char := if value then "true".toList else "false".toList

def integerChars (value : Int) : List Char :=
  Binary64.signChars (value < 0) ++ Nat.toDigits 10 value.natAbs

def floatChars (value : Binary64) : List Char :=
  match value.jsonText? with
  | some text => text.toList
  | none => "null".toList

mutual

def compactChars : Json → List Char
  | .null => "null".toList
  | .bool value => boolChars value
  | .integer value => integerChars value
  | .float value => floatChars value
  | .string value => stringChars value
  | .array [] => ['[', ']']
  | .array (item :: items) => '[' :: (compactChars item ++ compactItems items)
  | .object [] => ['\x7b', '\x7d']
  | .object ((key, value) :: fields) =>
    '\x7b' :: (stringChars key ++ ':' :: (compactChars value ++ compactFields fields))

def compactItems : List Json → List Char
  | [] => [']']
  | item :: items => ',' :: (compactChars item ++ compactItems items)

def compactFields : List (String × Json) → List Char
  | [] => ['\x7d']
  | (key, value) :: fields =>
    ',' :: (stringChars key ++ ':' :: (compactChars value ++ compactFields fields))

end

def lineBreak (depth : Nat) : List Char := '\n' :: List.replicate (2 * depth) ' '

mutual

def prettyChars (depth : Nat) : Json → List Char
  | .null => "null".toList
  | .bool value => boolChars value
  | .integer value => integerChars value
  | .float value => floatChars value
  | .string value => stringChars value
  | .array [] => ['[', ']']
  | .array (item :: items) =>
    '[' :: (lineBreak (depth + 1) ++ prettyChars (depth + 1) item ++ prettyItems depth items)
  | .object [] => ['\x7b', '\x7d']
  | .object ((key, value) :: fields) =>
    '\x7b' :: (lineBreak (depth + 1) ++ stringChars key ++ ':' :: ' ' ::
      (prettyChars (depth + 1) value ++ prettyFields depth fields))

def prettyItems (depth : Nat) : List Json → List Char
  | [] => lineBreak depth ++ [']']
  | item :: items =>
    ',' :: (lineBreak (depth + 1) ++ prettyChars (depth + 1) item ++ prettyItems depth items)

def prettyFields (depth : Nat) : List (String × Json) → List Char
  | [] => lineBreak depth ++ ['\x7d']
  | (key, value) :: fields =>
    ',' :: (lineBreak (depth + 1) ++ stringChars key ++ ':' :: ' ' ::
      (prettyChars (depth + 1) value ++ prettyFields depth fields))

end

def compact (document : Json) : String := String.ofList document.compactChars

def pretty (document : Json) : String := String.ofList (document.prettyChars 0)

end Json
end LetLang
