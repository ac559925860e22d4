import LetLang.Int128
import LetLang.Binary64.Basic

/-! The closed set of kinds that a value can be declared as. -/
namespace LetLang

inductive Kind where
  | string
  | i8 | i16 | i32 | i64
  | u8 | u16 | u32 | u64
  | f32 | f64
  | bool
  | char
  | object
  deriving DecidableEq

inductive Bounds where
  | integer (least greatest : Int128)
  | float (least greatest : Binary64)
  deriving DecidableEq

namespace Kind

def all : List Kind :=
  [string, i8, i16, i32, i64, u8, u16, u32, u64, f32, f64, bool, char, object]

def numeric : List Kind := [i8, i16, i32, i64, u8, u16, u32, u64, f32, f64]

def name : Kind → String
  | string => "string"
  | i8 => "i8"
  | i16 => "i16"
  | i32 => "i32"
  | i64 => "i64"
  | u8 => "u8"
  | u16 => "u16"
  | u32 => "u32"
  | u64 => "u64"
  | f32 => "f32"
  | f64 => "f64"
  | bool => "bool"
  | char => "char"
  | object => "object"

def ofName? (name : String) : Option Kind := all.find? (·.name == name)

/-- The greatest single-precision number, `(2 ^ 24 - 1) * 2 ^ 104`. -/
def greatestSingle : Int := 0xFFFFFF * 2 ^ 104

def bounds? : Kind → Option Bounds
  | i8 => some (.integer { toInt := -2 ^ 7 } { toInt := 2 ^ 7 - 1 })
  | i16 => some (.integer { toInt := -2 ^ 15 } { toInt := 2 ^ 15 - 1 })
  | i32 => some (.integer { toInt := -2 ^ 31 } { toInt := 2 ^ 31 - 1 })
  | i64 => some (.integer { toInt := -2 ^ 63 } { toInt := 2 ^ 63 - 1 })
  | u8 => some (.integer { toInt := 0 } { toInt := 2 ^ 8 - 1 })
  | u16 => some (.integer { toInt := 0 } { toInt := 2 ^ 16 - 1 })
  | u32 => some (.integer { toInt := 0 } { toInt := 2 ^ 32 - 1 })
  | u64 => some (.integer { toInt := 0 } { toInt := 2 ^ 64 - 1 })
  | f32 => some (.float (.ofInt (-greatestSingle)) (.ofInt greatestSingle))
  | f64 => some (.float (.greatest true) (.greatest false))
  | string | bool | char | object => none

def isInteger (kind : Kind) : Bool :=
  match kind.bounds? with
  | some (.integer _ _) => true
  | _ => false

def isFloat (kind : Kind) : Bool :=
  match kind.bounds? with
  | some (.float _ _) => true
  | _ => false

def isNumeric (kind : Kind) : Bool := kind.bounds?.isSome

theorem mem_all (kind : Kind) : kind ∈ all := by cases kind <;> decide

theorem ofName?_name (kind : Kind) : ofName? kind.name = some kind := by cases kind <;> decide

theorem isNumeric_iff (kind : Kind) : kind.isNumeric = true ↔ kind ∈ numeric := by
  cases kind <;> decide

end Kind
end LetLang
