import LetLang.Binary64.Basic
import LetLang.Text.Basic

/-!
Decimal text of doubles. Every finite magnitude is a whole number of `10 ^ -1074`, so the decimal
grids below that one all hold it exactly, and the fewest digits that read back are found by walking
from the coarsest grid to the finest.
-/
namespace LetLang.Binary64

/-- A positive decimal number, `digits * 10 ^ (place - 1074)`. -/
structure Decimal where
  digits : Nat
  place : Nat
  deriving DecidableEq, Repr

inductive Tie where
  | up
  | even
  deriving DecidableEq

def decimalUnits (rank : Nat) : Nat := units rank * 5 ^ 1074

namespace Decimal

def readsBack (rank : Nat) (x : Decimal) : Bool :=
  nearestRank (x.digits * Nat.pow 10 x.place) (5 ^ 1074) == rank

def neighbours (tie : Tie) (total place : Nat) : List Decimal :=
  let step := Nat.pow 10 place
  let below := total / step
  let twice := 2 * (total % step)
  let low : Decimal := ⟨below, place⟩
  let high : Decimal := ⟨below + 1, place⟩
  if twice < step then [low, high]
  else if step < twice then [high, low]
  else match tie with
    | .up => [high, low]
    | .even => if below % 2 = 0 then [low, high] else [high, low]

/-- The first grid at or below `place` with a neighbour of `total` that is accepted; the finest one
holds `total` itself. -/
def search (tie : Tie) (accepts : Decimal → Bool) (total : Nat) : Nat → Decimal
  | 0 => ⟨total, 0⟩
  | place + 1 =>
    match (neighbours tie total (place + 1)).find? accepts with
    | some found => found
    | none => search tie accepts total place

/-- The fewest digits that read back, and of those the nearest to the magnitude. -/
def shortest (tie : Tie) (rank : Nat) : Decimal :=
  let total := decimalUnits rank
  search tie (readsBack rank) total (Nat.toDigits 10 total).length

theorem readsBack_exact (rank : Nat) : readsBack rank ⟨decimalUnits rank, 0⟩ = true := by
  have positive : ∀ n, 0 < 5 ^ n := fun _ => Nat.pow_pos (by decide)
  rw [readsBack, Nat.pow_eq, Nat.pow_zero, Nat.mul_one, decimalUnits,
    nearestRank_units rank (positive 1074)]
  exact beq_self_eq_true rank

theorem accepts_search (tie : Tie) {accepts : Decimal → Bool} {total : Nat}
    (exact : accepts ⟨total, 0⟩ = true) (place : Nat) :
    accepts (search tie accepts total place) = true := by
  induction place with
  | zero => exact exact
  | succ place ih =>
    rw [search]
    split
    · rename_i found
      exact List.find?_some found
    · exact ih

theorem readsBack_shortest (tie : Tie) (rank : Nat) :
    readsBack rank (shortest tie rank) = true :=
  accepts_search tie (readsBack_exact rank) _

def digitChars (x : Decimal) : List Char := Nat.toDigits 10 x.digits

def pointed (digits : List Char) (places : Nat) : List Char :=
  let padded := List.replicate (places + 1 - digits.length) '0' ++ digits
  padded.take (padded.length - places) ++ '.' :: padded.drop (padded.length - places)

def positional (x : Decimal) : List Char :=
  if x.place < 1074 then pointed x.digitChars (1074 - x.place)
  else x.digitChars ++ List.replicate (x.place - 1074) '0' ++ ['.', '0']

def scientific (x : Decimal) (exponent : Int) : List Char :=
  let mantissa := match x.digitChars with
    | first :: second :: others => first :: '.' :: second :: others
    | single => single
  let sign := if exponent < 0 then '-' else '+'
  mantissa ++ 'e' :: sign :: Nat.toDigits 10 exponent.natAbs

def leading (x : Decimal) : Int := (x.digitChars.length + x.place : Nat) - 1075

end Decimal

def signChars (negative : Bool) : List Char := if negative then ['-'] else []

/-- Whole numbers exactly, with one zero after the point; others by their shortest digits, a tie
going up. There is never an exponent. -/
def text : Binary64 → String
  | .finite negative rank =>
    let magnitude :=
      if units rank % 2 ^ 1074 = 0 then Nat.toDigits 10 (units rank / 2 ^ 1074) ++ ['.', '0']
      else (Decimal.shortest .up rank).positional
    String.ofList (signChars negative ++ magnitude)
  | .infinite negative => if negative then "-inf" else "inf"
  | .nan => "NaN"

/-- Shortest digits, a tie going to the even one; positional while the first digit stands from the
fifth place after the point to the sixteenth before it. What is not finite is not written. -/
def jsonText? : Binary64 → Option String
  | .finite negative rank =>
    let magnitude :=
      if rank.val = 0 then ['0', '.', '0']
      else
        let shortest := Decimal.shortest .even rank
        if -5 ≤ shortest.leading ∧ shortest.leading < 16 then shortest.positional
        else shortest.scientific shortest.leading
    some (String.ofList (signChars negative ++ magnitude))
  | _ => none

def exponent? (chars : List Char) : Option Int :=
  match chars with
  | '-' :: digits => (Text.natural? digits).map fun n => -(n : Int)
  | '+' :: digits => (Text.natural? digits).map fun n => (n : Int)
  | digits => (Text.natural? digits).map fun n => (n : Int)

def ofUnsigned? (negative : Bool) (chars : List Char) : Option Binary64 :=
  let (whole, rest) := Text.cut Char.isDigit chars
  match rest with
  | '.' :: rest =>
    let (fraction, rest) := Text.cut Char.isDigit rest
    if whole.isEmpty && fraction.isEmpty then none
    else
      let coefficient := Nat.ofDigitChars 10 (whole ++ fraction) 0
      let scaledBy (exponent : Int) :=
        ofScientific negative coefficient (exponent - fraction.length)
      match rest with
      | [] => some (scaledBy 0)
      | letter :: rest =>
        if letter = 'e' ∨ letter = 'E' then (exponent? rest).map scaledBy else none
  | _ => none

def ofText? (text : String) : Option Binary64 :=
  match text.toList with
  | '-' :: chars => ofUnsigned? true chars
  | '+' :: chars => ofUnsigned? false chars
  | chars => ofUnsigned? false chars

end LetLang.Binary64
