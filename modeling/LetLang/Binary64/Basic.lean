/-!
Doubles as exact numbers. A finite one is a sign and a rank, its place among the magnitudes counted
up from zero; magnitudes are whole numbers of the smallest one, `2 ^ -1074`, so that each operation
is an exact quotient of naturals, rounded once.
-/
namespace LetLang

-- Powers mean the same where algebra, with powers of its own, is imported too; where the exponent
-- varies they are written `Nat.pow`, which has no second reading.
attribute [default_instance 20000] instPowNat

abbrev Binary64.rankLimit : Nat := 0x7FF0000000000000

inductive Binary64 where
  | finite (negative : Bool) (rank : Fin Binary64.rankLimit)
  | infinite (negative : Bool)
  | nan
  deriving DecidableEq

namespace Binary64

/-- The magnitude at a rank, in units of `2 ^ -1074`. -/
def units (rank : Nat) : Nat :=
  if rank < 2 ^ 52 then rank else (2 ^ 52 + rank % 2 ^ 52) * Nat.pow 2 (rank / 2 ^ 52 - 1)

/-- The whole number nearest to a quotient; a half goes to the even one. -/
def roundQuotient (num den : Nat) : Nat :=
  let quotient := num / den
  let remainder := num % den
  if 2 * remainder < den then quotient
  else if den < 2 * remainder then quotient + 1
  else quotient + quotient % 2

/-- The rank nearest to `num / den` units. The bits below the 53rd are rounded away; a carry out of
the significand runs on into the next power of two, where the ranks continue. -/
def nearestRank (num den : Nat) : Nat :=
  let shift := (num / den).log2 - 52
  shift * 2 ^ 52 + roundQuotient num (den * Nat.pow 2 shift)

def round (negative : Bool) (num den : Nat) : Binary64 :=
  let rank := nearestRank num den
  if bound : rank < rankLimit then .finite negative ⟨rank, bound⟩ else .infinite negative

def zero (negative : Bool) : Binary64 := .finite negative ⟨0, by decide⟩

def greatest (negative : Bool) : Binary64 := .finite negative ⟨rankLimit - 1, by decide⟩

def ofInt (n : Int) : Binary64 := round (n < 0) (n.natAbs * 2 ^ 1074) 1

/-- `coefficient * 10 ^ exponent`, rounded. Exponents that settle the result are not written out. -/
def ofScientific (negative : Bool) (coefficient : Nat) (exponent : Int) : Binary64 :=
  match exponent with
  | .ofNat up =>
    if coefficient = 0 then zero negative
    else if 400 < up then .infinite negative
    else round negative (coefficient * Nat.pow 10 up * 2 ^ 1074) 1
  | .negSucc down =>
    if coefficient.log2 / 3 + 400 < down then zero negative
    else round negative (coefficient * 2 ^ 1074) (Nat.pow 10 (down + 1))

def isFinite : Binary64 → Bool
  | .finite _ _ => true
  | _ => false

def scaled (negative : Bool) (rank : Nat) : Int :=
  if negative then -(units rank : Int) else units rank

def toInt? : Binary64 → Option Int
  | .finite negative rank =>
    if units rank % 2 ^ 1074 = 0 then some (scaled negative rank / 2 ^ 1074) else none
  | _ => none

def place? : Binary64 → Option Int
  | .finite negative rank => some (if negative then -(rank : Int) else rank)
  | .infinite negative => some (if negative then -(rankLimit : Int) else rankLimit)
  | .nan => none

def le (x y : Binary64) : Bool :=
  match x.place?, y.place? with
  | some a, some b => a ≤ b
  | _, _ => false

def sameNumber (x y : Binary64) : Bool :=
  match x.place?, y.place? with
  | some a, some b => a == b
  | _, _ => false

def neg : Binary64 → Binary64
  | .finite negative rank => .finite (!negative) rank
  | .infinite negative => .infinite (!negative)
  | .nan => .nan

/-- A sum that cancels is the positive zero, unless both terms are negative. -/
def add : Binary64 → Binary64 → Binary64
  | .nan, _ => .nan
  | _, .nan => .nan
  | .infinite a, .infinite b => if a = b then .infinite a else .nan
  | .infinite a, .finite _ _ => .infinite a
  | .finite _ _, .infinite b => .infinite b
  | .finite a m, .finite b n =>
    let sum := scaled a m + scaled b n
    if sum = 0 then zero (a && b) else round (sum < 0) sum.natAbs 1

def sub (x y : Binary64) : Binary64 := add x y.neg

def mul : Binary64 → Binary64 → Binary64
  | .nan, _ => .nan
  | _, .nan => .nan
  | .infinite a, .infinite b => .infinite (a != b)
  | .infinite a, .finite b n => if n.val = 0 then .nan else .infinite (a != b)
  | .finite a m, .infinite b => if m.val = 0 then .nan else .infinite (a != b)
  | .finite a m, .finite b n => round (a != b) (units m * units n) (2 ^ 1074)

def div : Binary64 → Binary64 → Binary64
  | .nan, _ => .nan
  | _, .nan => .nan
  | .infinite _, .infinite _ => .nan
  | .infinite a, .finite b _ => .infinite (a != b)
  | .finite a _, .infinite b => zero (a != b)
  | .finite a m, .finite b n =>
    if n.val = 0 then if m.val = 0 then .nan else .infinite (a != b)
    else round (a != b) (units m * 2 ^ 1074) (units n)

/-- The interchange word: the sign bit above the rank, infinity at the first rank that is not
finite, every NaN as the quiet one. -/
def toBits : Binary64 → UInt64
  | .finite negative rank => .ofNat ((if negative then 2 ^ 63 else 0) + rank)
  | .infinite negative => .ofNat ((if negative then 2 ^ 63 else 0) + rankLimit)
  | .nan => 0x7FF8000000000000

def ofBits (bits : UInt64) : Binary64 :=
  let negative := decide (2 ^ 63 ≤ bits.toNat)
  let rank := bits.toNat % 2 ^ 63
  if bound : rank < rankLimit then .finite negative ⟨rank, bound⟩
  else if rank = rankLimit then .infinite negative
  else .nan

theorem roundQuotient_exact (n : Nat) {den : Nat} (positive : 0 < den) :
    roundQuotient (n * den) den = n := by
  simp [roundQuotient, Nat.mul_div_cancel n positive, Nat.mul_mod_left, positive]

theorem roundQuotient_within_half (num : Nat) {den : Nat} (positive : 0 < den) :
    2 * (roundQuotient num den * den) ≤ 2 * num + den ∧
      2 * num ≤ 2 * (roundQuotient num den * den) + den := by
  have parts := Nat.div_add_mod num den
  have small := Nat.mod_lt num positive
  rw [Nat.mul_comm] at parts
  unfold roundQuotient
  dsimp only
  split
  · omega
  · split
    · rw [Nat.add_mul]
      omega
    · rcases Nat.mod_two_eq_zero_or_one (num / den) with even | odd
      · rw [even, Nat.add_zero]
        omega
      · rw [odd, Nat.add_mul]
        omega

theorem log2_units {rank : Nat} (large : 2 ^ 52 ≤ rank) :
    (units rank).log2 = 52 + (rank / 2 ^ 52 - 1) := by
  have mantissa : rank % 2 ^ 52 < 2 ^ 52 := Nat.mod_lt _ (by decide)
  have scale := Nat.two_pow_pos (rank / 2 ^ 52 - 1)
  rw [units, if_neg (by omega), Nat.pow_eq,
    Nat.log2_eq_iff (Nat.mul_ne_zero (by omega) (by omega))]
  constructor
  · rw [Nat.pow_add]
    exact Nat.mul_le_mul_right _ (by omega)
  · rw [show 52 + (rank / 2 ^ 52 - 1) + 1 = 53 + (rank / 2 ^ 52 - 1) by omega, Nat.pow_add]
    exact Nat.mul_lt_mul_of_pos_right (by omega) scale

theorem nearestRank_units (rank : Nat) {den : Nat} (positive : 0 < den) :
    nearestRank (units rank * den) den = rank := by
  unfold nearestRank
  rw [Nat.mul_div_cancel _ positive]
  by_cases large : 2 ^ 52 ≤ rank
  · have split := Nat.div_add_mod rank (2 ^ 52)
    have whole : 1 ≤ rank / 2 ^ 52 := by omega
    rw [log2_units large, Nat.add_sub_cancel_left]
    rw [units, if_neg (by omega), Nat.mul_assoc, Nat.mul_comm (Nat.pow 2 _) den]
    dsimp only [Nat.pow_eq]
    rw [roundQuotient_exact _ (Nat.mul_pos positive (Nat.two_pow_pos _))]
    omega
  · have same : units rank = rank := by rw [units, if_pos (by omega)]
    have low : rank.log2 ≤ 52 := by
      by_cases zero : rank = 0
      · simp [zero]
      · have := (Nat.log2_lt zero).mpr (show rank < 2 ^ 52 by omega)
        omega
    rw [same, Nat.sub_eq_zero_of_le low]
    simp [roundQuotient_exact rank positive]

theorem ofBits_toBits (x : Binary64) : ofBits x.toBits = x := by
  match x with
  | .finite negative ⟨rank, bound⟩ =>
    unfold rankLimit at bound
    cases negative <;>
      simp only [toBits, ofBits, UInt64.toNat_ofNat', Bool.false_eq_true, if_true, if_false]
    · have size : (0 + rank) % 2 ^ 64 = rank := by omega
      have low : rank % 2 ^ 63 = rank := by omega
      have sign : ¬ 2 ^ 63 ≤ rank := by omega
      simp only [size, low, sign, rankLimit, bound, dite_true, decide_false]
    · have size : (2 ^ 63 + rank) % 2 ^ 64 = 2 ^ 63 + rank := by omega
      have low : (2 ^ 63 + rank) % 2 ^ 63 = rank := by omega
      have sign : 2 ^ 63 ≤ 2 ^ 63 + rank := by omega
      simp only [size, low, sign, rankLimit, bound, dite_true, decide_true]
  | .infinite negative => cases negative <;> decide
  | .nan => decide

end Binary64
end LetLang
