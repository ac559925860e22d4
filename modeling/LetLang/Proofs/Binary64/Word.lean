import LetLang.Binary64.Basic
import Mathlib.Algebra.Order.Field.Power
import Mathlib.Algebra.Order.Ring.Rat
import Mathlib.Data.Int.Cast.Lemmas

/-!
The numbers that words of 64 bits stand for, by the fields of the interchange format. A double in
units of `2 ^ -1074` is the number of its word, and it is taken for an integer exactly where that
number is one.
-/
namespace LetLang.Binary64

def exponentField (word : UInt64) : Nat := word.toNat / 2 ^ 52 % 2 ^ 11

def fractionField (word : UInt64) : Nat := word.toNat % 2 ^ 52

def magnitude (exponent fraction : Nat) : ℚ :=
  if exponent = 0 then fraction / 2 ^ 52 * 2 ^ (-1022 : ℤ)
  else (1 + fraction / 2 ^ 52) * 2 ^ ((exponent : ℤ) - 1023)

def numberOf? (word : UInt64) : Option ℚ :=
  let magnitude := magnitude (exponentField word) (fractionField word)
  if exponentField word = 2047 then none
  else some (if 2 ^ 63 ≤ word.toNat then -magnitude else magnitude)

/-- Ranks are made of an exponent and a fraction, and units are small enough for all of them. -/
theorem magnitude_eq (rank : Nat) :
    magnitude (rank / 2 ^ 52) (rank % 2 ^ 52) = (units rank : ℚ) / 2 ^ 1074 := by
  have nonzero : (2 : ℚ) ≠ 0 := two_ne_zero
  have unit : (2 : ℚ) ^ (-1074 : ℤ) = 1 / 2 ^ 1074 := by
    rw [zpow_neg, one_div]
    rfl
  have place : (1 : ℚ) / 2 ^ 52 = 2 ^ (-52 : ℤ) := by
    rw [zpow_neg, one_div]
    rfl
  rw [div_eq_mul_one_div, ← unit]
  by_cases low : rank < 2 ^ 52
  · rw [units, if_pos low, Nat.div_eq_of_lt low, Nat.mod_eq_of_lt low, magnitude, if_pos rfl,
      div_eq_mul_one_div, place, mul_assoc, ← zpow_add₀ nonzero]
    rfl
  · obtain ⟨exponent, split⟩ := Nat.exists_eq_succ_of_ne_zero (show rank / 2 ^ 52 ≠ 0 by omega)
    have power : ((exponent + 1 : ℕ) : ℤ) - 1023 = 52 + (exponent + -1074) := by
      omega
    have scaled : (2 : ℚ) ^ (((exponent + 1 : ℕ) : ℤ) - 1023) =
        2 ^ 52 * (2 ^ exponent * 2 ^ (-1074 : ℤ)) := by
      rw [power, zpow_add₀ nonzero, zpow_add₀ nonzero, zpow_natCast]
      rfl
    have front : (1 + ((rank % 2 ^ 52 : ℕ) : ℚ) / 2 ^ 52) * 2 ^ 52 =
        (2 ^ 52 + rank % 2 ^ 52 : ℕ) := by
      rw [add_mul, one_mul, div_mul_cancel₀ _ (pow_ne_zero 52 nonzero), Nat.cast_add, Nat.cast_pow]
      rfl
    have cast : ((Nat.pow 2 exponent : ℕ) : ℚ) = 2 ^ exponent := Nat.cast_pow 2 exponent
    rw [units, if_neg low, split, Nat.succ_sub_one, magnitude, if_neg (Nat.succ_ne_zero exponent),
      scaled, ← mul_assoc, front, Nat.cast_mul, cast, mul_assoc]

theorem fields_eq (word : UInt64) :
    exponentField word = word.toNat % 2 ^ 63 / 2 ^ 52 ∧
      fractionField word = word.toNat % 2 ^ 63 % 2 ^ 52 := by
  unfold exponentField fractionField
  omega

/-- The number of a word is the double of that word, in units. -/
theorem numberOf?_eq (word : UInt64) :
    numberOf? word = match ofBits word with
      | .finite negative rank => some ((scaled negative rank : ℚ) / 2 ^ 1074)
      | _ => none := by
  rcases fields_eq word with ⟨exponent, fraction⟩
  have bits := word.toNat_lt
  rw [numberOf?, ofBits, exponent, fraction]
  by_cases bound : word.toNat % 2 ^ 63 < rankLimit
  · have small : word.toNat % 2 ^ 63 / 2 ^ 52 ≠ 2047 := by
      unfold rankLimit at bound
      omega
    rw [if_neg small, dif_pos bound, magnitude_eq]
    by_cases negative : 2 ^ 63 ≤ word.toNat
    · simp only [negative, decide_true, scaled, if_true, Int.cast_neg, Int.cast_natCast, neg_div]
    · simp only [negative, decide_false, scaled, if_false, Int.cast_natCast, Bool.false_eq_true]
  · have great : word.toNat % 2 ^ 63 / 2 ^ 52 = 2047 := by
      unfold rankLimit at bound
      omega
    rw [if_pos great, dif_neg bound]
    split
    · rename_i finite
      split at finite
      · cases finite
      · cases finite
    · rfl

theorem quotient_eq_some {negative : Bool} {m d : Nat} {n : Int} (positive : 0 < d) :
    (if m % d = 0 then some ((if negative then -(m : Int) else m) / (d : Int)) else none) = some n ↔
      (if negative then -(m : Int) else m) = n * d := by
  have nonzero : (d : Int) ≠ 0 := by omega
  have divides : m % d = 0 ↔ (d : Int) ∣ if negative then -(m : Int) else m := by
    rw [← Nat.dvd_iff_mod_eq_zero, ← Int.natCast_dvd_natCast]
    split
    · exact Int.dvd_neg.symm
    · rfl
  constructor
  · intro found
    split at found
    · rename_i nothing
      rw [← Option.some.inj found, Int.ediv_mul_cancel (divides.mp nothing)]
    · cases found
  · intro same
    have nothing := divides.mpr (Dvd.intro_left n same.symm)
    rw [if_pos nothing, same, Int.mul_ediv_cancel n nonzero]

theorem toInt?_finite {negative : Bool} {rank : Fin rankLimit} {n : Int} :
    (finite negative rank).toInt? = some n ↔ scaled negative rank = n * 2 ^ 1074 := by
  have unit : ((2 ^ 1074 : ℕ) : Int) = 2 ^ 1074 := Int.natCast_pow 2 1074
  rw [toInt?, scaled, ← unit]
  exact quotient_eq_some (Nat.two_pow_pos 1074)

/-- A double is taken for just the integer that the number of its word is. -/
theorem toInt?_ofBits (word : UInt64) (n : Int) :
    (ofBits word).toInt? = some n ↔ numberOf? word = some (n : ℚ) := by
  rw [numberOf?_eq]
  cases ofBits word with
  | finite negative rank =>
      have nonzero : (2 : ℚ) ^ 1074 ≠ 0 := pow_ne_zero 1074 two_ne_zero
      have unit : (n : ℚ) * 2 ^ 1074 = ((n * 2 ^ 1074 : Int) : ℚ) := by
        rw [Int.cast_mul, Int.cast_pow]
        rfl
      rw [toInt?_finite, Option.some.injEq, div_eq_iff nonzero, unit, Int.cast_inj]
  | infinite negative => exact iff_of_false nofun nofun
  | nan => exact iff_of_false nofun nofun

end LetLang.Binary64
