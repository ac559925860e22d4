import LetLang.Proofs.Binary64.Nearest
import LetLang.Proofs.Binary64.Order
import LetLang.Proofs.Binary64.Word
import Mathlib.Algebra.Order.Field.Basic
import Mathlib.Tactic.Linarith

/-!
Rounding is to the nearest magnitude, and to the one with an even last bit where two are equally
near. Past the greatest finite magnitude the ranks go on as if exponents had no bound, so that a
number rounds to no finite double where its rank is past the last one.
-/
namespace LetLang.Binary64

def distance (num den rank : Nat) : Nat := ((num : Int) - (units rank * den : Nat)).natAbs

/-- The number at a rank, by the fields of the interchange format. -/
def numberAt (rank : Nat) : ℚ := magnitude (rank / 2 ^ 52) (rank % 2 ^ 52)

/-- No other rank is nearer to a number, and one that is as near leaves the even rank. -/
def NearestTo (number : ℚ) (rank : Nat) : Prop :=
  ∀ other, other ≠ rank → |number - numberAt rank| < |number - numberAt other| ∨
    |number - numberAt rank| = |number - numberAt other| ∧ rank % 2 = 0

variable {num den shift significand rank other : Nat}

theorem units_of_significand (normal : shift = 0 ∨ 2 ^ 52 ≤ significand)
    (small : significand ≤ 2 ^ 53) :
    units (shift * 2 ^ 52 + significand) = significand * Nat.pow 2 shift := by
  by_cases low : significand < 2 ^ 52
  · obtain rfl : shift = 0 := by omega
    rw [Nat.zero_mul, Nat.zero_add, units, if_pos low]
    exact (Nat.mul_one significand).symm
  · rw [units, if_neg (by omega)]
    by_cases carried : significand = 2 ^ 53
    · have exponent : (shift * 2 ^ 52 + significand) / 2 ^ 52 - 1 = shift + 1 := by omega
      have fraction : (shift * 2 ^ 52 + significand) % 2 ^ 52 = 0 := by omega
      rw [exponent, fraction, carried, Nat.pow_eq, Nat.pow_eq, Nat.pow_succ']
      omega
    · have exponent : (shift * 2 ^ 52 + significand) / 2 ^ 52 - 1 = shift := by omega
      have fraction : 2 ^ 52 + (shift * 2 ^ 52 + significand) % 2 ^ 52 = significand := by omega
      rw [exponent, fraction]

/-- At a half the even one of the two neighbours is taken. -/
theorem even_of_half (positive : 0 < den)
    (half : 2 * num = 2 * (roundQuotient num den * den) + den ∨
      2 * num + den = 2 * (roundQuotient num den * den)) : roundQuotient num den % 2 = 0 := by
  have parts := Nat.div_add_mod num den
  have small := Nat.mod_lt num positive
  rw [Nat.mul_comm] at parts
  unfold roundQuotient at half ⊢
  dsimp only at half ⊢
  split at half
  · omega
  · split at half
    · rw [Nat.add_mul] at half
      omega
    · rw [if_neg ‹_›, if_neg ‹_›]
      omega

/-- A number rounded to a significand of steps of some width: no more than half a step is rounded
away, and nothing is rounded up to the first significand of an exponent. -/
structure Rounded (num width shift significand : Nat) : Prop where
  above : 2 * num ≤ 2 * (significand * width) + width
  below : 2 * (significand * width) ≤ 2 * num + width
  even : 2 * num = 2 * (significand * width) + width ∨
    2 * num + width = 2 * (significand * width) → significand % 2 = 0
  small : significand ≤ 2 ^ 53
  normal : shift = 0 ∨ 2 ^ 52 ≤ significand ∧ 2 ^ 52 * width ≤ num

/-- The bits that are kept are those of the quotient, but for a carry. -/
theorem quotient_bounds (positive : 0 < den) (exponent : (num / den).log2 - 52 = shift) :
    num < 2 ^ 53 * (den * Nat.pow 2 shift) ∧
      (shift = 0 ∨ 2 ^ 52 * (den * Nat.pow 2 shift) ≤ num) := by
  have scaled : ∀ bits, 2 ^ bits * (den * Nat.pow 2 shift) = 2 ^ (bits + shift) * den := by
    intro bits
    rw [Nat.pow_eq, Nat.mul_left_comm, Nat.pow_add, Nat.mul_comm]
  rw [scaled, scaled]
  constructor
  · have bound : num / den < 2 ^ (53 + shift) :=
      Nat.lt_of_lt_of_le Nat.lt_log2_self (Nat.pow_le_pow_right (by decide) (by omega))
    exact (Nat.div_lt_iff_lt_mul positive).mp bound
  · refine Decidable.or_iff_not_imp_left.mpr fun shifted => ?_
    have bits : 52 + shift = (num / den).log2 := by omega
    rw [bits]
    refine (Nat.le_div_iff_mul_le positive).mp (Nat.log2_self_le ?_)
    intro none
    rw [none, Nat.log2_zero] at bits
    omega

theorem rounded_nearestRank (num : Nat) (positive : 0 < den) :
    ∃ shift significand, nearestRank num den = shift * 2 ^ 52 + significand ∧
      Rounded num (den * Nat.pow 2 shift) shift significand := by
  refine ⟨(num / den).log2 - 52, _, rfl, ?_⟩
  generalize exponent : (num / den).log2 - 52 = shift
  have wide : 0 < den * Nat.pow 2 shift := Nat.mul_pos positive (Nat.two_pow_pos shift)
  have half := roundQuotient_within_half num wide
  have even := @even_of_half num _ wide
  have bounds := quotient_bounds positive exponent
  generalize den * Nat.pow 2 shift = width at *
  generalize roundQuotient num width = significand at *
  refine ⟨half.2, half.1, even, ?_, ?_⟩
  · refine Nat.le_of_lt_succ (Nat.lt_of_mul_lt_mul_right (a := width) ?_)
    rw [Nat.succ_mul]
    omega
  · refine bounds.2.imp_right fun reached => ⟨?_, reached⟩
    refine Nat.le_of_lt_succ (Nat.lt_of_mul_lt_mul_right (a := width) ?_)
    rw [Nat.succ_mul significand]
    omega

variable {width : Nat}

theorem units_mul (rounded : Rounded num width shift significand)
    (spread : width = den * Nat.pow 2 shift) :
    units (shift * 2 ^ 52 + significand) * den = significand * width := by
  rw [units_of_significand (rounded.normal.imp_right And.left) rounded.small, spread,
    Nat.mul_assoc, Nat.mul_comm den]

theorem Rounded.units_next (rounded : Rounded num width shift significand) :
    (significand + 1) * Nat.pow 2 shift ≤ units (shift * 2 ^ 52 + significand + 1) := by
  by_cases full : significand = 2 ^ 53
  · have next : shift * 2 ^ 52 + significand + 1 = (shift + 1) * 2 ^ 52 + (2 ^ 52 + 1) := by omega
    rw [next, units_of_significand (.inr (by decide)) (by decide), full, Nat.pow_eq, Nat.pow_eq,
      Nat.pow_succ']
    have some := Nat.two_pow_pos shift
    omega
  · have normal : shift = 0 ∨ 2 ^ 52 ≤ significand + 1 :=
      rounded.normal.imp_right fun reached => Nat.le_succ_of_le reached.1
    have small := rounded.small
    rw [Nat.add_assoc, units_of_significand normal (by omega)]

theorem Rounded.gap_above (rounded : Rounded num width shift significand)
    (spread : width = den * Nat.pow 2 shift)
    (beyond : shift * 2 ^ 52 + significand < other) :
    significand * width + width ≤ units other * den := by
  have next := rounded.units_next.trans (units_strictMono.monotone beyond)
  calc
    significand * width + width = (significand + 1) * Nat.pow 2 shift * den := by
      rw [spread, ← Nat.succ_mul, Nat.mul_assoc, Nat.mul_comm den]
    _ ≤ units other * den := Nat.mul_le_mul_right den next

/-- The magnitudes below lie a step away too, unless an exponent begins here: then the number is on
the other side of all of them. -/
theorem Rounded.gap_below (rounded : Rounded num width shift significand) (positive : 0 < den)
    (spread : width = den * Nat.pow 2 shift)
    (beneath : other < shift * 2 ^ 52 + significand) :
    units other * den + width ≤ significand * width ∨
      units other * den < significand * width ∧ significand * width ≤ num := by
  by_cases begins : shift ≠ 0 ∧ significand = 2 ^ 52
  · right
    obtain ⟨_, reached⟩ := rounded.normal.resolve_left begins.1
    rw [← units_mul rounded spread]
    refine ⟨Nat.mul_lt_mul_of_pos_right (units_strictMono beneath) positive, ?_⟩
    rw [units_mul rounded spread, begins.2]
    exact reached
  · left
    have small := rounded.small
    obtain ⟨previous, rfl⟩ : ∃ previous, significand = previous + 1 := by
      refine Nat.exists_eq_add_one.mpr ?_
      rcases rounded.normal with rfl | reached
      · omega
      · omega
    have normal : shift = 0 ∨ 2 ^ 52 ≤ previous := by
      rcases rounded.normal with none | reached
      · exact .inl none
      · omega
    have below : units other ≤ previous * Nat.pow 2 shift := by
      rw [← units_of_significand normal (by omega)]
      exact units_strictMono.monotone (by omega)
    calc
      units other * den + width ≤ previous * Nat.pow 2 shift * den + width :=
        Nat.add_le_add_right (Nat.mul_le_mul_right den below) width
      _ = (previous + 1) * width := by
        rw [spread, Nat.succ_mul, Nat.mul_assoc, Nat.mul_comm den]

/-- Nothing is nearer than the rounded magnitude. -/
theorem distance_nearestRank (num : Nat) (positive : 0 < den)
    (apart : other ≠ nearestRank num den) :
    distance num den (nearestRank num den) < distance num den other ∨
      distance num den (nearestRank num den) = distance num den other ∧
        nearestRank num den % 2 = 0 := by
  obtain ⟨shift, significand, made, rounded⟩ := rounded_nearestRank num positive
  have even := rounded.even
  have above := rounded.above
  have below := rounded.below
  have parity : (shift * 2 ^ 52 + significand) % 2 = significand % 2 := by omega
  rw [made] at apart ⊢
  simp only [distance, units_mul rounded rfl, parity]
  rcases Nat.lt_or_gt_of_ne apart with beneath | beyond
  · have gap := rounded.gap_below positive rfl beneath
    generalize den * Nat.pow 2 shift = width at *
    omega
  · have gap := rounded.gap_above rfl beyond
    generalize den * Nat.pow 2 shift = width at *
    omega

theorem numberAt_eq (rank : Nat) : numberAt rank = (units rank : ℚ) / 2 ^ 1074 := magnitude_eq rank

theorem numberAt_strictMono : StrictMono numberAt := by
  intro first second less
  have unit : (0 : ℚ) < 2 ^ 1074 := pow_pos two_pos 1074
  rw [numberAt_eq, numberAt_eq, div_lt_div_iff_of_pos_right unit, Nat.cast_lt]
  exact units_strictMono less

theorem abs_sub_numberAt (num : Nat) (positive : 0 < den) (rank : Nat) :
    |(num : ℚ) / (den * 2 ^ 1074) - numberAt rank| =
      (distance num den rank : ℚ) / (den * 2 ^ 1074) := by
  have unit : (0 : ℚ) < 2 ^ 1074 := pow_pos two_pos 1074
  have scale : (0 : ℚ) < den := Nat.cast_pos.mpr positive
  have same : numberAt rank = ((units rank * den : Nat) : ℚ) / (den * 2 ^ 1074) := by
    rw [numberAt_eq, Nat.cast_mul, mul_comm (den : ℚ), mul_div_mul_right _ _ scale.ne']
  rw [same, ← sub_div, abs_div, abs_of_pos (mul_pos scale unit), distance, Nat.cast_natAbs,
    Int.cast_abs, Int.cast_sub, Int.cast_natCast, Int.cast_natCast]

/-- The rank that a quotient of units is rounded to is the one nearest to the number. -/
theorem nearestTo_nearestRank (num : Nat) (positive : 0 < den) :
    NearestTo ((num : ℚ) / (den * 2 ^ 1074)) (nearestRank num den) := by
  intro other apart
  have unit : (0 : ℚ) < 2 ^ 1074 := pow_pos two_pos 1074
  have scale : (0 : ℚ) < den * 2 ^ 1074 := mul_pos (Nat.cast_pos.mpr positive) unit
  rw [abs_sub_numberAt num positive, abs_sub_numberAt num positive,
    div_lt_div_iff_of_pos_right scale, div_left_inj' scale.ne', Nat.cast_lt, Nat.cast_inj]
  exact distance_nearestRank num positive apart

/-- Between two ranks that are as near there is no other, so they are not both even. -/
theorem NearestTo.le {number : ℚ} {first second : Nat} (one : NearestTo number first)
    (two : NearestTo number second) : second ≤ first := by
  by_contra! less
  have equal : |number - numberAt first| = |number - numberAt second| ∧ first % 2 = 0 ∧
      second % 2 = 0 := by
    rcases one second less.ne' with nearer | ⟨equal, even⟩
    · rcases two first less.ne with nearer' | ⟨equal, _⟩
      · exact absurd nearer (lt_asymm nearer')
      · exact absurd nearer equal.not_gt
    · rcases two first less.ne with nearer' | ⟨_, even'⟩
      · exact absurd nearer' equal.not_gt
      · exact ⟨equal, even, even'⟩
  have low : numberAt first < numberAt (first + 1) := numberAt_strictMono (Nat.lt_succ_self first)
  have high : numberAt (first + 1) < numberAt second := numberAt_strictMono (by omega)
  have centred : number - numberAt first = -(number - numberAt second) := by
    rcases abs_eq_abs.mp equal.1 with same | opposite
    · linarith
    · exact opposite
  -- The number is halfway between the two, and an odd rank in between is nearer than both.
  have nearer : |number - numberAt (first + 1)| < |number - numberAt first| := by
    rw [abs_of_pos (show 0 < number - numberAt first by linarith), abs_lt]
    constructor
    · linarith
    · linarith
  rcases one (first + 1) (Nat.succ_ne_self first) with less' | ⟨same, _⟩
  · exact lt_asymm nearer less'
  · exact nearer.ne' same

theorem NearestTo.unique {number : ℚ} {first second : Nat} (one : NearestTo number first)
    (two : NearestTo number second) : first = second :=
  le_antisymm (two.le one) (one.le two)

theorem nearestTo_places (coefficient places : Nat) :
    NearestTo ((coefficient : ℚ) / 10 ^ places)
      (nearestRank (coefficient * 2 ^ 1074) (Nat.pow 10 places)) := by
  have unit : (2 : ℚ) ^ 1074 ≠ 0 := (pow_pos two_pos 1074).ne'
  have positive : 0 < Nat.pow 10 places := Nat.pow_pos (by decide)
  have near := nearestTo_nearestRank (coefficient * 2 ^ 1074) positive
  have same : ((coefficient * 2 ^ 1074 : Nat) : ℚ) / ((Nat.pow 10 places : Nat) * 2 ^ 1074) =
      (coefficient : ℚ) / 10 ^ places := by
    rw [Nat.pow_eq, Nat.cast_mul, Nat.cast_pow, Nat.cast_pow, Nat.cast_ofNat, Nat.cast_ofNat,
      mul_div_mul_right _ _ unit]
  rwa [same] at near

end LetLang.Binary64
