import LetLang.Binary64.Basic

/-!
Which magnitude is nearest depends on the quotient alone, not on how it is written. A number read
from a coefficient and a power of ten is therefore the nearest one, also where the power settles the
result and is not written out.
-/
namespace LetLang.Binary64

theorem roundQuotient_mul_right (num den : Nat) {factor : Nat} (positive : 0 < factor) :
    roundQuotient (num * factor) (den * factor) = roundQuotient num den := by
  have twice : 2 * (num % den * factor) = 2 * (num % den) * factor := (Nat.mul_assoc _ _ _).symm
  simp only [roundQuotient, Nat.mul_div_mul_right num den positive, Nat.mul_mod_mul_right, twice,
    Nat.mul_lt_mul_right positive]

theorem nearestRank_mul_right (num den : Nat) {factor : Nat} (positive : 0 < factor) :
    nearestRank (num * factor) (den * factor) = nearestRank num den := by
  rw [nearestRank, nearestRank, Nat.mul_div_mul_right num den positive, Nat.mul_right_comm den,
    roundQuotient_mul_right _ _ positive]

theorem nearestRank_congr {num den other below : Nat} (positive : 0 < den) (positive' : 0 < below)
    (same : num * below = other * den) : nearestRank num den = nearestRank other below := by
  calc
    nearestRank num den = nearestRank (num * below) (den * below) :=
      (nearestRank_mul_right num den positive').symm
    _ = nearestRank (other * den) (below * den) := by rw [same, Nat.mul_comm den below]
    _ = nearestRank other below := nearestRank_mul_right other below positive

theorem nearestRank_eq_zero {num den : Nat} (small : 2 * num < den) : nearestRank num den = 0 := by
  have below : num < den := by omega
  rw [nearestRank, Nat.div_eq_of_lt below]
  simp [roundQuotient, Nat.div_eq_of_lt below, Nat.mod_eq_of_lt below, small]

theorem rankLimit_le_nearestRank {num den : Nat} (large : 2 ^ 2099 ≤ num / den) :
    rankLimit ≤ nearestRank num den := by
  have bits : 2099 ≤ (num / den).log2 := (Nat.le_log2 (by omega)).mpr large
  calc
    rankLimit ≤ 2047 * 2 ^ 52 := by decide
    _ ≤ ((num / den).log2 - 52) * 2 ^ 52 := Nat.mul_le_mul_right _ (by omega)
    _ ≤ nearestRank num den := Nat.le_add_right _ _

theorem round_of_nearest (negative : Bool) {num den : Nat} {rank : Fin rankLimit}
    (nearest : nearestRank num den = rank) : round negative num den = .finite negative rank := by
  rw [round, dif_pos (nearest ▸ rank.isLt)]
  exact congrArg (finite negative) (Fin.ext nearest)

theorem zero_eq_round (negative : Bool) {num den : Nat} (small : 2 * num < den) :
    zero negative = round negative num den :=
  (round_of_nearest negative (nearestRank_eq_zero small)).symm

theorem round_of_past (negative : Bool) {num den : Nat}
    (past : rankLimit ≤ nearestRank num den) :
    round negative num den = .infinite negative := by
  rw [round, dif_neg (Nat.not_lt.mpr past)]

theorem five_pow_pos : 0 < 5 ^ 1074 := @Nat.pow_pos 5 1074 (by decide)

theorem ten_pow : Nat.pow 10 1074 = 2 ^ 1074 * 5 ^ 1074 := by decide +kernel

theorem ten_pow_add (m n : Nat) : Nat.pow 10 (m + n) = Nat.pow 10 n * Nat.pow 10 m :=
  (Nat.pow_add 10 m n).trans (Nat.mul_comm _ _)

theorem large_of_exponent {coefficient place : Nat} (some : coefficient ≠ 0)
    (past : 1474 < place) : 2 ^ 2099 ≤ coefficient * Nat.pow 10 place / 5 ^ 1074 := by
  have room : 2 ^ 2099 * 5 ^ 1074 ≤ Nat.pow 10 1475 := by decide +kernel
  have grows : Nat.pow 10 1475 ≤ Nat.pow 10 place := Nat.pow_le_pow_right (by decide) past
  refine (Nat.le_div_iff_mul_le five_pow_pos).mpr ?_
  calc
    2 ^ 2099 * 5 ^ 1074 ≤ Nat.pow 10 1475 := room
    _ ≤ Nat.pow 10 place := grows
    _ ≤ coefficient * Nat.pow 10 place := Nat.le_mul_of_pos_left _ (Nat.pos_of_ne_zero some)

theorem lt_ten_pow (coefficient : Nat) : coefficient < Nat.pow 10 (coefficient.log2 / 3 + 1) := by
  calc
    coefficient < 2 ^ (coefficient.log2 + 1) := Nat.lt_log2_self
    _ ≤ 2 ^ (3 * (coefficient.log2 / 3 + 1)) := Nat.pow_le_pow_right (by decide) (by omega)
    _ = 8 ^ (coefficient.log2 / 3 + 1) := by rw [Nat.pow_mul]
    _ ≤ Nat.pow 10 (coefficient.log2 / 3 + 1) := Nat.pow_le_pow_left (by decide) _

theorem small_of_places {coefficient down : Nat} (past : coefficient.log2 / 3 + 400 < down) :
    2 * (coefficient * 2 ^ 1074) < Nat.pow 10 (down + 1) := by
  have room : 2 * 2 ^ 1074 ≤ Nat.pow 10 400 := by decide +kernel
  calc
    2 * (coefficient * 2 ^ 1074) = 2 * 2 ^ 1074 * coefficient := by
      rw [Nat.mul_comm coefficient, Nat.mul_assoc]
    _ < Nat.pow 10 400 * Nat.pow 10 (coefficient.log2 / 3 + 1) :=
      Nat.mul_lt_mul_of_le_of_lt room (lt_ten_pow coefficient) (Nat.pow_pos (by decide))
    _ = Nat.pow 10 (coefficient.log2 / 3 + 1 + 400) := (ten_pow_add _ 400).symm
    _ ≤ Nat.pow 10 (down + 1) := Nat.pow_le_pow_right (by decide) (by omega)

theorem ofScientific_places (negative : Bool) (coefficient places : Nat) :
    ofScientific negative coefficient (-(places : Int)) =
      round negative (coefficient * 2 ^ 1074) (Nat.pow 10 places) := by
  cases places with
  | zero =>
      show (if coefficient = 0 then zero negative
        else if 400 < 0 then .infinite negative
        else round negative (coefficient * 1 * 2 ^ 1074) 1) = _
      by_cases none : coefficient = 0
      · rw [if_pos none, none, Nat.zero_mul]
        exact zero_eq_round negative (by decide)
      · rw [if_neg none, if_neg (by decide), Nat.mul_one]
  | succ down =>
      show (if coefficient.log2 / 3 + 400 < down then zero negative
        else round negative (coefficient * 2 ^ 1074) (Nat.pow 10 (down + 1))) = _
      by_cases past : coefficient.log2 / 3 + 400 < down
      · rw [if_pos past]
        exact zero_eq_round negative (small_of_places past)
      · rw [if_neg past]

theorem ofScientific_ofNat (negative : Bool) {coefficient up : Nat} {rank : Fin rankLimit}
    (nearest : nearestRank (coefficient * Nat.pow 10 (1074 + up)) (5 ^ 1074) = rank) :
    ofScientific negative coefficient (.ofNat up) = .finite negative rank := by
  have positive := five_pow_pos
  rw [ofScientific]
  by_cases none : coefficient = 0
  · rw [none, Nat.zero_mul] at nearest
    rw [if_pos none, @zero_eq_round negative 0 _ positive, round_of_nearest negative nearest]
  · have finite : ¬400 < up := by
      intro past
      have large := rankLimit_le_nearestRank
        (@large_of_exponent coefficient (1074 + up) none (by omega))
      rw [nearest] at large
      exact absurd large (Nat.not_le.mpr rank.isLt)
    rw [if_neg none, if_neg finite]
    refine round_of_nearest negative (Eq.trans ?_ nearest)
    refine nearestRank_congr Nat.one_pos positive ?_
    calc
      coefficient * Nat.pow 10 up * 2 ^ 1074 * 5 ^ 1074
        = coefficient * Nat.pow 10 up * (2 ^ 1074 * 5 ^ 1074) := Nat.mul_assoc _ _ _
      _ = coefficient * Nat.pow 10 up * Nat.pow 10 1074 := by rw [ten_pow]
      _ = coefficient * Nat.pow 10 (1074 + up) := by rw [ten_pow_add, Nat.mul_assoc]
      _ = coefficient * Nat.pow 10 (1074 + up) * 1 := (Nat.mul_one _).symm

theorem ofScientific_below (negative : Bool) {coefficient place places : Nat}
    {rank : Fin rankLimit} (split : place + places = 1074)
    (nearest : nearestRank (coefficient * Nat.pow 10 place) (5 ^ 1074) = rank) :
    ofScientific negative coefficient (-(places : Int)) = .finite negative rank := by
  have powers := ten_pow_add places place
  rw [Nat.add_comm, split] at powers
  rw [ofScientific_places]
  refine round_of_nearest negative (Eq.trans ?_ nearest)
  refine nearestRank_congr (Nat.pow_pos (by decide)) five_pow_pos ?_
  calc
    coefficient * 2 ^ 1074 * 5 ^ 1074
      = coefficient * (2 ^ 1074 * 5 ^ 1074) := Nat.mul_assoc _ _ _
    _ = coefficient * Nat.pow 10 1074 := by rw [ten_pow]
    _ = coefficient * (Nat.pow 10 place * Nat.pow 10 places) := by rw [powers]
    _ = coefficient * Nat.pow 10 place * Nat.pow 10 places := (Nat.mul_assoc _ _ _).symm

/-- A coefficient and a power of ten are read as the magnitude nearest to them. -/
theorem ofScientific_of_nearest (negative : Bool) {coefficient place : Nat} {rank : Fin rankLimit}
    (nearest : nearestRank (coefficient * Nat.pow 10 place) (5 ^ 1074) = rank) :
    ofScientific negative coefficient ((place : Int) - 1074) = .finite negative rank := by
  by_cases whole : 1074 ≤ place
  · obtain ⟨up, rfl⟩ := Nat.exists_eq_add_of_le whole
    rw [show ((1074 + up : Nat) : Int) - 1074 = Int.ofNat up by
      rw [Int.ofNat_eq_natCast]
      omega]
    exact ofScientific_ofNat negative nearest
  · obtain ⟨places, split⟩ := Nat.exists_eq_add_of_le (Nat.le_of_not_le whole)
    rw [show (place : Int) - 1074 = -(places : Int) by omega]
    exact ofScientific_below negative split.symm nearest

end LetLang.Binary64
