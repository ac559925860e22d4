import LetLang.Binary64.Basic
import Mathlib.Order.Monotone.Basic
import Mathlib.Order.Lattice

/-!
Doubles are ordered as the numbers that they are: ranks go up with the magnitudes.
-/
namespace LetLang.Binary64

theorem units_succ (rank : Nat) : units rank < units (rank + 1) := by
  by_cases low : rank + 1 < 2 ^ 52
  · rw [units, units, if_pos (by omega), if_pos low]
    exact Nat.lt_succ_self rank
  by_cases last : rank + 1 = 2 ^ 52
  · rw [units, units, if_pos (by omega), if_neg (by omega), last]
    exact (Nat.lt_succ_self rank).trans_eq last
  have positive := Nat.two_pow_pos (rank / 2 ^ 52 - 1)
  rw [units, units, if_neg (by omega), if_neg low, Nat.pow_eq, Nat.pow_eq]
  by_cases carries : rank % 2 ^ 52 + 1 = 2 ^ 52
  · have next : (rank + 1) / 2 ^ 52 - 1 = rank / 2 ^ 52 - 1 + 1 := by omega
    have front : (rank + 1) % 2 ^ 52 = 0 := by omega
    have twice : 2 ^ (rank / 2 ^ 52 - 1 + 1) = 2 * 2 ^ (rank / 2 ^ 52 - 1) := Nat.pow_add_one'
    rw [next, front, Nat.add_zero, twice, ← Nat.mul_assoc]
    exact Nat.mul_lt_mul_of_pos_right (by omega) positive
  · have next : (rank + 1) / 2 ^ 52 = rank / 2 ^ 52 := by omega
    have front : (rank + 1) % 2 ^ 52 = rank % 2 ^ 52 + 1 := by omega
    rw [next, front]
    exact Nat.mul_lt_mul_of_pos_right (by omega) positive

theorem units_strictMono : StrictMono units := strictMono_nat_of_lt_succ units_succ

def lt (x y : Binary64) : Bool :=
  match x.place?, y.place? with
  | some a, some b => a < b
  | _, _ => false

variable {a b : Bool} {m n : Fin rankLimit}

theorem place_le_iff :
    (if a then -(m.val : Int) else m.val) ≤ (if b then -(n.val : Int) else n.val) ↔
      scaled a m ≤ scaled b n := by
  have zero : units 0 = 0 := rfl
  have order : ∀ {first second}, units first ≤ units second ↔ first ≤ second :=
    units_strictMono.le_iff_le
  have up := @order m n
  have down := @order n m
  have left := @order m 0
  have right := @order n 0
  unfold scaled
  cases a <;> cases b <;> simp only [if_true, if_false, Bool.false_eq_true] <;> omega

theorem le_finite : (finite a m).le (finite b n) = true ↔ scaled a m ≤ scaled b n := by
  simp only [le, place?, decide_eq_true_eq]
  exact place_le_iff

theorem lt_finite : (finite a m).lt (finite b n) = true ↔ scaled a m < scaled b n := by
  simp only [lt, place?, decide_eq_true_eq]
  rw [← not_le, ← not_le, place_le_iff]

end LetLang.Binary64
