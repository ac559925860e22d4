import LetLang.Text.Basic

/-! Signed integers of 128 bits: exact results, or none at all when they do not fit. -/
namespace LetLang

structure Int128 where
  toInt : Int
  lower : -2 ^ 127 ≤ toInt := by decide
  upper : toInt < 2 ^ 127 := by decide
  deriving DecidableEq

namespace Int128

def ofInt? (n : Int) : Option Int128 :=
  if bounds : -2 ^ 127 ≤ n ∧ n < 2 ^ 127 then some ⟨n, bounds.1, bounds.2⟩ else none

def add? (a b : Int128) : Option Int128 := ofInt? (a.toInt + b.toInt)

def sub? (a b : Int128) : Option Int128 := ofInt? (a.toInt - b.toInt)

def mul? (a b : Int128) : Option Int128 := ofInt? (a.toInt * b.toInt)

/-- Drops the fraction. A zero divisor is the caller's to refuse. -/
def div? (a b : Int128) : Option Int128 := ofInt? (a.toInt.tdiv b.toInt)

instance : LE Int128 := ⟨fun a b => a.toInt ≤ b.toInt⟩

instance (a b : Int128) : Decidable (a ≤ b) := inferInstanceAs (Decidable (a.toInt ≤ b.toInt))

instance : ToString Int128 := ⟨fun n => toString n.toInt⟩

@[ext] theorem ext {a b : Int128} (same : a.toInt = b.toInt) : a = b := by
  cases a; cases b; simp_all

theorem ofInt?_toInt (n : Int128) : ofInt? n.toInt = some n := by
  unfold ofInt?
  rw [dif_pos ⟨n.lower, n.upper⟩]

theorem ofInt?_eq_some {n : Int} {m : Int128} : ofInt? n = some m ↔ m.toInt = n := by
  constructor
  · intro found
    unfold ofInt? at found
    split at found <;> simp_all
    rw [← found]
  · rintro rfl
    exact ofInt?_toInt m

theorem ofInt?_eq_none {n : Int} : ofInt? n = none ↔ n < -2 ^ 127 ∨ 2 ^ 127 ≤ n := by
  unfold ofInt?
  split <;> simp <;> omega

def ofDigits? (negative : Bool) (digits : List Char) : Option Int128 := do
  let n ← Text.natural? digits
  ofInt? (if negative then -(n : Int) else n)

def ofText? (text : String) : Option Int128 :=
  match text.toList with
  | '-' :: digits => ofDigits? true digits
  | '+' :: digits => ofDigits? false digits
  | digits => ofDigits? false digits

end Int128
end LetLang
