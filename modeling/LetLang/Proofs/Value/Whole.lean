import LetLang.Proofs.Binary64.Order
import LetLang.Proofs.Binary64.Word
import LetLang.Proofs.Value.NormalForm
import Mathlib.Tactic.NormNum

/-!
The integers that values are. A kind of integers takes a value exactly where that is an integer
within its bounds, a double by the number of its word, and makes it just that integer. Nothing is
rounded on the way: also where the bounds of 128 bits are asked for as doubles, of which the upper
one is rounded up, no double lies between the two.
-/
namespace LetLang

namespace Binary64

def isIntegral : Binary64 → Bool
  | finite negative rank => (scaled negative rank).tmod (2 ^ 1074) = 0
  | _ => false

def truncated : Binary64 → Int
  | finite negative rank =>
    max (-2 ^ 127) (min ((scaled negative rank).tdiv (2 ^ 1074)) (2 ^ 127 - 1))
  | infinite negative => if negative then -2 ^ 127 else 2 ^ 127 - 1
  | nan => 0

/-- A double that can be converted to 128 bits: its guards are doubles themselves. -/
def isConvertible (x : Binary64) : Bool :=
  x.isFinite && x.isIntegral && (ofInt (-2 ^ 127)).le x && x.lt (ofInt (2 ^ 127 - 1))

end Binary64

namespace Value

inductive StandsFor : Value → Int → Prop
  | integer (n : Int128) : StandsFor (.integer n) n.toInt
  | double {word : UInt64} {n : Int} (exact : Binary64.numberOf? word = some (n : ℚ)) :
      StandsFor (.float (.ofBits word)) n

def isWholeNumber : Value → Bool
  | .integer _ => true
  | .float x => x.isFinite && x.isIntegral
  | _ => false

def converted? : Value → Option Int
  | .integer n => some n.toInt
  | .float x => if x.isConvertible then some x.truncated else none
  | _ => none

end Value

namespace Binary64

variable {negative : Bool} {rank : Fin rankLimit} {n : Int}

/-- The greatest integer of 128 bits is no double, and is rounded up to the first that is too
large. -/
theorem ofInt_bounds :
    ofInt (-2 ^ 127) = finite true ⟨1150 * 2 ^ 52, by decide⟩ ∧
      ofInt (2 ^ 127 - 1) = finite false ⟨1150 * 2 ^ 52, by decide⟩ := by
  decide +kernel

theorem scaled_bounds :
    scaled true (1150 * 2 ^ 52) = -2 ^ 127 * 2 ^ 1074 ∧
      scaled false (1150 * 2 ^ 52) = 2 ^ 127 * 2 ^ 1074 := by
  decide +kernel

theorem isIntegral_iff :
    (finite negative rank).isIntegral = true ↔ ∃ n, (finite negative rank).toInt? = some n := by
  simp only [isIntegral, decide_eq_true_eq, toInt?_finite]
  constructor
  · intro nothing
    exact ⟨_, (Int.tdiv_mul_cancel_of_tmod_eq_zero nothing).symm⟩
  · rintro ⟨n, same⟩
    rw [same, Int.mul_tmod_left]

/-- Between the guards lie just the doubles that are integers of 128 bits. -/
theorem isConvertible_iff (whole : (finite negative rank).toInt? = some n) :
    (finite negative rank).isConvertible = true ↔ -2 ^ 127 ≤ n ∧ n < 2 ^ 127 := by
  have unit : (0 : Int) < 2 ^ 1074 := pow_pos two_pos 1074
  have integral := isIntegral_iff.mpr ⟨n, whole⟩
  rw [isConvertible, isFinite, integral, ofInt_bounds.1, ofInt_bounds.2, Bool.true_and,
    Bool.true_and, Bool.and_eq_true, le_finite, lt_finite, scaled_bounds.1, scaled_bounds.2,
    toInt?_finite.mp whole, Int.mul_le_mul_right unit, Int.mul_lt_mul_right unit]

theorem isConvertible_of_fraction (fraction : (finite negative rank).toInt? = none) :
    (finite negative rank).isConvertible = false := by
  have apart : (finite negative rank).isIntegral = false := by
    rw [← Bool.not_eq_true, isIntegral_iff, fraction]
    exact nofun
  rw [isConvertible, apart, Bool.and_false, Bool.false_and, Bool.false_and]

theorem truncated_eq (whole : (finite negative rank).toInt? = some n) (low : -2 ^ 127 ≤ n)
    (high : n < 2 ^ 127) : (finite negative rank).truncated = n := by
  have unit : (2 : Int) ^ 1074 ≠ 0 := pow_ne_zero 1074 two_ne_zero
  rw [truncated, toInt?_finite.mp whole, Int.mul_tdiv_cancel n unit]
  omega

end Binary64

namespace Value

variable {value : Value} {n : Int} {m : Int128}

theorem asInteger?_float {x : Binary64} :
    (float x).asInteger? = some m ↔ x.toInt? = some m.toInt := by
  simp only [asInteger?, Option.bind_eq_some_iff, Int128.ofInt?_eq_some]
  constructor
  · rintro ⟨n, whole, same⟩
    rw [whole, same]
  · intro whole
    exact ⟨m.toInt, whole, rfl⟩

theorem standsFor_float {x : Binary64} : (float x).StandsFor n ↔ x.toInt? = some n := by
  constructor
  · generalize same : float x = value
    rintro (_ | exact)
    · cases same
    · cases same
      exact (Binary64.toInt?_ofBits _ _).mpr exact
  · intro whole
    rw [← Binary64.ofBits_toBits x] at whole ⊢
    exact .double ((Binary64.toInt?_ofBits _ _).mp whole)

theorem asInteger?_eq_some : value.asInteger? = some m ↔ value.StandsFor m.toInt := by
  cases value with
  | integer k =>
      rw [asInteger?_integer, Option.some.injEq]
      constructor
      · rintro rfl
        exact .integer k
      · generalize same : m.toInt = n
        rintro ⟨⟩
        exact (Int128.ext same).symm
  | float x => rw [asInteger?_float, standsFor_float]
  | _ => exact iff_of_false nofun nofun

theorem StandsFor.asInteger? (stands : value.StandsFor n) (low : -2 ^ 127 ≤ n)
    (high : n < 2 ^ 127) : value.asInteger? = some ⟨n, low, high⟩ :=
  asInteger?_eq_some.mpr stands

theorem StandsFor.unique {k : Int} (stands : value.StandsFor n) (other : value.StandsFor k) :
    k = n := by
  cases value with
  | integer m =>
      cases stands
      cases other
      rfl
  | float x =>
      have whole := standsFor_float.mp stands
      rw [standsFor_float.mp other, Option.some.injEq] at whole
      exact whole
  | _ => cases stands

theorem converted?_finite (negative : Bool) (rank : Fin Binary64.rankLimit) :
    (float (.finite negative rank)).converted? =
      (float (.finite negative rank)).asInteger?.map Int128.toInt := by
  rw [converted?, asInteger?]
  cases whole : (Binary64.finite negative rank).toInt? with
  | none =>
      rw [Binary64.isConvertible_of_fraction whole]
      rfl
  | some n =>
      rw [Option.bind_some, Int128.ofInt?]
      by_cases within : -2 ^ 127 ≤ n ∧ n < 2 ^ 127
      · rw [if_pos ((Binary64.isConvertible_iff whole).mpr within), dif_pos within,
          Binary64.truncated_eq whole within.1 within.2]
        rfl
      · rw [if_neg (mt (Binary64.isConvertible_iff whole).mp within), dif_neg within]
        rfl

theorem converted?_eq (value : Value) : value.converted? = value.asInteger?.map Int128.toInt := by
  cases value with
  | float x =>
      cases x with
      | finite negative rank => exact converted?_finite negative rank
      | _ => rfl
  | _ => rfl

end Value

namespace Kind

variable {kind : Kind} {least greatest : Int128} {value : Value} {n : Int}

theorem accepts_iff_asInteger? (bounds : kind.bounds? = some (.integer least greatest)) :
    kind.accepts value = true ↔
      ∃ m, value.asInteger? = some m ∧ least.toInt ≤ m.toInt ∧ m.toInt ≤ greatest.toInt := by
  simp only [accepts, bounds]
  cases value.asInteger? with
  | none => simp
  | some m =>
      simp only [Bool.and_eq_true, decide_eq_true_eq, Option.some.injEq, exists_eq_left']
      rfl

theorem accepts_iff_standsFor (bounds : kind.bounds? = some (.integer least greatest)) :
    kind.accepts value = true ↔
      ∃ n, value.StandsFor n ∧ least.toInt ≤ n ∧ n ≤ greatest.toInt := by
  rw [accepts_iff_asInteger? bounds]
  constructor
  · rintro ⟨m, whole, within⟩
    exact ⟨m.toInt, Value.asInteger?_eq_some.mp whole, within⟩
  · rintro ⟨n, stands, low, high⟩
    have whole := stands.asInteger? (least.lower.trans low) (high.trans_lt greatest.upper)
    exact ⟨_, whole, low, high⟩

theorem normalise_of_accepts (bounds : kind.bounds? = some (.integer least greatest))
    (fits : kind.accepts value = true) :
    ∃ m, kind.normalise value = .integer m ∧ value.StandsFor m.toInt := by
  rcases (accepts_iff_asInteger? bounds).mp fits with ⟨m, whole, _⟩
  refine ⟨m, ?_, Value.asInteger?_eq_some.mp whole⟩
  rw [normalise, bounds, whole]

theorem isWholeNumber_of_asInteger? {m : Int128} (whole : value.asInteger? = some m) :
    value.isWholeNumber = true := by
  cases value with
  | integer k => rfl
  | float x =>
      have found := Value.asInteger?_float.mp whole
      cases x with
      | finite negative rank => exact Binary64.isIntegral_iff.mpr ⟨_, found⟩
      | _ => cases found
  | _ => cases whole

/-- The checks one after another, of which the first one is made twice. -/
theorem accepts_eq_guards (bounds : kind.bounds? = some (.integer least greatest)) :
    kind.accepts value = (value.isWholeNumber &&
      value.converted?.any fun n => least.toInt ≤ n && n ≤ greatest.toInt) := by
  rw [Bool.eq_iff_iff, accepts_iff_asInteger? bounds, Value.converted?_eq]
  cases whole : value.asInteger? with
  | none => simp
  | some m =>
      simp [isWholeNumber_of_asInteger? whole]

theorem i64_bounds? :
    i64.bounds? = some (.integer { toInt := -2 ^ 63 } { toInt := 2 ^ 63 - 1 }) := rfl

theorem u64_bounds? : u64.bounds? = some (.integer { toInt := 0 } { toInt := 2 ^ 64 - 1 }) := rfl

/-- A kind of integers takes the values that stand for an integer within its bounds, gives them the
form of just that integer, and refuses all others. The guards of the program, with bounds that are
doubles, decide the same. -/
theorem accepts_exactly (value : Value) :
    (∀ {kind : Kind} {least greatest : Int128}, kind.bounds? = some (.integer least greatest) →
      (kind.accepts value = true ↔
        ∃ n, value.StandsFor n ∧ least.toInt ≤ n ∧ n ≤ greatest.toInt) ∧
      (∀ n, value.StandsFor n → kind.accepts value = true →
        ∃ m, kind.normalise value = .integer m ∧ m.toInt = n) ∧
      ((∀ n, ¬value.StandsFor n) → kind.accepts value = false) ∧
      kind.accepts value = (value.isWholeNumber &&
        value.converted?.any fun n => least.toInt ≤ n && n ≤ greatest.toInt)) ∧
    (value.StandsFor (2 ^ 63) → i64.accepts value = false ∧ u64.accepts value = true) ∧
    (value.StandsFor (2 ^ 64) → u64.accepts value = false) := by
  have judges {kind : Kind} {least greatest : Int128}
      (bounds : kind.bounds? = some (.integer least greatest)) {n : Int}
      (stands : value.StandsFor n) :
      kind.accepts value = true ↔ least.toInt ≤ n ∧ n ≤ greatest.toInt := by
    rw [accepts_iff_standsFor bounds]
    constructor
    · rintro ⟨k, other, within⟩
      rw [← stands.unique other]
      exact within
    · exact fun within => ⟨n, stands, within⟩
  refine ⟨fun bounds => ⟨accepts_iff_standsFor bounds, ?_, ?_, accepts_eq_guards bounds⟩, ?_, ?_⟩
  · intro n stands fits
    rcases normalise_of_accepts bounds fits with ⟨m, normal, whole⟩
    exact ⟨m, normal, stands.unique whole⟩
  · intro apart
    rw [← Bool.not_eq_true, accepts_iff_standsFor bounds]
    rintro ⟨n, stands, _⟩
    exact apart n stands
  · intro stands
    rw [← Bool.not_eq_true, judges i64_bounds? stands, judges u64_bounds? stands]
    decide
  · intro stands
    rw [← Bool.not_eq_true, judges u64_bounds? stands]
    decide

theorem accepts_powers :
    (Value.float (.ofBits 0x43E0000000000000)).StandsFor (2 ^ 63) ∧
    i64.accepts (.float (.ofBits 0x43E0000000000000)) = false ∧
    u64.accepts (.float (.ofBits 0x43E0000000000000)) = true ∧
    u64.normalise (.float (.ofBits 0x43E0000000000000)) = .integer { toInt := 2 ^ 63 } ∧
    u64.accepts (.float (.ofBits 0x43F0000000000000)) = false := by
  have first : (Value.float (.ofBits 0x43E0000000000000)).StandsFor (2 ^ 63) := by
    have bits : (0x43E0000000000000 : UInt64).toNat = 0x43E0000000000000 := rfl
    refine .double ?_
    norm_num [Binary64.numberOf?, Binary64.magnitude, Binary64.exponentField,
      Binary64.fractionField, bits]
  have second : (Value.float (.ofBits 0x43F0000000000000)).StandsFor (2 ^ 64) := by
    have bits : (0x43F0000000000000 : UInt64).toNat = 0x43F0000000000000 := rfl
    refine .double ?_
    norm_num [Binary64.numberOf?, Binary64.magnitude, Binary64.exponentField,
      Binary64.fractionField, bits]
  rcases accepts_exactly (.float (.ofBits 0x43E0000000000000)) with ⟨integers, bounds, _⟩
  rcases bounds first with ⟨refused, taken⟩
  rcases (integers u64_bounds?).2.1 _ first taken with ⟨m, normal, same⟩
  have whole : m = { toInt := 2 ^ 63 } := Int128.ext same
  rw [whole] at normal
  exact ⟨first, refused, taken, normal, (accepts_exactly _).2.2 second⟩

end Kind

end LetLang
