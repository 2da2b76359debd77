import Mathlib.Data.Int.Log
import Mathlib.Data.Rat.Floor
import Mathlib.Tactic.FieldSimp
import Mathlib.Tactic.Linarith
import Mathlib.Tactic.Positivity
import Mathlib.Tactic.Ring
import Mathlib.Tactic.Zify
import Parley.Proofs.Timeouts

/-!
# The magnitudes of numbers

A finite number is a rational. A quotient becomes the number nearest to it: the multiple of a power
of two, the grain of the quotient, that rounding gives, as long as that is below two to the 1024th.
A quotient with few digits is its own nearest number, and nearest numbers are doubled with their
quotients, so that delays which double keep pace with their magnitudes.
-/

namespace Parley

open Parley.Computation (ok_of_toOption)

namespace Binary64

/-- The rational that a finite number is. -/
def rational? : Binary64 → Option ℚ
  | .finite negative significand exponent =>
    some ((if negative then -(significand : ℚ) else significand) * 2 ^ exponent)
  | _ => none

/-- A finite number is not too large for its format. -/
def Sized : Binary64 → Prop
  | .finite _ significand exponent =>
    significand < 2 ^ 53 ∧ leastExponent ≤ exponent ∧ exponent ≤ greatestExponent
  | _ => True

/-- A rational that is no less than zero, rounded to the nearest natural, ties to the even one. -/
def roundNearest (q : ℚ) : Nat := roundQuotient q.num.toNat q.den

/-- The power of two of which the number nearest to a quotient is a multiple. -/
def grain (q : ℚ) : Int := max (Int.log 2 q - 52) leastExponent

/-- How many times its grain a quotient is, rounded. -/
def digits (q : ℚ) : Nat := roundNearest (q / 2 ^ grain q)

/-- What is nearest to a quotient among the multiples of its grain. -/
def nearest (q : ℚ) : ℚ := digits q * 2 ^ grain q

section Rounding

variable {num den : Nat}

/-- Rounding depends on the quotient only. -/
theorem roundQuotient_mul {factor : Nat} (filled : 0 < factor) :
    roundQuotient (factor * num) (factor * den) = roundQuotient num den := by
  have below {a b : Nat} : 2 * (factor * a) < factor * b ↔ 2 * a < b := by
    rw [Nat.mul_left_comm, Nat.mul_lt_mul_left filled]
  have above {a b : Nat} : factor * b < 2 * (factor * a) ↔ b < 2 * a := by
    rw [Nat.mul_left_comm, Nat.mul_lt_mul_left filled]
  simp only [roundQuotient, Nat.mul_div_mul_left _ _ filled, Nat.mul_mod_mul_left, below, above]

/-- A quotient of naturals is rounded as the rational that it is. -/
theorem roundQuotient_eq (filled : 0 < den) :
    roundQuotient num den = roundNearest ((num : ℚ) / den) := by
  let q : ℚ := (num : ℚ) / den
  have whole : (q.num.toNat : ℤ) = q.num :=
    Int.toNat_of_nonneg (Rat.num_nonneg.mpr (by positivity))
  have cross : q.num.toNat * den = num * q.den := by
    have same : (q.num : ℚ) / q.den = (num : ℚ) / den := q.num_div_den
    rw [div_eq_div_iff (by exact_mod_cast q.den_ne_zero) (by positivity)] at same
    zify
    rw [whole]
    exact_mod_cast same
  calc roundQuotient num den
      = roundQuotient (q.den * num) (q.den * den) := (roundQuotient_mul q.den_pos).symm
    _ = roundQuotient (den * q.num.toNat) (den * q.den) := by
        rw [Nat.mul_comm q.den num, ← cross, Nat.mul_comm den, Nat.mul_comm q.den]
    _ = roundQuotient q.num.toNat q.den := roundQuotient_mul filled

/-- A natural is rounded to itself. -/
theorem roundNearest_natCast (n : Nat) : roundNearest n = n := by
  have whole : (Nat.cast n : ℚ).num.toNat = n := by simp
  rw [roundNearest, whole, Rat.den_natCast]
  simp [roundQuotient, Nat.mod_one]

/-- What is scaled is the quotient times a power of two. -/
theorem scaled_quotient (num den : Nat) (power : Int) :
    ((scaled num den power).1 : ℚ) / (scaled num den power).2 = num / den * 2 ^ power := by
  cases power with
  | ofNat p =>
    simp only [scaled, Nat.pow_eq, Int.ofNat_eq_natCast, zpow_natCast, Nat.cast_mul, Nat.cast_pow,
      Nat.cast_ofNat]
    ring
  | negSucc p =>
    simp only [scaled, Nat.pow_eq, zpow_negSucc, Nat.cast_mul, Nat.cast_pow, Nat.cast_ofNat]
    rw [div_mul_eq_div_div, div_eq_mul_inv (_ / _)]

/-- Powers of two are positive. -/
theorem two_zpow_pos (power : Int) : (0 : ℚ) < 2 ^ power := zpow_pos two_pos power

/-- A power of two is a power of two times another. -/
theorem two_pow_split (first second : Nat) :
    (2 : ℚ) ^ (first + second) = 2 ^ first * 2 ^ (second : ℤ) := by
  rw [pow_add, zpow_natCast]

/-- A quotient is less than twice the power of two that the lengths of its parts tell. -/
theorem div_lt_of_log2 (num : Nat) (filled : 0 < den) :
    (num : ℚ) / den < 2 ^ ((num.log2 : Int) - den.log2 + 1) := by
  have split : (2 : ℚ) ^ (num.log2 + 1) =
      2 ^ ((num.log2 : Int) - den.log2 + 1) * 2 ^ den.log2 := by
    rw [← zpow_natCast, ← zpow_natCast, ← zpow_add₀ two_ne_zero]
    congr 1
    omega
  have most : (2 : ℚ) ^ den.log2 ≤ den := by exact_mod_cast Nat.log2_self_le filled.ne'
  rw [div_lt_iff₀ (by positivity)]
  calc (num : ℚ) < 2 ^ (num.log2 + 1) := by exact_mod_cast Nat.lt_log2_self
    _ = 2 ^ ((num.log2 : Int) - den.log2 + 1) * 2 ^ den.log2 := split
    _ ≤ 2 ^ ((num.log2 : Int) - den.log2 + 1) * den :=
        mul_le_mul_of_nonneg_left most (two_zpow_pos _).le

/-- A quotient is at least half the power of two that the lengths of its parts tell. -/
theorem le_div_of_log2 (full : 0 < num) (filled : 0 < den) :
    (2 : ℚ) ^ ((num.log2 : Int) - den.log2 - 1) ≤ num / den := by
  have split : (2 : ℚ) ^ ((num.log2 : Int) - den.log2 - 1) * 2 ^ (den.log2 + 1) =
      2 ^ num.log2 := by
    rw [← zpow_natCast, ← zpow_natCast, ← zpow_add₀ two_ne_zero]
    congr 1
    omega
  have least : (den : ℚ) ≤ 2 ^ (den.log2 + 1) := by exact_mod_cast Nat.lt_log2_self.le
  rw [le_div_iff₀ (by positivity)]
  calc (2 : ℚ) ^ ((num.log2 : Int) - den.log2 - 1) * den
      ≤ 2 ^ ((num.log2 : Int) - den.log2 - 1) * 2 ^ (den.log2 + 1) :=
        mul_le_mul_of_nonneg_left least (two_zpow_pos _).le
    _ = 2 ^ num.log2 := split
    _ ≤ num := by exact_mod_cast Nat.log2_self_le full.ne'

/-- A quotient that is divided by a power of two is less than one if it is less than the power. -/
theorem scaled_lt_iff (num : Nat) (filled : 0 < den) (power : Int) :
    (scaled num den (-power)).1 < (scaled num den (-power)).2 ↔ (num : ℚ) / den < 2 ^ power := by
  have wide := scaled_den_pos num (-power) filled
  have same := scaled_quotient num den (-power)
  rw [zpow_neg, ← div_eq_mul_inv] at same
  rw [← div_lt_one (two_zpow_pos power), ← same, div_lt_one (by exact_mod_cast wide), Nat.cast_lt]

/-- The power of two at or below a quotient is its logarithm. -/
theorem floorLog_eq (full : 0 < num) (filled : 0 < den) :
    floorLog num den = Int.log 2 ((num : ℚ) / den) := by
  have positive : (0 : ℚ) < num / den := by positivity
  let guess : Int := (num.log2 : Int) - den.log2
  have order := scaled_lt_iff num filled guess
  change (if (scaled num den (-guess)).1 < (scaled num den (-guess)).2 then guess - 1
    else guess) = _
  symm
  split
  · rename_i less
    refine le_antisymm ?_ ((Int.zpow_le_iff_le_log Nat.one_lt_two positive).mp ?_)
    · have top := (Int.lt_zpow_iff_log_lt Nat.one_lt_two positive).mp (order.mp less)
      omega
    · exact le_div_of_log2 full filled
  · rename_i more
    refine le_antisymm ?_ ((Int.zpow_le_iff_le_log Nat.one_lt_two positive).mp ?_)
    · have top := (Int.lt_zpow_iff_log_lt Nat.one_lt_two positive).mp (div_lt_of_log2 num filled)
      omega
    · exact not_lt.mp (mt order.mpr more)

/-- Rounding gives the whole part of a quotient, or one more. -/
theorem roundQuotient_bounds (num den : Nat) :
    num / den ≤ roundQuotient num den ∧ roundQuotient num den ≤ num / den + 1 := by
  simp only [roundQuotient]
  split_ifs <;> omega

/-- The whole part of a rational that is no less than zero. -/
theorem num_div_den_lt_iff {q : ℚ} (above : 0 ≤ q) (bound : Nat) :
    q.num.toNat / q.den < bound ↔ q < bound := by
  have whole : ((q.num.toNat : ℤ) : ℚ) = q.num := by
    rw [Int.toNat_of_nonneg (Rat.num_nonneg.mpr above)]
  have width : (0 : ℚ) < q.den := by exact_mod_cast q.den_pos
  rw [Nat.div_lt_iff_lt_mul q.den_pos]
  conv_rhs => rw [← q.num_div_den, div_lt_iff₀ width, ← whole]
  norm_cast

/-- A rational below a natural is not rounded beyond it. -/
theorem roundNearest_le {q : ℚ} (above : 0 ≤ q) {bound : Nat} (below : q < bound) :
    roundNearest q ≤ bound :=
  (roundQuotient_bounds _ _).2.trans ((num_div_den_lt_iff above bound).mpr below)

/-- A rational not below a natural is not rounded below it. -/
theorem le_roundNearest {q : ℚ} (above : 0 ≤ q) {bound : Nat} (least : bound ≤ q) :
    bound ≤ roundNearest q :=
  (not_lt.mp (mt (num_div_den_lt_iff above bound).mp (not_lt.mpr least))).trans
    (roundQuotient_bounds _ _).1

/-- A quotient has at most 53 binary digits before the point, in multiples of its grain. -/
theorem lt_grain {q : ℚ} : q < 2 ^ (grain q + 53) := by
  refine (Int.lt_zpow_succ_log_self Nat.one_lt_two q).trans_le ?_
  refine zpow_le_zpow_right₀ one_le_two ?_
  have coarse : Int.log 2 q - 52 ≤ grain q := le_max_left _ _
  omega

/-- A magnitude that fits the format is less than two to the 1024th. -/
theorem magnitude_lt {significand : Nat} {exponent : Int} (few : significand < 2 ^ 53)
    (most : exponent ≤ greatestExponent) : (significand : ℚ) * 2 ^ exponent < 2 ^ 1024 := by
  have power : exponent ≤ 971 := most
  calc (significand : ℚ) * 2 ^ exponent
      ≤ significand * 2 ^ (971 : ℤ) :=
        mul_le_mul_of_nonneg_left (zpow_le_zpow_right₀ one_le_two power) (Nat.cast_nonneg _)
    _ < 2 ^ 53 * 2 ^ (971 : ℤ) :=
        mul_lt_mul_of_pos_right (by exact_mod_cast few) (two_zpow_pos _)
    _ = 2 ^ 1024 := (two_pow_split 53 971).symm

/-- A quotient has at most 53 binary digits, or is rounded to the least number of more. -/
theorem digits_le {q : ℚ} (positive : 0 < q) : digits q ≤ 2 ^ 53 := by
  refine roundNearest_le (div_nonneg positive.le (two_zpow_pos _).le) ?_
  rw [div_lt_iff₀ (two_zpow_pos _)]
  have less : q < 2 ^ (grain q + 53) := lt_grain
  rw [add_comm, zpow_add₀ two_ne_zero] at less
  exact_mod_cast less

/-- A quotient has at least 53 binary digits if its grain is not the least one. -/
theorem le_digits {q : ℚ} (positive : 0 < q) (coarse : leastExponent < grain q) :
    2 ^ 52 ≤ digits q := by
  refine le_roundNearest (div_nonneg positive.le (two_zpow_pos _).le) ?_
  rw [le_div_iff₀ (two_zpow_pos _)]
  have log : grain q + 52 = Int.log 2 q := by
    rw [grain, lt_max_iff, or_iff_left (lt_irrefl _)] at coarse
    rw [grain, max_eq_left coarse.le]
    omega
  have reached := Int.zpow_log_le_self Nat.one_lt_two positive
  rw [← log, add_comm, Nat.cast_ofNat, zpow_add₀ two_ne_zero] at reached
  exact_mod_cast reached

/-- The digits and the grain of a quotient; where the digits are too many for the format, they are
carried to the next power of two. -/
def carried (q : ℚ) : Nat × Int :=
  (if digits q = 2 ^ 53 then 2 ^ 52 else digits q,
    if digits q = 2 ^ 53 then grain q + 1 else grain q)

/-- Carrying does not change the nearest number. -/
theorem carried_eq (q : ℚ) : ((carried q).1 : ℚ) * 2 ^ (carried q).2 = nearest q := by
  simp only [carried, nearest]
  split
  · rename_i many
    rw [many, zpow_add_one₀ two_ne_zero]
    push_cast
    ring
  · rfl

/-- What is carried has few digits, and no grain below the least one. -/
theorem carried_bounds {q : ℚ} (positive : 0 < q) :
    (carried q).1 < 2 ^ 53 ∧ leastExponent ≤ (carried q).2 := by
  have most := digits_le positive
  have coarse : leastExponent ≤ grain q := le_max_right _ _
  simp only [carried]
  split <;> omega

/-- A number is made of a quotient from what is carried, if the power of two is not too large. -/
theorem ofQuotient_eq (full : 0 < num) (filled : 0 < den) (negative : Bool) :
    ofQuotient negative num den =
      if greatestExponent < (carried ((num : ℚ) / den)).2 then .infinite negative
      else .finite negative (carried ((num : ℚ) / den)).1 (carried ((num : ℚ) / den)).2 := by
  let power := max (floorLog num den - 52) leastExponent
  have coarse : power = grain ((num : ℚ) / den) := by
    rw [grain, ← floorLog_eq full filled]
  have rounded : roundQuotient (scaled num den (-power)).1 (scaled num den (-power)).2 =
      digits ((num : ℚ) / den) := by
    rw [roundQuotient_eq (scaled_den_pos num _ filled), scaled_quotient, zpow_neg,
      ← div_eq_mul_inv, coarse, digits]
  have shape : ofQuotient negative num den =
      let digits := roundQuotient (scaled num den (-power)).1 (scaled num den (-power)).2
      if greatestExponent < (if digits = 2 ^ 53 then power + 1 else power) then .infinite negative
      else .finite negative (if digits = 2 ^ 53 then 2 ^ 52 else digits)
        (if digits = 2 ^ 53 then power + 1 else power) := by
    rw [ofQuotient, if_neg full.ne']
    rfl
  rw [shape, rounded, coarse]
  rfl

/-- The number nearest to a quotient is what is nearest to it among the multiples of its grain, or
infinite if that is too large. -/
theorem ofQuotient_cases (full : 0 < num) (filled : 0 < den) (negative : Bool) :
    (nearest ((num : ℚ) / den) < 2 ^ 1024 ∧ ∃ significand exponent,
      ofQuotient negative num den = .finite negative significand exponent ∧
        Sized (.finite negative significand exponent) ∧
        (significand : ℚ) * 2 ^ exponent = nearest ((num : ℚ) / den)) ∨
    (2 ^ 1024 ≤ nearest ((num : ℚ) / den) ∧ ofQuotient negative num den = .infinite negative) := by
  have positive : (0 : ℚ) < num / den := by positivity
  obtain ⟨few, least⟩ := carried_bounds positive
  rw [ofQuotient_eq full filled, ← carried_eq]
  by_cases huge : greatestExponent < (carried ((num : ℚ) / den)).2
  · right
    have power : 972 ≤ (carried ((num : ℚ) / den)).2 := huge
    have many : 2 ^ 52 ≤ (carried ((num : ℚ) / den)).1 := by
      simp only [carried] at power ⊢
      split
      · exact le_rfl
      · rename_i uncarried
        rw [if_neg uncarried] at power
        exact le_digits positive (by rw [leastExponent]; omega)
    refine ⟨?_, if_pos huge⟩
    calc (2 : ℚ) ^ 1024 = (2 : ℚ) ^ 52 * 2 ^ (972 : ℤ) := two_pow_split 52 972
      _ ≤ (carried ((num : ℚ) / den)).1 * 2 ^ (carried ((num : ℚ) / den)).2 :=
          mul_le_mul (by exact_mod_cast many) (zpow_le_zpow_right₀ one_le_two power)
            (two_zpow_pos _).le (Nat.cast_nonneg _)
  · left
    have most := not_lt.mp huge
    exact ⟨magnitude_lt few most, _, _, if_neg huge, ⟨few, least, most⟩, rfl⟩

/-- A quotient of few digits, at a power of two that is not too low, is its own nearest number. -/
theorem nearest_of_digits {significand : Nat} {power : Int} (few : significand < 2 ^ 53)
    (least : leastExponent ≤ power) (full : 0 < significand) :
    nearest (significand * 2 ^ power) = significand * 2 ^ power := by
  let q : ℚ := significand * 2 ^ power
  have positive : 0 < q := mul_pos (by exact_mod_cast full) (two_zpow_pos power)
  have coarse : grain q ≤ power := by
    have below : q < ((2 : ℕ) : ℚ) ^ (53 + power) := by
      rw [Nat.cast_ofNat, zpow_add₀ two_ne_zero]
      exact mul_lt_mul_of_pos_right (by exact_mod_cast few) (two_zpow_pos power)
    have log := (Int.lt_zpow_iff_log_lt Nat.one_lt_two positive).mp below
    rw [grain, max_le_iff]
    omega
  have whole : q / 2 ^ grain q = (significand * 2 ^ (power - grain q).toNat : ℕ) := by
    have split : power = (power - grain q).toNat + grain q := by omega
    rw [div_eq_iff (two_zpow_pos _).ne']
    push_cast
    rw [mul_assoc, ← zpow_natCast, ← zpow_add₀ two_ne_zero, ← split]
  change nearest q = q
  rw [nearest, digits, whole, roundNearest_natCast, ← whole, div_mul_cancel₀ _ (two_zpow_pos _).ne']

/-- Twice a quotient has twice the grain, if that is not the least one. -/
theorem grain_double {q : ℚ} (normal : leastExponent ≤ Int.log 2 q - 52) (positive : 0 < q) :
    grain (2 * q) = grain q + 1 := by
  have twice : 0 < 2 * q := by positivity
  have log : Int.log 2 (2 * q) = Int.log 2 q + 1 := by
    refine le_antisymm ?_ ((Int.zpow_le_iff_le_log Nat.one_lt_two twice).mp ?_)
    · refine Int.lt_add_one_iff.mp ((Int.lt_zpow_iff_log_lt Nat.one_lt_two twice).mp ?_)
      rw [Nat.cast_ofNat, zpow_add_one₀ two_ne_zero, mul_comm]
      exact mul_lt_mul_of_pos_right (Int.lt_zpow_succ_log_self Nat.one_lt_two q) two_pos
    · rw [Nat.cast_ofNat, zpow_add_one₀ two_ne_zero, mul_comm]
      exact mul_le_mul_of_nonneg_left (Int.zpow_log_le_self Nat.one_lt_two positive) two_pos.le
  rw [grain, log, grain]
  omega

/-- The number nearest to twice a quotient is twice the nearest one. -/
theorem nearest_double {q : ℚ} (normal : leastExponent ≤ Int.log 2 q - 52) (positive : 0 < q) :
    nearest (2 * q) = 2 * nearest q := by
  have same : 2 * q / 2 ^ (grain q + 1) = q / 2 ^ grain q := by
    rw [zpow_add_one₀ two_ne_zero, mul_comm (2 ^ grain q), mul_div_mul_left _ _ two_ne_zero]
  rw [nearest, digits, grain_double normal positive, same, nearest, digits,
    zpow_add_one₀ two_ne_zero]
  ring

end Rounding

section Comparing

/-- The quotient of a finite number is the rational that it is. -/
theorem signedQuotient_eq (negative : Bool) (significand : Nat) (exponent : Int) :
    rational? (.finite negative significand exponent) =
      some (((signedQuotient negative significand exponent).1 : ℚ) /
        (signedQuotient negative significand exponent).2) := by
  have magnitude := scaled_quotient significand 1 exponent
  rw [Nat.cast_one, div_one] at magnitude
  cases negative with
  | false =>
    rw [rational?, if_neg Bool.false_ne_true, ← magnitude]
    rfl
  | true =>
    rw [rational?, if_pos rfl, neg_mul, ← magnitude, ← neg_div]
    simp [signedQuotient, quotient]

/-- A finite number has a denominator. -/
theorem signedQuotient_den_pos (negative : Bool) (significand : Nat) (exponent : Int) :
    0 < (signedQuotient negative significand exponent).2 :=
  scaled_den_pos significand exponent Nat.one_pos

/-- Integers are compared as rationals that are ordered like them. -/
theorem compare_eq {a b : Int} {p q : ℚ} (less : a < b ↔ p < q) (more : b < a ↔ q < p) :
    compare a b = compare p q := by
  rcases lt_trichotomy p q with below | rfl | above
  · rw [compare_lt_iff_lt.mpr below, compare_lt_iff_lt.mpr (less.mpr below)]
  · have same : a = b :=
      le_antisymm (not_lt.mp (mt more.mp (lt_irrefl p))) (not_lt.mp (mt less.mp (lt_irrefl p)))
    rw [compare_eq_iff_eq.mpr rfl, compare_eq_iff_eq.mpr same]
  · rw [compare_gt_iff_gt.mpr above, compare_gt_iff_gt.mpr (more.mpr above)]

/-- Quotients with denominators are compared as the rationals that they are. -/
theorem compareQuotients_eq {a b : Int × Nat} (first : 0 < a.2) (second : 0 < b.2) :
    compareQuotients a b = compare ((a.1 : ℚ) / a.2) ((b.1 : ℚ) / b.2) := by
  have left : (0 : ℚ) < a.2 := by exact_mod_cast first
  have right : (0 : ℚ) < b.2 := by exact_mod_cast second
  apply compare_eq
  · rw [div_lt_div_iff₀ left right]
    norm_cast
  · rw [div_lt_div_iff₀ right left]
    norm_cast

/-- Finite numbers are ordered as the rationals that they are. -/
theorem order_eq {x y : Binary64} {p q : ℚ} (first : x.rational? = some p)
    (second : y.rational? = some q) : x.order y = some (compare p q) := by
  cases x with
  | nan | infinite => cases first
  | finite s m e =>
    cases y with
    | nan | infinite => cases second
    | finite t n f =>
      rw [signedQuotient_eq] at first second
      rw [order, compareQuotients_eq (signedQuotient_den_pos ..) (signedQuotient_den_pos ..),
        Option.some.inj first, Option.some.inj second]

end Comparing

end Binary64

namespace Number

/-- The rational that a number is, if it is finite. -/
def rational? : Number → Option ℚ
  | .int n => some n
  | .truth b => some (ofTruth b : Int)
  | .float x => x.rational?

/-- What is counted of a number is an integer that is its rational, or a binary64 number. -/
theorem rational?_eq (a : Number) :
    a.rational? = a.counted.elim (fun n : Int => some (n : ℚ)) Binary64.rational? := by
  cases a <;> rfl

/-- An integer and a finite number are ordered as the rationals that they are. -/
theorem orderInt_eq (n : Int) {x : Binary64} {q : ℚ} (finite : x.rational? = some q) :
    orderInt n x = some (compare (n : ℚ) q) := by
  cases x with
  | nan | infinite => cases finite
  | finite s m e =>
    rw [Binary64.signedQuotient_eq] at finite
    rw [orderInt, Binary64.compareQuotients_eq Nat.one_pos (Binary64.signedQuotient_den_pos ..),
      Option.some.inj finite, Nat.cast_one, div_one]

/-- Finite numbers of any kind are ordered as the rationals that they are. -/
theorem order_eq {a b : Number} {p q : ℚ} (first : a.rational? = some p)
    (second : b.rational? = some q) : a.order b = some (compare p q) := by
  rw [rational?_eq] at first second
  rw [order]
  cases left : a.counted with
  | inl m =>
    rw [left] at first
    cases first
    cases right : b.counted with
    | inl n =>
      rw [right] at second
      cases second
      exact congrArg some (Binary64.compare_eq Int.cast_lt.symm Int.cast_lt.symm)
    | inr y =>
      rw [right] at second
      exact orderInt_eq m second
  | inr x =>
    rw [left] at first
    cases right : b.counted with
    | inl n =>
      rw [right] at second
      cases second
      change Option.map Ordering.swap (orderInt n x) = _
      rw [orderInt_eq n first, Option.map_some, ← Std.OrientedCmp.eq_swap]
    | inr y =>
      rw [right] at second
      exact Binary64.order_eq first second

/-- A finite number lies below another if its rational does. -/
theorem lt_eq_decide {a b : Number} {p q : ℚ} (first : a.rational? = some p)
    (second : b.rational? = some q) : a.lt b = decide (p < q) := by
  rw [lt, order_eq first second, Bool.eq_iff_iff, beq_iff_eq, decide_eq_true_iff, Option.some_inj,
    compare_lt_iff_lt]

/-- A finite number does not lie above another if its rational does not. -/
theorem le_eq_decide {a b : Number} {p q : ℚ} (first : a.rational? = some p)
    (second : b.rational? = some q) : a.le b = decide (p ≤ q) := by
  rw [le, order_eq first second, Bool.eq_iff_iff, Bool.or_eq_true, beq_iff_eq, beq_iff_eq,
    decide_eq_true_iff, Option.some_inj, Option.some_inj, compare_lt_iff_lt, compare_eq_iff_eq,
    le_iff_lt_or_eq]

/-- What is counted as an integer is doubled as one. -/
theorem double_counted {a : Number} {n : Int} (whole : a.counted = .inl n) :
    a.double.counted = .inl (2 * n) := by
  cases a with
  | int | truth =>
    cases whole
    rfl
  | float => cases whole

end Number

namespace Binary64

/-- A number keeps to a rational: it is that rational, or it is infinite as the rational is beyond
all numbers. -/
def Keeps (x : Binary64) (q : ℚ) : Prop :=
  (x.Sized ∧ x.rational? = some q) ∨ (x = .infinite false ∧ 2 ^ 1024 ≤ q)

/-- A quotient that is its own nearest number becomes a number that keeps to it. -/
theorem ofQuotient_keeps {num den : Nat} (full : 0 < num) (filled : 0 < den)
    (same : nearest ((num : ℚ) / den) = num / den) :
    (ofQuotient false num den).Keeps (num / den) := by
  rcases ofQuotient_cases full filled false with
    ⟨-, significand, exponent, made, sized, value⟩ | huge
  · left
    rw [made]
    refine ⟨sized, ?_⟩
    rw [rational?, if_neg Bool.false_ne_true, value, same]
  · right
    rw [same] at huge
    exact ⟨huge.2, huge.1⟩

/-- What is not too large for its format is less than two to the 1024th. -/
theorem lt_of_sized {x : Binary64} {q : ℚ} (sized : x.Sized) (value : x.rational? = some q) :
    q < 2 ^ 1024 := by
  cases x with
  | nan | infinite => cases value
  | finite negative significand exponent =>
    have less := magnitude_lt sized.1 sized.2.2
    rw [rational?, Option.some_inj] at value
    rw [← value]
    split
    · have above : 0 ≤ (significand : ℚ) * 2 ^ exponent :=
        mul_nonneg (Nat.cast_nonneg _) (two_zpow_pos exponent).le
      rw [neg_mul]
      exact (neg_nonpos.mpr above).trans_lt (by positivity)
    · exact less

/-- Two as a number. -/
theorem ofNat_two : ofNat 2 = .finite false (2 ^ 52) (-51) := by decide +kernel

/-- A finite number is doubled as a quotient, which is twice as large. -/
theorem double_finite (negative : Bool) (significand : Nat) (exponent : Int) :
    ∃ num den, (Binary64.finite negative significand exponent).double =
      ofQuotient negative num den ∧ 0 < den ∧ (0 < num ↔ 0 < significand) ∧
        (num : ℚ) / den = significand * 2 ^ (exponent + 1) := by
  have twice : ((significand * 2 ^ 52 : ℕ) : ℚ) / (1 : ℕ) * 2 ^ (exponent - 51) =
      significand * 2 ^ (exponent + 1) := by
    rw [Nat.cast_one, div_one, Nat.cast_mul, mul_assoc, Nat.cast_pow, ← zpow_natCast,
      Nat.cast_ofNat, ← zpow_add₀ two_ne_zero]
    congr 2
    omega
  refine ⟨(scaled (significand * 2 ^ 52) 1 (exponent - 51)).1,
    (scaled (significand * 2 ^ 52) 1 (exponent - 51)).2, ?_, scaled_den_pos _ _ Nat.one_pos, ?_, ?_⟩
  · rw [Binary64.double, ofNat_two, mul, Bool.bne_false]
    rfl
  · constructor
    · intro full
      by_contra nothing
      rw [Nat.eq_zero_of_not_pos nothing, Nat.zero_mul, scaled_num_zero] at full
      exact absurd full (lt_irrefl 0)
    · exact fun full => scaled_num_pos 1 _ (Nat.mul_pos full (show 0 < 2 ^ 52 by decide))
  · rw [scaled_quotient, twice]

/-- A number that is doubled keeps to the rational that is doubled. -/
theorem Keeps.double {x : Binary64} {q : ℚ} (keeps : x.Keeps q) (above : 0 ≤ q) :
    x.double.Keeps (2 * q) := by
  rcases keeps with ⟨sized, value⟩ | ⟨rfl, huge⟩
  · cases x with
    | nan | infinite => cases value
    | finite negative significand exponent =>
      obtain ⟨few, least, -⟩ := sized
      obtain ⟨num, den, product, filled, full, quotient⟩ :=
        double_finite negative significand exponent
      rw [rational?, Option.some_inj] at value
      rw [product]
      rcases Nat.eq_zero_or_pos significand with rfl | digits
      · left
        have nothing : q = 0 := by
          rw [← value]
          split <;> simp
        have none : num = 0 := Nat.eq_zero_of_not_pos (mt full.mp (lt_irrefl 0))
        rw [ofQuotient, if_pos none, nothing]
        exact ⟨⟨by decide, by decide, by decide⟩, by simp [rational?]⟩
      · cases negative with
        | true =>
          have below : q < 0 := by
            rw [← value, if_pos rfl, neg_mul, neg_lt_zero]
            exact mul_pos (by exact_mod_cast digits) (two_zpow_pos exponent)
          exact absurd above (not_le.mpr below)
        | false =>
          have doubled : (num : ℚ) / den = 2 * q := by
            rw [quotient, ← value, if_neg Bool.false_ne_true, zpow_add_one₀ two_ne_zero]
            ring
          rw [← doubled]
          refine ofQuotient_keeps (full.mpr digits) filled ?_
          rw [quotient]
          exact nearest_of_digits few (by omega) digits
  · right
    rw [Binary64.double, ofNat_two]
    exact ⟨rfl, huge.trans (le_mul_of_one_le_left above one_le_two)⟩

/-- A positive integer becomes the number nearest to it, or is infinite if that is too large. -/
theorem ofInt_cases {n : Int} (positive : 0 < n) :
    (nearest n < 2 ^ 1024 ∧ ∃ significand exponent,
      ofInt n = .finite false significand exponent ∧ (ofInt n).Sized ∧
        (ofInt n).rational? = some (nearest n)) ∨
    (2 ^ 1024 ≤ nearest n ∧ ofInt n = .infinite false) := by
  have magnitude : ((n.natAbs : ℕ) : ℚ) / (1 : ℕ) = n := by
    rw [Nat.cast_one, div_one, Nat.cast_natAbs, abs_of_pos positive]
  have made : ofInt n = ofQuotient false n.natAbs 1 := by
    rw [ofInt, decide_eq_false (not_lt.mpr positive.le)]
  have cases := ofQuotient_cases (Int.natAbs_pos.mpr positive.ne') Nat.one_pos false
  rw [magnitude, ← made] at cases
  refine cases.imp_left fun found => ?_
  obtain ⟨small, significand, exponent, finite, sized, value⟩ := found
  refine ⟨small, significand, exponent, finite, finite ▸ sized, ?_⟩
  rw [finite, rational?, if_neg Bool.false_ne_true, value]

/-- The number nearest to a positive integer that is doubled some times is doubled as often. -/
theorem nearest_iterate {n : Int} (positive : 0 < n) (times : Nat) :
    nearest (n * 2 ^ times) = nearest n * 2 ^ times := by
  induction times with
  | zero => rw [pow_zero, mul_one, mul_one]
  | succ times ih =>
    have least : (1 : ℚ) ≤ n * 2 ^ times :=
      one_le_mul_of_one_le_of_one_le (by exact_mod_cast positive) (one_le_pow₀ one_le_two)
    have log : 0 ≤ Int.log 2 ((n : ℚ) * 2 ^ times) := by
      refine (Int.zpow_le_iff_le_log Nat.one_lt_two (one_pos.trans_le least)).mp ?_
      rwa [zpow_zero]
    have normal : leastExponent ≤ Int.log 2 ((n : ℚ) * 2 ^ times) - 52 := by
      rw [leastExponent]
      omega
    calc nearest (n * 2 ^ (times + 1))
        = nearest (2 * (n * 2 ^ times)) := by rw [pow_succ]; ring_nf
      _ = 2 * nearest (n * 2 ^ times) := nearest_double normal (one_pos.trans_le least)
      _ = nearest n * 2 ^ (times + 1) := by rw [ih, pow_succ]; ring

end Binary64

namespace Handler

/-- Integers and truth values are measured as integers. -/
theorem measured_whole {delay : Number} {n : Int} (whole : delay.counted = .inl n) :
    measured delay = Value.floatOfInt n := by
  cases delay with
  | int m =>
    cases whole
    rfl
  | truth b =>
    cases whole
    have finite : Value.floatOfInt (Number.ofTruth b) = .ok (Binary64.ofInt (Number.ofTruth b)) :=
      ok_of_toOption (by cases b <;> decide +kernel)
    rw [finite]
    rfl
  | float x => cases whole

/-- A positive integer whose nearest number is not too large becomes that. -/
theorem floatOfInt_of_nearest {n : Int} (positive : 0 < n)
    (small : Binary64.nearest n < 2 ^ 1024) :
    ∃ x, Value.floatOfInt n = .ok x ∧ x.Sized ∧ x.rational? = some (Binary64.nearest n) := by
  rcases Binary64.ofInt_cases positive with ⟨-, significand, exponent, finite, sized, value⟩ | huge
  · exact ⟨_, by rw [Value.floatOfInt, finite], finite ▸ sized, finite ▸ value⟩
  · exact absurd small (not_lt.mpr huge.1)

/-- What a positive integer becomes is its nearest number. -/
theorem nearest_of_floatOfInt {n : Int} (positive : 0 < n) {x : Binary64} {q : ℚ}
    (found : Value.floatOfInt n = .ok x) (value : x.rational? = some q) :
    q = Binary64.nearest n := by
  rcases Binary64.ofInt_cases positive with ⟨-, significand, exponent, finite, -, same⟩ | huge
  · rw [Value.floatOfInt, finite] at found
    cases found
    rw [← finite, same, Option.some_inj] at value
    exact value.symm
  · rw [Value.floatOfInt, huge.2] at found
    cases found

/-- A number is measured as it is: a float, or an integer of at most 53 binary digits. -/
def Plain : Number → Prop
  | .int n => n.natAbs < 2 ^ 53
  | .truth _ => True
  | .float x => x.Sized

/-- An integer of few digits becomes the number that is the same rational. -/
theorem floatOfInt_of_few {n : Int} (above : 0 ≤ n) (few : n.natAbs < 2 ^ 53) :
    ∃ x, Value.floatOfInt n = .ok x ∧ x.Sized ∧ x.rational? = some (n : ℚ) := by
  rcases above.eq_or_lt with rfl | positive
  · exact ⟨.finite false 0 Binary64.leastExponent, rfl, ⟨by decide, by decide, by decide⟩,
      by simp [Binary64.rational?]⟩
  have digits : ((n.natAbs : ℕ) : ℚ) * 2 ^ (0 : ℤ) = n := by
    rw [zpow_zero, mul_one, Nat.cast_natAbs, abs_of_pos positive]
  have own : Binary64.nearest n = n := by
    rw [← digits]
    exact Binary64.nearest_of_digits few (by decide) (Int.natAbs_pos.mpr positive.ne')
  have small : Binary64.nearest n < 2 ^ 1024 := by
    rw [own, ← digits]
    exact Binary64.magnitude_lt few (by decide)
  obtain ⟨x, made, sized, value⟩ := floatOfInt_of_nearest positive small
  exact ⟨x, made, sized, by rw [value, own]⟩

/-- What is plain and no less than zero is measured as the rational that it is. -/
theorem Plain.measured {a : Number} {q : ℚ} (plain : Plain a) (value : a.rational? = some q)
    (above : 0 ≤ q) : ∃ x, measured a = .ok x ∧ x.Sized ∧ x.rational? = some q := by
  cases a with
  | float x => exact ⟨x, rfl, plain, value⟩
  | int n =>
    cases value
    rw [measured_whole rfl]
    exact floatOfInt_of_few (by exact_mod_cast above) plain
  | truth b =>
    cases value
    rw [measured_whole rfl]
    exact floatOfInt_of_few (by exact_mod_cast above) (by cases b <;> decide)

/-- A delay keeps pace with its magnitudes, as it is and as it is measured, for some comparisons
with a timeout: as long as what is measured of it stays below the timeout, it is doubled exactly,
and it is found to outlast the timeout exactly if what is measured of it does. -/
structure Paces (timeout : Binary64) (limit : ℚ) (left : Nat) (delay : Number) (own measure : ℚ) :
    Prop where
  /-- It is found to outlast the timeout exactly if its measure does. -/
  late : ∀ times < left, (∀ early < times, measure * 2 ^ early < limit) →
    outlasts (Number.double^[times] delay) (some timeout) =
      .ok (decide (limit ≤ measure * 2 ^ times))
  /-- It is doubled exactly. -/
  value : ∀ times < left, (∀ early ≤ times, measure * 2 ^ early < limit) →
    (Number.double^[times] delay).rational? = some (own * 2 ^ times)

/-- Where nothing is compared, every delay keeps pace. -/
theorem paces_zero (timeout : Binary64) (limit : ℚ) (delay : Number) (own measure : ℚ) :
    Paces timeout limit 0 delay own measure := ⟨nofun, nofun⟩

/-- What is doubled some times may be doubled once before. -/
theorem double_mul_pow (q : ℚ) (times : Nat) : 2 * q * 2 ^ times = q * 2 ^ (times + 1) := by
  rw [pow_succ]
  ring

/-- A delay that did not outlast the timeout is doubled, and keeps pace. -/
theorem Paces.double {timeout : Binary64} {limit own measure : ℚ} {left : Nat} {delay : Number}
    (paces : Paces timeout limit (left + 1) delay own measure) (early : measure < limit) :
    Paces timeout limit left delay.double (2 * own) (2 * measure) := by
  have sooner {times : Nat} (before : ∀ early < times, 2 * measure * 2 ^ early < limit) :
      ∀ early < times + 1, measure * 2 ^ early < limit := by
    intro early less
    cases early with
    | zero => rwa [pow_zero, mul_one]
    | succ early =>
      rw [← double_mul_pow]
      exact before early (Nat.lt_of_succ_lt_succ less)
  constructor
  · intro times within before
    rw [double_mul_pow, ← Function.iterate_succ_apply]
    exact paces.late (times + 1) (Nat.succ_lt_succ within) (sooner before)
  · intro times within before
    rw [double_mul_pow, ← Function.iterate_succ_apply]
    refine paces.value (times + 1) (Nat.succ_lt_succ within) fun early among => ?_
    exact @sooner (times + 1) (fun early less => before early (Nat.le_of_lt_succ less)) early
      (Nat.lt_succ_of_le among)

/-- A delay is found to outlast a timeout if what is measured of it does. -/
theorem outlasts_of_measured {timeout x : Binary64} {limit q : ℚ} {delay : Number}
    (given : timeout.rational? = some limit) (found : measured delay = .ok x)
    (value : x.rational? = some q) :
    outlasts delay (some timeout) = .ok (decide (limit ≤ q)) := by
  have decided := Number.le_eq_decide (a := .float timeout) (b := .float x) given value
  rw [outlasts, found, ← decided]
  rfl

variable {timeout : Binary64} {limit : ℚ} (given : timeout.rational? = some limit)
include given

/-- A number that is a delay keeps pace, with a timeout that is not too large for its format. -/
theorem paces_of_float (sized : timeout.Sized) {x : Binary64} {q : ℚ} (fits : x.Sized)
    (value : x.rational? = some q) (above : 0 ≤ q) (left : Nat) :
    Paces timeout limit left (.float x) q q := by
  have small := Binary64.lt_of_sized sized given
  have floats (times : Nat) :
      Number.double^[times] (.float x) = .float (Binary64.double^[times] x) :=
    (Function.Semiconj.iterate_right (f := Number.float) (fun _ => rfl) times x).symm
  have keeps (times : Nat) : (Binary64.double^[times] x).Keeps (q * 2 ^ times) := by
    induction times with
    | zero =>
      rw [pow_zero, mul_one]
      exact .inl ⟨fits, value⟩
    | succ times ih =>
      have doubled := ih.double (by positivity)
      rw [Function.iterate_succ_apply', pow_succ]
      rwa [mul_comm 2, mul_assoc] at doubled
  constructor
  · intro times _ _
    rw [floats]
    rcases keeps times with ⟨-, reached⟩ | ⟨infinite, huge⟩
    · exact outlasts_of_measured given rfl reached
    · rw [infinite, decide_eq_true (small.le.trans huge)]
      cases timeout with
      | nan | infinite => cases given
      | finite => rfl
  · intro times _ before
    rw [floats]
    rcases keeps times with ⟨-, reached⟩ | ⟨-, huge⟩
    · exact reached
    · exact absurd (before times le_rfl) (not_lt.mpr (small.le.trans huge))

/-- An integer that is a delay keeps pace, as long as it is not too large to be measured. -/
theorem paces_of_whole {left : Nat} {measure : ℚ}
    (fits : ∀ times < left, (∀ early < times, measure * 2 ^ early < limit) →
      measure * 2 ^ times < 2 ^ 1024)
    {delay : Number} {n : Int} (whole : delay.counted = .inl n) (above : 0 ≤ n)
    {x : Binary64} (found : measured delay = .ok x) (value : x.rational? = some measure) :
    Paces timeout limit left delay n measure := by
  have counts (times : Nat) : (Number.double^[times] delay).counted = .inl (n * 2 ^ times) := by
    induction times with
    | zero => rw [pow_zero, mul_one, Function.iterate_zero_apply, whole]
    | succ times ih =>
      rw [Function.iterate_succ_apply', Number.double_counted ih, pow_succ]
      ring_nf
  constructor
  · intro times within before
    rcases above.eq_or_lt with rfl | positive
    · have zero : Value.floatOfInt 0 = .ok (.finite false 0 Binary64.leastExponent) := rfl
      have none : measure = 0 := by
        rw [measured_whole whole, zero] at found
        cases found
        simpa [Binary64.rational?] using value.symm
      have still := counts times
      rw [zero_mul] at still
      rw [none, zero_mul]
      exact outlasts_of_measured given ((measured_whole still).trans zero)
        (by simp [Binary64.rational?])
    · rw [measured_whole whole] at found
      obtain rfl := nearest_of_floatOfInt positive found value
      have doubled : Binary64.nearest ((n * 2 ^ times : Int) : ℚ) =
          Binary64.nearest n * 2 ^ times := by
        rw [← Binary64.nearest_iterate positive]
        push_cast
        rfl
      obtain ⟨y, made, -, reached⟩ := floatOfInt_of_nearest (n := n * 2 ^ times) (by positivity)
        (doubled ▸ fits times within before)
      rw [← doubled]
      exact outlasts_of_measured given ((measured_whole (counts times)).trans made) reached
  · intro times _ _
    rw [Number.rational?_eq, counts, Sum.elim_inl]
    push_cast
    rfl

end Handler

end Parley
