import Parley.Text.Range

/-!
# Decimal digits

A decimal digit is a character of the Unicode category Nd. These characters come in runs of
ten that start with the digit zero, so a digit's value is its distance from its run's start.
-/

namespace Parley.Text

/-- The runs of decimal digits; each run's length is a multiple of ten. -/
def digitRanges : List (Nat × Nat) := [
  (48, 57), (1632, 1641), (1776, 1785), (1984, 1993), (2406, 2415), (2534, 2543), (2662, 2671),
  (2790, 2799), (2918, 2927), (3046, 3055), (3174, 3183), (3302, 3311), (3430, 3439),
  (3558, 3567), (3664, 3673), (3792, 3801), (3872, 3881), (4160, 4169), (4240, 4249),
  (6112, 6121), (6160, 6169), (6470, 6479), (6608, 6617), (6784, 6793), (6800, 6809),
  (6992, 7001), (7088, 7097), (7232, 7241), (7248, 7257), (42528, 42537), (43216, 43225),
  (43264, 43273), (43472, 43481), (43504, 43513), (43600, 43609), (44016, 44025), (65296, 65305),
  (66720, 66729), (68912, 68921), (69734, 69743), (69872, 69881), (69942, 69951), (70096, 70105),
  (70384, 70393), (70736, 70745), (70864, 70873), (71248, 71257), (71360, 71369), (71472, 71481),
  (71904, 71913), (72016, 72025), (72784, 72793), (73040, 73049), (73120, 73129), (92768, 92777),
  (92864, 92873), (93008, 93017), (120782, 120831), (123200, 123209), (123632, 123641),
  (125264, 125273), (130032, 130041)]

/-- The value of the decimal digit at a code point of an ascending table of runs. -/
def digitIn : List (Nat × Nat) → Nat → Option Nat
  | [], _ => none
  | (first, last) :: rest, code =>
    if code < first then none
    else if code ≤ last then some ((code - first) % 10)
    else digitIn rest code

/-- The value of a decimal digit, if the character is one. -/
def digit? (c : Char) : Option Nat := digitIn digitRanges c.toNat

/-- Whether a character is a decimal digit. -/
def isDigit (c : Char) : Bool := (digit? c).isSome

/-- A digit's value is below ten. -/
theorem digit?_lt {c : Char} {value : Nat} (h : digit? c = some value) : value < 10 := by
  unfold digit? at h
  generalize digitRanges = table at h
  induction table with
  | nil => simp [digitIn] at h
  | cons range rest ih =>
    obtain ⟨first, last⟩ := range
    simp only [digitIn] at h
    split at h
    · cases h
    · split at h
      · cases h
        exact Nat.mod_lt _ (by decide)
      · exact ih h

end Parley.Text
