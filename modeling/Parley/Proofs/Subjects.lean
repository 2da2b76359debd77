import Mathlib.Data.List.DropRight
import Parley.Subject

/-!
# Canonical subjects

Stripping a text and bringing a subject into its canonical form change nothing the second time: what
is left of a stripped text has no blanks at its ends, and the digits of a telephone number are a
telephone number that consists of digits. Two subjects have the same canonical form exactly if they
are telephone numbers of the same digits, or are none and are the same but for blanks at their ends.
-/

namespace Parley

namespace Text

/-- The value of a digit is found in a run that holds its code point. -/
theorem exists_range_of_digitIn {table : List (Nat × Nat)} {code value : Nat}
    (found : digitIn table code = some value) :
    ∃ range ∈ table, range.1 ≤ code ∧ code ≤ range.2 := by
  induction table with
  | nil => cases found
  | cons range rest ih =>
    obtain ⟨first, last⟩ := range
    simp only [digitIn] at found
    split at found
    · cases found
    · split at found
      · exact ⟨(first, last), List.mem_cons_self .., by omega, by omega⟩
      · obtain ⟨range, member, bounds⟩ := ih found
        exact ⟨range, List.mem_cons_of_mem _ member, bounds⟩

/-- No run of digits meets a range of blanks. -/
theorem ranges_apart : ∀ digits ∈ digitRanges, ∀ blanks ∈ blankRanges,
    digits.2 < blanks.1 ∨ blanks.2 < digits.1 := by
  decide

/-- No digit is blank. -/
theorem isBlank_eq_false_of_isDigit {c : Char} (digit : isDigit c = true) : isBlank c = false := by
  obtain ⟨value, found⟩ := Option.isSome_iff_exists.mp digit
  obtain ⟨digits, digitsMember, digitsLow, digitsHigh⟩ := exists_range_of_digitIn found
  rw [Bool.eq_false_iff]
  intro blank
  obtain ⟨blanks, blanksMember, blanksLow, blanksHigh⟩ := exists_range_of_inRanges blank
  have apart := ranges_apart digits digitsMember blanks blanksMember
  omega

/-- Stripping from the right is what the library has for it. -/
theorem stripRight_eq (cs : List Char) : stripRight cs = cs.rdropWhile isBlank := rfl

/-- Characters without blanks stay when they are stripped. -/
theorem stripChars_eq_self {cs : List Char} (clear : ∀ c ∈ cs, isBlank c = false) :
    stripChars cs = cs := by
  have left : stripLeft cs = cs := by
    rw [stripLeft, List.dropWhile_eq_self_iff]
    intro nonempty
    simp [clear _ (List.getElem_mem nonempty)]
  rw [stripChars, left, stripRight_eq, List.rdropWhile_eq_self_iff]
  intro nonempty
  simp [clear _ (List.getLast_mem nonempty)]

/-- Stripped characters stay when they are stripped again. -/
theorem stripChars_idempotent (cs : List Char) : stripChars (stripChars cs) = stripChars cs := by
  have left : stripLeft (stripChars cs) = stripChars cs := by
    rw [stripLeft, List.dropWhile_eq_self_iff]
    intro nonempty blank
    obtain ⟨rest, whole⟩ : stripChars cs <+: stripLeft cs := by
      rw [stripChars, stripRight_eq]
      exact List.rdropWhile_prefix isBlank (stripLeft cs)
    have longer : 0 < (stripLeft cs).length := by
      rw [← whole, List.length_append]
      omega
    have first : (stripLeft cs)[0] = (stripChars cs)[0] := by
      simp only [← whole, List.getElem_append_left nonempty]
    have clear := List.dropWhile_get_zero_not isBlank cs longer
    rw [List.get_eq_getElem] at clear
    rw [← first] at blank
    exact clear blank
  rw [stripChars, left, stripChars, stripRight_eq, stripRight_eq, List.rdropWhile_idempotent]

end Text

namespace Subject

open Text

/-- A key looks like a telephone number if, stripped, it consists of digits, blanks and a few signs,
and has a digit. -/
def PhoneLike (key : String) : Prop :=
  (∀ c ∈ stripChars key.toList, isDigit c ∨ isBlank c ∨ c ∈ ['+', '-', '(', ')', '.']) ∧
    ∃ c ∈ stripChars key.toList, isDigit c

/-- Such keys are what is taken for telephone numbers. -/
theorem phoneLike_iff {key : String} : PhoneLike key ↔ isPhone (stripChars key.toList) = true := by
  simp only [PhoneLike, isPhone, isPhoneChar, Bool.and_eq_true, List.all_eq_true,
    List.any_eq_true, Bool.or_eq_true, beq_iff_eq, List.mem_cons, List.not_mem_nil, or_false,
    or_assoc]

/-- The canonical form of a telephone number consists of its digits. -/
theorem normalize_of_phone {key : String} (phone : PhoneLike key) :
    (normalize key).toList = (stripChars key.toList).filter isDigit := by
  rw [normalize, String.toList_ofList, if_pos (phoneLike_iff.mp phone)]

/-- The canonical form of any other key is what is left when it is stripped. -/
theorem normalize_of_other {key : String} (other : ¬PhoneLike key) :
    (normalize key).toList = stripChars key.toList := by
  rw [normalize, String.toList_ofList, if_neg (mt phoneLike_iff.mpr other)]

/-- A canonical form has no blanks at its ends. -/
theorem strip_normalize (key : String) :
    stripChars (normalize key).toList = (normalize key).toList := by
  by_cases phone : PhoneLike key
  · rw [normalize_of_phone phone]
    exact stripChars_eq_self fun c member =>
      isBlank_eq_false_of_isDigit (List.mem_filter.mp member).2
  · rw [normalize_of_other phone, stripChars_idempotent]

/-- The canonical form of a key looks like a telephone number if and only if the key does. -/
theorem phoneLike_normalize {key : String} : PhoneLike (normalize key) ↔ PhoneLike key := by
  by_cases phone : PhoneLike key
  · refine iff_of_true ?_ phone
    obtain ⟨c, member, digit⟩ := phone.2
    rw [PhoneLike, strip_normalize, normalize_of_phone phone]
    exact ⟨fun c kept => .inl (List.mem_filter.mp kept).2, c,
      List.mem_filter.mpr ⟨member, digit⟩, digit⟩
  · rw [PhoneLike, strip_normalize, normalize_of_other phone, ← PhoneLike]

/-- A subject in canonical form stays when it is normalized. -/
theorem normalize_idempotent (key : String) : normalize (normalize key) = normalize key := by
  apply String.toList_inj.mp
  by_cases phone : PhoneLike key
  · rw [normalize_of_phone (phoneLike_normalize.mpr phone), strip_normalize,
      normalize_of_phone phone, List.filter_filter]
    simp only [Bool.and_self]
  · rw [normalize_of_other (mt phoneLike_normalize.mp phone), strip_normalize]

/-- Keys of which one looks like a telephone number and the other does not name different
subjects. -/
theorem normalize_apart {a b : String} (phone : PhoneLike a) (other : ¬PhoneLike b) :
    normalize a ≠ normalize b :=
  fun same => other (phoneLike_normalize.mp (same ▸ phoneLike_normalize.mpr phone))

/-- Bringing a key into its canonical form a second time changes nothing. Two keys name the same
subject if and only if both look like telephone numbers and have the same digits, or neither does
and they are the same when they are stripped; so a telephone number never names the subject of
another key. -/
theorem normalize_identifies (a b : String) :
    normalize (normalize a) = normalize a ∧
      (normalize a = normalize b ↔
        PhoneLike a ∧ PhoneLike b ∧
            (stripChars a.toList).filter isDigit = (stripChars b.toList).filter isDigit ∨
          ¬PhoneLike a ∧ ¬PhoneLike b ∧ stripChars a.toList = stripChars b.toList) ∧
      (PhoneLike a → ¬PhoneLike b → normalize a ≠ normalize b) := by
  refine ⟨normalize_idempotent a, ?_, normalize_apart⟩
  rw [← String.toList_inj]
  by_cases phone : PhoneLike a <;> by_cases other : PhoneLike b
  · simp only [phone, other, normalize_of_phone, true_and, not_true, false_and, or_false]
  · have apart := String.toList_inj.not.mpr (normalize_apart phone other)
    simp only [phone, other, apart, false_and, and_false, not_true, or_false]
  · have apart := String.toList_inj.not.mpr (normalize_apart other phone).symm
    simp only [phone, other, apart, false_and, and_false, not_true, or_false]
  · rw [normalize_of_other phone, normalize_of_other other]
    simp only [phone, other, not_false_eq_true, true_and, false_and, false_or]

/-- The subject of a value is in canonical form. -/
theorem normalize_ofValue (key : Value) : normalize (ofValue key) = ofValue key :=
  normalize_idempotent key.toText

end Subject

end Parley
