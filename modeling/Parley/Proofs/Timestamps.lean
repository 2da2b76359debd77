import Mathlib.Data.String.Basic
import Parley.Proofs.Calendar
import Parley.Time.Iso

/-!
# The order of timestamps

Numbers with leading zeros, so many that all have one width, come in the order of their texts. So
the texts of moments come in the order of what their clocks show, and on clocks of universal time
that is the order of the moments. This holds for texts that always have a fraction, and also for
those that have one only if it is not zero, since the sign of the offset, which then takes the place
of the point, comes before it.
-/

namespace Parley

namespace Text

/-- What begins with less is less, if the beginnings have one length. -/
theorem chars_lt_of_lt {a b : List Char} (same : a.length = b.length) (less : a < b)
    (x y : List Char) : a ++ x < b ++ y := by
  induction a generalizing b with
  | nil =>
    cases b with
    | nil => exact absurd less (lt_irrefl [])
    | cons => cases same
  | cons c rest ih =>
    cases b with
    | nil => cases same
    | cons d others =>
      rw [List.cons_lt_cons_iff] at less
      rw [List.cons_append, List.cons_append, List.cons_lt_cons_iff]
      exact less.imp_right fun ⟨head, tail⟩ => ⟨head, ih (Nat.succ.inj same) tail⟩

/-- A text that begins with less is less, if the beginnings have one length. -/
theorem lt_of_start_lt {a b : String} (same : a.length = b.length) (less : a < b)
    (x y : String) : a ++ x < b ++ y := by
  have width : a.toList.length = b.toList.length := by
    rw [String.length_toList, String.length_toList, same]
  rw [String.lt_iff_toList_lt, String.toList_append, String.toList_append]
  exact chars_lt_of_lt width less x.toList y.toList

/-- A text that goes on with less is less. -/
theorem lt_of_rest_lt (a : String) {x y : String} (less : x < y) : a ++ x < a ++ y := by
  rw [String.lt_iff_toList_lt, String.toList_append, String.toList_append]
  exact List.append_left_lt less

/-- The last digits of a number, so many of them. -/
def lastDigits : (width n : Nat) → List Char
  | 0, _ => []
  | width + 1, n => lastDigits width (n / 10) ++ [(n % 10).digitChar]

/-- There are as many last digits as are asked for. -/
theorem lastDigits_length (width n : Nat) : (lastDigits width n).length = width := by
  induction width generalizing n with
  | zero => rfl
  | succ width ih => rw [lastDigits, List.length_append, ih, List.length_singleton]

/-- The last digits of zero are zeros. -/
theorem lastDigits_zero (width : Nat) : lastDigits width 0 = List.replicate width '0' := by
  induction width with
  | zero => rfl
  | succ width ih =>
    rw [lastDigits, Nat.zero_div, ih, List.replicate_succ']
    rfl

/-- Digits come in their order. -/
theorem digitChar_lt : ∀ a < 10, ∀ b < 10, a < b → a.digitChar < b.digitChar := by decide

/-- The last digits of a lesser number are less, if they are all its digits. -/
theorem lastDigits_lt {width a b : Nat} (less : a < b) (within : b < 10 ^ width) :
    lastDigits width a < lastDigits width b := by
  induction width generalizing a b with
  | zero => omega
  | succ width ih =>
    rw [Nat.pow_succ] at within
    rw [lastDigits, lastDigits]
    by_cases tens : a / 10 < b / 10
    · have same : (lastDigits width (a / 10)).length = (lastDigits width (b / 10)).length := by
        rw [lastDigits_length, lastDigits_length]
      exact chars_lt_of_lt same (ih tens (by omega)) _ _
    · have same : a / 10 = b / 10 := by omega
      rw [same]
      refine List.append_left_lt (List.cons_lt_cons_iff.mpr (.inl ?_))
      exact digitChar_lt _ (by omega) _ (by omega) (by omega)

/-- A number with leading zeros is written with its last digits. -/
theorem padZeros_digits {width n : Nat} (positive : 0 < width) (within : n < 10 ^ width) :
    (padZeros width (toString n)).toList = lastDigits width n := by
  have written (width n : Nat) : (padZeros width (toString n)).toList =
      List.replicate (width - (Nat.toDigits 10 n).length) '0' ++ Nat.toDigits 10 n := by
    have digits : (toString n).toList = Nat.toDigits 10 n := by
      rw [Nat.toString_eq_repr, Nat.toList_repr]
    rw [padZeros, String.toList_append, String.toList_ofList, digits, ← String.length_toList,
      digits]
  rw [written]
  obtain ⟨width, rfl⟩ : ∃ less, width = less + 1 := ⟨width - 1, by omega⟩
  induction width generalizing n with
  | zero =>
    have single : Nat.toDigits 10 n = [n.digitChar] := Nat.toDigits_of_lt_base (by omega)
    have whole : n % 10 = n := Nat.mod_eq_of_lt (by omega)
    simp [single, lastDigits, whole]
  | succ width ih =>
    rw [lastDigits]
    by_cases short : n < 10
    · have single : Nat.toDigits 10 n = [n.digitChar] := Nat.toDigits_of_lt_base short
      rw [single, Nat.div_eq_of_lt short, Nat.mod_eq_of_lt short, lastDigits_zero]
      rfl
    · have split : Nat.toDigits 10 n = Nat.toDigits 10 (n / 10) ++ [(n % 10).digitChar] := by
        have last : n % 10 < 10 := Nat.mod_lt n (by decide)
        rw [← Nat.toDigits_of_lt_base last,
          Nat.toDigits_append_toDigits (by decide) (by omega) last, Nat.div_add_mod]
      rw [split, List.length_append, List.length_singleton, Nat.add_sub_add_right,
        ← List.append_assoc, ih (by omega) (by rw [Nat.pow_succ] at within; omega)]

variable {width : Nat}

/-- A number with leading zeros up to a width that it does not go beyond has that width. -/
theorem padZeros_length {n : Nat} (positive : 0 < width) (within : n < 10 ^ width) :
    (padZeros width (toString n)).length = width := by
  rw [← String.length_toList, padZeros_digits positive within, lastDigits_length]

/-- With leading zeros up to one width, the text of a lesser number is less. -/
theorem padZeros_lt {a b : Nat} (positive : 0 < width) (less : a < b) (within : b < 10 ^ width) :
    padZeros width (toString a) < padZeros width (toString b) := by
  rw [String.lt_iff_toList_lt, padZeros_digits positive (less.trans within),
    padZeros_digits positive within]
  exact lastDigits_lt less within

end Text

namespace Time

/-- A number with two digits has two. -/
theorem two_length {n : Nat} (within : n < 100) : (two n).length = 2 :=
  Text.padZeros_length (by decide) within

/-- Numbers with two digits come in their order, whatever follows them. -/
theorem two_lt {a b : Nat} (less : a < b) (within : b < 100) (x y : String) :
    two a ++ x < two b ++ y := by
  have width : (two a).length = (two b).length := by
    rw [two_length (less.trans within), two_length within]
  exact Text.lt_of_start_lt width (Text.padZeros_lt (by decide) less within) x y

/-- A date within the calendar has ten characters. -/
theorem Date.text_length {n : Nat} (within : n < dayLimit) :
    (Date.ofDayNumber n).text.length = 10 := by
  obtain ⟨year, month, day⟩ := ofDayNumber_digits within
  simp only [Date.text, String.length_append, two_length month, two_length day,
    Text.padZeros_length (show 0 < 4 by decide) year]
  rfl

/-- A later day has a greater text. -/
theorem Date.text_lt {a b : Nat} (less : a < b) (within : b < dayLimit) :
    (Date.ofDayNumber a).text < (Date.ofDayNumber b).text := by
  obtain ⟨year, month, day⟩ := ofDayNumber_digits (less.trans within)
  obtain ⟨laterYear, laterMonth, laterDay⟩ := ofDayNumber_digits within
  simp only [Date.text, String.append_assoc]
  rcases ofDayNumber_before less with years | ⟨sameYear, months | ⟨sameMonth, days⟩⟩
  · have width : (Text.padZeros 4 (toString (Date.ofDayNumber a).year)).length =
        (Text.padZeros 4 (toString (Date.ofDayNumber b).year)).length := by
      rw [Text.padZeros_length (by decide) year, Text.padZeros_length (by decide) laterYear]
    exact Text.lt_of_start_lt width (Text.padZeros_lt (by decide) years laterYear) _ _
  · rw [sameYear]
    exact Text.lt_of_rest_lt _ (Text.lt_of_rest_lt _ (two_lt months laterMonth _ _))
  · rw [sameYear, sameMonth]
    refine Text.lt_of_rest_lt _ (Text.lt_of_rest_lt _ (Text.lt_of_rest_lt _
      (Text.lt_of_rest_lt _ ?_)))
    simpa using two_lt days laterDay "" ""

/-- Hours, minutes and seconds of a number of seconds since midnight. -/
def secondsText (seconds : Nat) : String :=
  two (seconds / 3600) ++ ":" ++ two (seconds / 60 % 60) ++ ":" ++ two (seconds % 60)

/-- The fraction of a second, if there is one or it is asked for. -/
def fractionText (full : Bool) (fraction : Nat) : String :=
  if full || fraction != 0 then "." ++ Text.padZeros 6 (toString fraction) else ""

/-- The time of a day has eight characters before the fraction. -/
theorem secondsText_length {seconds : Nat} (within : seconds < 86400) :
    (secondsText seconds).length = 8 := by
  simp only [secondsText, String.length_append, two_length (show seconds / 3600 < 100 by omega),
    two_length (show seconds / 60 % 60 < 100 by omega),
    two_length (show seconds % 60 < 100 by omega)]
  rfl

/-- A later second of a day has a greater text. -/
theorem secondsText_lt {a b : Nat} (less : a < b) (within : b < 86400) :
    secondsText a < secondsText b := by
  simp only [secondsText, String.append_assoc]
  by_cases hours : a / 3600 < b / 3600
  · exact two_lt hours (by omega) _ _
  rw [show a / 3600 = b / 3600 by omega]
  refine Text.lt_of_rest_lt _ (Text.lt_of_rest_lt _ ?_)
  by_cases minutes : a / 60 % 60 < b / 60 % 60
  · exact two_lt minutes (by omega) _ _
  rw [show a / 60 % 60 = b / 60 % 60 by omega]
  refine Text.lt_of_rest_lt _ (Text.lt_of_rest_lt _ ?_)
  simpa using two_lt (show a % 60 < b % 60 by omega) (by omega) "" ""

/-- A greater fraction has a greater text, also if the lesser one is left out, and what follows it
then comes before a point. -/
theorem fractionText_lt {a b : Nat} (full : Bool) (less : a < b) (within : b < 1000000)
    {x : String} (before : ∀ rest, x < "." ++ rest) (y : String) :
    fractionText full a ++ x < fractionText full b ++ y := by
  have shown : fractionText full b = "." ++ Text.padZeros 6 (toString b) :=
    if_pos (by simp; omega)
  rw [shown]
  by_cases left : (full || a != 0) = true
  · rw [fractionText, if_pos left, String.append_assoc, String.append_assoc]
    have width : (Text.padZeros 6 (toString a)).length = (Text.padZeros 6 (toString b)).length := by
      rw [Text.padZeros_length (by decide) (less.trans within),
        Text.padZeros_length (by decide) within]
    exact Text.lt_of_rest_lt _
      (Text.lt_of_start_lt width (Text.padZeros_lt (by decide) less within) _ _)
  · rw [fractionText, if_neg left, String.empty_append, String.append_assoc]
    exact before _

/-- The text of an offset begins with a sign, which comes before a point. -/
theorem Offset.text_lt_point (offset : Offset) (rest : String) : offset.text < "." ++ rest := by
  have sign : (if offset.micros < 0 then "-" else "+").length = ".".length := by
    split <;> rfl
  have before : (if offset.micros < 0 then "-" else "+") < "." := by
    split <;> decide
  simp only [Offset.text, String.append_assoc]
  exact Text.lt_of_start_lt sign before _ _

namespace Moment

/-- A moment on a clock of universal time. -/
def IsUtc (moment : Moment) : Prop := moment.offset = some .utc

/-- A moment brought to universal time is on such a clock. -/
theorem isUtc_of_toUtc {moment utc : Moment} (brought : moment.toUtc? = some utc) : utc.IsUtc := by
  unfold toUtc? ofClock? at brought
  split at brought
  · cases brought
    rfl
  · cases brought

variable {a b : Moment}

/-- In universal time the clock shows the instant. -/
theorem IsUtc.instant (utc : a.IsUtc) : a.instant = a.clock := by
  rw [Moment.instant, utc]
  exact Int.sub_zero _

/-- A moment in universal time is brought there as it is. -/
theorem IsUtc.toUtc (utc : a.IsUtc) : a.toUtc? = some a := by
  have within : 0 ≤ a.instant ∧ a.instant.toNat < clockLimit := by
    rw [utc.instant]
    exact ⟨Int.natCast_nonneg _, a.clock_lt⟩
  rw [toUtc?, ofClock?, dif_pos within]
  obtain ⟨clock, clock_lt, offset⟩ := a
  cases utc
  simp [Moment.instant, Offset.utc]

/-- The text of the offset of a moment, if it is known. -/
def offsetText (moment : Moment) : String :=
  match moment.offset with
  | some offset => offset.text
  | none => ""

/-- The text of an offset, or none, comes before a point. -/
theorem offsetText_lt_point (moment : Moment) (rest : String) :
    moment.offsetText < "." ++ rest := by
  unfold offsetText
  split
  · exact Offset.text_lt_point _ rest
  · rw [String.lt_iff_toList_lt, String.toList_append]
    exact List.Lex.nil

/-- The text of a moment, by its parts. -/
theorem textWith_eq (moment : Moment) (separator : String) (full : Bool) :
    moment.textWith separator full = moment.date.text ++ (separator ++
      (secondsText (moment.timeOfDay / secondMicros) ++
        (fractionText full (moment.timeOfDay % secondMicros) ++ moment.offsetText))) := by
  simp only [Moment.textWith, timeText, secondsText, fractionText, String.append_assoc]
  rfl

/-- A later reading of a clock has a greater text, whatever the offsets are. -/
theorem textWith_lt (separator : String) (full : Bool) (less : a.clock < b.clock) :
    a.textWith separator full < b.textWith separator full := by
  rw [a.textWith_eq, b.textWith_eq]
  have limit : clockLimit = dayLimit * dayMicros := by decide
  have days : b.clock / dayMicros < dayLimit :=
    Nat.div_lt_of_lt_mul (by rw [Nat.mul_comm, ← limit]; exact b.clock_lt)
  have before : a.clock / dayMicros ≤ b.clock / dayMicros := Nat.div_le_div_right less.le
  rcases before.lt_or_eq with earlier | same
  · have width : a.date.text.length = b.date.text.length := by
      rw [date, date, Date.text_length (earlier.trans days), Date.text_length days]
    exact Text.lt_of_start_lt width (Date.text_lt earlier days) _ _
  · rw [date, date, same]
    refine Text.lt_of_rest_lt _ (Text.lt_of_rest_lt _ ?_)
    have time : a.timeOfDay < b.timeOfDay := by
      have first := Nat.div_add_mod a.clock dayMicros
      have second := Nat.div_add_mod b.clock dayMicros
      rw [same] at first
      unfold timeOfDay
      omega
    have within : b.timeOfDay < 86400000000 := Nat.mod_lt _ (by decide)
    generalize a.timeOfDay = early at time
    generalize b.timeOfDay = late at time within
    unfold secondMicros
    by_cases seconds : early / 1000000 < late / 1000000
    · have width : (secondsText (early / 1000000)).length =
          (secondsText (late / 1000000)).length := by
        rw [secondsText_length (by omega), secondsText_length (by omega)]
      exact Text.lt_of_start_lt width (secondsText_lt seconds (by omega)) _ _
    · rw [show early / 1000000 = late / 1000000 by omega]
      exact Text.lt_of_rest_lt _
        (fractionText_lt full (by omega) (by omega) a.offsetText_lt_point _)

/-- Of two moments the one with the lesser text has the lesser reading of the clock, or the same. -/
theorem clock_le_of_textWith {separator : String} {full : Bool}
    (ordered : a.textWith separator full ≤ b.textWith separator full) : a.clock ≤ b.clock := by
  by_contra later
  exact absurd ordered (not_le.mpr (textWith_lt separator full (not_le.mp later)))

/-- Moments in universal time come in the order of their texts. -/
theorem IsUtc.textWith_le_iff (utc : a.IsUtc) (otherUtc : b.IsUtc) (separator : String)
    (full : Bool) :
    a.textWith separator full ≤ b.textWith separator full ↔ a.instant ≤ b.instant := by
  rw [utc.instant, otherUtc.instant, Int.ofNat_le]
  constructor
  · exact clock_le_of_textWith
  · intro ordered
    rcases ordered.lt_or_eq with before | same
    · exact (textWith_lt separator full before).le
    · have equal : a = b := by
        obtain ⟨clock, clock_lt, offset⟩ := a
        obtain ⟨other, other_lt, otherOffset⟩ := b
        cases same
        cases utc
        cases otherUtc
        rfl
      rw [equal]

/-- Moments in universal time are the same if their texts are. -/
theorem IsUtc.eq_of_textWith (utc : a.IsUtc) (otherUtc : b.IsUtc) {separator : String} {full : Bool}
    (same : a.textWith separator full = b.textWith separator full) : a = b := by
  have equal : a.clock = b.clock :=
    le_antisymm (clock_le_of_textWith same.le) (clock_le_of_textWith same.ge)
  obtain ⟨clock, clock_lt, offset⟩ := a
  obtain ⟨other, other_lt, otherOffset⟩ := b
  cases equal
  cases utc
  cases otherUtc
  rfl

end Moment

end Time

end Parley
