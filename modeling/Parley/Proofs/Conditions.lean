import Mathlib.Data.List.TakeWhile
import Mathlib.Data.Set.Subsingleton
import Parley.Condition
import Parley.Proofs.Computation
import Parley.Proofs.Subjects

/-!
# The grammar of conditions

A condition is written as a word, a name and a quoted literal with marks and any blanks between
them. A text is read as a condition exactly if the condition can be written so that it is the text,
and it can be written so of at most one. A condition is printed with single quotes, so that what is
printed of it is read again exactly if its literal contains none.
-/

namespace Parley

namespace Text

/-- A run of blanks, which may be empty. -/
abbrev Gap := {gap : List Char // ∀ c ∈ gap, isBlank c = true}

/-- Characters begin with the blanks that are stripped from their left. -/
theorem exists_gap (cs : List Char) : ∃ gap : Gap, cs = gap ++ stripLeft cs :=
  ⟨⟨cs.takeWhile isBlank, fun _ member => List.mem_takeWhile_imp member⟩,
    List.takeWhile_append_dropWhile.symm⟩

/-- Characters of which nothing is left are blanks. -/
theorem exists_gap_of_stripLeft_nil {cs : List Char} (nothing : stripLeft cs = []) :
    ∃ gap : Gap, cs = gap := by
  obtain ⟨gap, whole⟩ := exists_gap cs
  rw [nothing, List.append_nil] at whole
  exact ⟨gap, whole⟩

/-- Blanks before a character that is not blank are stripped, and nothing else is. -/
theorem stripLeft_gap_append (gap : Gap) {c : Char} (solid : isBlank c = false)
    (rest : List Char) : stripLeft (gap ++ c :: rest) = c :: rest := by
  rw [stripLeft, List.dropWhile_append_of_pos gap.property]
  simp [solid]

/-- Nothing is left of blanks. -/
theorem stripLeft_gap (gap : Gap) : stripLeft gap = [] :=
  List.dropWhile_eq_nil_iff.mpr gap.property

/-- No letter or number is blank. -/
theorem isBlank_eq_false_of_isAlphanumeric {c : Char} (letter : isAlphanumeric c = true) :
    isBlank c = false := by
  rw [Bool.eq_false_iff]
  intro blank
  obtain ⟨letters, lettersMember, lettersLow, lettersHigh⟩ := exists_range_of_inRanges letter
  obtain ⟨blanks, blanksMember, blanksLow, blanksHigh⟩ := exists_range_of_inRanges blank
  have apart : ∀ letters ∈ alphanumericRanges, ∀ blanks ∈ blankRanges,
      letters.2 < blanks.1 ∨ blanks.2 < letters.1 := by
    decide +kernel
  have beside := apart letters lettersMember blanks blanksMember
  omega

end Text

namespace Condition

open Text (Gap)

/-- The subject of a condition is a name. -/
def Named (condition : Condition) : Prop :=
  ∃ first rest, condition.subject.toList = first :: rest ∧ startsName first = true ∧
    ∀ c ∈ rest, inName c = true

/-- A way to write a condition: the blanks beside its parts, and the quotes of its literal. -/
structure Layout where
  /-- Before the word. -/
  lead : Gap
  /-- After the word. -/
  word : Gap
  /-- After the opening bracket. -/
  opening : Gap
  /-- After the subject. -/
  subject : Gap
  /-- After the comma. -/
  comma : Gap
  /-- After the literal. -/
  literal : Gap
  /-- After the closing bracket. -/
  closing : Gap
  /-- The quote on both sides of the literal. -/
  mark : Char
  /-- It is a quote. -/
  quotes : isQuote mark = true

/-- What a condition looks like in a layout. -/
def Layout.write (layout : Layout) (condition : Condition) : List Char :=
  layout.lead ++ ("contains".toList ++ (layout.word ++ '(' ::
    (layout.opening ++ (condition.subject.toList ++ (layout.subject ++ ',' ::
      (layout.comma ++ layout.mark :: (condition.literal.toList ++ layout.mark ::
        (layout.literal ++ ')' :: layout.closing))))))))

/-- A text spells a condition: the subject is a name, and the text is the condition in a layout with
quotes that do not occur in the literal. -/
def Spells (condition : Condition) (source : String) : Prop :=
  condition.Named ∧ ∃ layout : Layout, layout.mark ∉ condition.literal.toList ∧
    source.toList = layout.write condition

section Reading

variable {cs rest : List Char}

/-- The word that opens a condition stands at the start of what it is read from. -/
theorem afterWord?_eq_some_iff : afterWord? cs = some rest ↔ cs = "contains".toList ++ rest := by
  rw [afterWord?]
  constructor
  · intro read
    split at read
    · rename_i opens
      obtain ⟨others, rfl⟩ := List.isPrefixOf_iff_prefix.mp opens
      cases read
      simp
    · cases read
  · rintro rfl
    rw [if_pos (List.isPrefixOf_iff_prefix.mpr (List.prefix_append _ _))]
    simp

/-- A mark that must come next comes next. -/
theorem after?_eq_some_iff {mark : Char} : after? mark cs = some rest ↔ cs = mark :: rest := by
  cases cs with
  | nil => simp [after?]
  | cons c cs =>
    rw [after?]
    split
    · rename_i same
      simp [eq_of_beq same]
    · rename_i other
      simp [ne_of_beq_false (Bool.eq_false_iff.mpr other)]

/-- What is read as a name is one, and stands before what follows. -/
theorem append_of_name? {name : List Char} (read : name? cs = some (name, rest)) :
    cs = name ++ rest ∧ ∃ first others, name = first :: others ∧ startsName first = true ∧
      ∀ c ∈ others, inName c = true := by
  cases cs with
  | nil => cases read
  | cons c cs =>
    rw [name?] at read
    split at read
    · rename_i starts
      obtain ⟨rfl, rfl⟩ := Prod.mk.inj (Option.some.inj read)
      refine ⟨?_, c, cs.takeWhile inName, rfl, starts, ?_⟩
      · rw [List.cons_append, List.takeWhile_append_dropWhile]
      · exact fun _ member => List.mem_takeWhile_imp member
    · cases read

/-- A name is read up to a character that cannot go on in it. -/
theorem name?_append {first mark : Char} {others : List Char} (starts : startsName first = true)
    (within : ∀ c ∈ others, inName c = true) (ends : inName mark = false) (rest : List Char) :
    name? (first :: (others ++ mark :: rest)) = some (first :: others, mark :: rest) := by
  rw [name?, if_pos starts, List.takeWhile_append_of_pos within,
    List.dropWhile_append_of_pos within]
  simp [ends]

/-- What is read as a literal stands between two quotes alike that do not occur in it. -/
theorem literal?_eq_some_iff {literal : List Char} :
    literal? cs = some (literal, rest) ↔
      ∃ mark, isQuote mark = true ∧ mark ∉ literal ∧ cs = mark :: (literal ++ mark :: rest) := by
  constructor
  · intro read
    cases cs with
    | nil => cases read
    | cons mark cs =>
      rw [literal?] at read
      split at read
      · rename_i quotes
        split at read
        · rename_i last others found
          obtain ⟨rfl, rfl⟩ := Prod.mk.inj (Option.some.inj read)
          -- The literal ends where its quote comes again.
          have same : last = mark := by
            have head := List.head?_dropWhile_not (· != mark) cs
            rw [found] at head
            simpa using head
          have plain : mark ∉ cs.takeWhile (· != mark) := fun member => by
            simpa using List.mem_takeWhile_imp member
          refine ⟨mark, quotes, plain, ?_⟩
          rw [← same] at found ⊢
          rw [← found, List.takeWhile_append_dropWhile]
        · cases read
      · cases read
  · rintro ⟨mark, quotes, plain, rfl⟩
    have within : ∀ c ∈ literal, (c != mark) = true := fun c member =>
      bne_iff_ne.mpr fun same => plain (same ▸ member)
    rw [literal?, if_pos quotes, List.dropWhile_append_of_pos within,
      List.takeWhile_append_of_pos within]
    simp

end Reading

/-- The first character of a name is not blank. -/
theorem isBlank_eq_false_of_startsName {c : Char} (starts : startsName c = true) :
    Text.isBlank c = false := by
  have range : 65 ≤ c.toNat ∧ c.toNat ≤ 122 := by
    have spelled : startsName c = (decide (65 ≤ c.toNat ∧ c.toNat ≤ 90) ||
        (decide (97 ≤ c.toNat) && decide (c.toNat ≤ 122)) || c == '_') := rfl
    simp only [spelled, Bool.or_eq_true, Bool.and_eq_true, decide_eq_true_eq,
      beq_iff_eq] at starts
    rcases starts with (upper | lower) | rfl
    · omega
    · omega
    · decide
  rw [Bool.eq_false_iff]
  intro blank
  obtain ⟨blanks, among, low, high⟩ := Text.exists_range_of_inRanges blank
  have apart : ∀ blanks ∈ Text.blankRanges, blanks.2 < 65 ∨ 122 < blanks.1 := by decide
  have beside := apart blanks among
  omega

/-- A blank cannot go on in a name. -/
theorem inName_eq_false_of_isBlank {c : Char} (blank : Text.isBlank c = true) :
    inName c = false := by
  rw [Bool.eq_false_iff]
  intro within
  simp only [inName, Text.isWordChar, Bool.or_eq_true, beq_iff_eq] at within
  rcases within with (rfl | letter) | rfl
  · revert blank
    decide
  · rw [Text.isBlank_eq_false_of_isAlphanumeric letter] at blank
    cases blank
  · revert blank
    decide

/-- A quote is not blank. -/
theorem isBlank_eq_false_of_isQuote {c : Char} (quotes : isQuote c = true) :
    Text.isBlank c = false := by
  simp only [isQuote, Bool.or_eq_true, beq_iff_eq] at quotes
  rcases quotes with rfl | rfl <;> decide

/-- A name before blanks and a comma is read up to them. -/
theorem name?_gap {first : Char} {others : List Char} (starts : startsName first = true)
    (within : ∀ c ∈ others, inName c = true) (gap : Gap) (rest : List Char) :
    name? (first :: (others ++ (gap ++ ',' :: rest))) =
      some (first :: others, gap ++ ',' :: rest) := by
  obtain ⟨gap, blanks⟩ := gap
  cases gap with
  | nil => exact name?_append starts within (by decide) rest
  | cons blank gap =>
    have ends := inName_eq_false_of_isBlank (blanks blank List.mem_cons_self)
    exact name?_append starts within ends (gap ++ ',' :: rest)

/-- A text that is read as a condition spells it. -/
theorem spells_of_read? {source : String} {condition : Condition}
    (read : read? source = some condition) : condition.Spells source := by
  simp only [read?, Option.bind_eq_bind, Option.bind_eq_some_iff] at read
  obtain ⟨afterWord, word, afterOpening, opening, ⟨name, afterName⟩, named, afterComma, comma,
    ⟨literal, afterLiteral⟩, quoted, afterClosing, closing, ended⟩ := read
  split at ended
  · rename_i nothing
    cases ended
    obtain ⟨first, firstSplit⟩ := Text.exists_gap source.toList
    obtain ⟨second, secondSplit⟩ := Text.exists_gap afterWord
    obtain ⟨third, thirdSplit⟩ := Text.exists_gap afterOpening
    obtain ⟨fourth, fourthSplit⟩ := Text.exists_gap afterName
    obtain ⟨fifth, fifthSplit⟩ := Text.exists_gap afterComma
    obtain ⟨sixth, sixthSplit⟩ := Text.exists_gap afterLiteral
    obtain ⟨seventh, rfl⟩ := Text.exists_gap_of_stripLeft_nil (List.isEmpty_iff.mp nothing)
    rw [afterWord?_eq_some_iff.mp word] at firstSplit
    rw [after?_eq_some_iff.mp opening] at secondSplit
    obtain ⟨whole, name⟩ := append_of_name? named
    rw [whole] at thirdSplit
    rw [after?_eq_some_iff.mp comma] at fourthSplit
    obtain ⟨mark, quotes, plain, whole⟩ := literal?_eq_some_iff.mp quoted
    rw [whole] at fifthSplit
    rw [after?_eq_some_iff.mp closing] at sixthSplit
    refine ⟨by simpa [Named] using name,
      ⟨first, second, third, fourth, fifth, sixth, seventh, mark, quotes⟩, by simpa using plain, ?_⟩
    simp only [Layout.write, String.toList_ofList, firstSplit, secondSplit, thirdSplit, fourthSplit,
      fifthSplit, sixthSplit]
  · cases ended

/-- Once the subject and the comma are passed over, what is left is read as the literal and the end
of a condition. -/
theorem read?_subject {source : String} {first : Char} {others tail : List Char}
    {lead word opening subject : Gap} (starts : startsName first = true)
    (within : ∀ c ∈ others, inName c = true)
    (written : source.toList = lead ++ ("contains".toList ++ (word ++ '(' ::
      (opening ++ (first :: others ++ (subject ++ ',' :: tail)))))) :
    read? source = (literal? (Text.stripLeft tail)).bind fun (literal, rest) =>
      (after? ')' (Text.stripLeft rest)).bind fun rest =>
        if (Text.stripLeft rest).isEmpty then
          some ⟨String.ofList (first :: others), String.ofList literal⟩
        else none := by
  have leading (rest : List Char) :
      Text.stripLeft (lead ++ ("contains".toList ++ rest)) = "contains".toList ++ rest :=
    Text.stripLeft_gap_append lead (by decide) ("ontains".toList ++ rest)
  have solid := isBlank_eq_false_of_startsName starts
  have bracket : Text.isBlank '(' = false := by decide
  have comma : Text.isBlank ',' = false := by decide
  have step {mark : Char} {rest : List Char} := after?_eq_some_iff.mpr (Eq.refl (mark :: rest))
  simp only [read?, written, leading, afterWord?_eq_some_iff.mpr rfl, List.cons_append,
    Text.stripLeft_gap_append _ bracket, Text.stripLeft_gap_append _ solid,
    Text.stripLeft_gap_append _ comma, step, name?_gap starts within, Option.bind_eq_bind,
    Option.bind_some]

/-- A text that spells a condition is read as it. -/
theorem read?_of_spells {source : String} {condition : Condition}
    (spells : condition.Spells source) : read? source = some condition := by
  obtain ⟨⟨first, others, name, starts, within⟩, layout, plain, written⟩ := spells
  have quote := isBlank_eq_false_of_isQuote layout.quotes
  have closing : Text.isBlank ')' = false := by decide
  have literal (rest : List Char) :
      literal? (layout.mark :: (condition.literal.toList ++ layout.mark :: rest)) =
        some (condition.literal.toList, rest) :=
    literal?_eq_some_iff.mpr ⟨layout.mark, layout.quotes, plain, rfl⟩
  have step {mark : Char} {rest : List Char} := after?_eq_some_iff.mpr (Eq.refl (mark :: rest))
  rw [Layout.write, name] at written
  rw [read?_subject starts within written]
  simp only [Text.stripLeft_gap_append _ quote, literal, Option.bind_some,
    Text.stripLeft_gap_append _ closing, step, Text.stripLeft_gap, List.isEmpty_nil, if_true]
  rw [← name, String.ofList_toList, String.ofList_toList]

/-- A text is read as a condition exactly if it spells it. -/
theorem read?_eq_some_iff {source : String} {condition : Condition} :
    read? source = some condition ↔ condition.Spells source :=
  ⟨spells_of_read?, read?_of_spells⟩

/-- The reading of a text as a condition is exact: it ends in the condition that the text spells, of
which there is at most one, and fails exactly if the text spells none. -/
theorem ofValue_exact (source : String) (node : Option String) :
    (∀ condition, ofValue (.text source) node = .ok condition ↔ condition.Spells source) ∧
      {condition : Condition | condition.Spells source}.Subsingleton ∧
      (ofValue (.text source) node = .error (.expression source node) ↔
        ∀ condition : Condition, ¬condition.Spells source) := by
  have unique : {condition : Condition | condition.Spells source}.Subsingleton := by
    intro condition spells other alike
    have read := read?_of_spells spells
    rw [read?_of_spells alike] at read
    exact (Option.some.inj read).symm
  simp only [← read?_eq_some_iff] at unique ⊢
  refine ⟨fun condition => ?_, unique, ?_⟩
  · cases read : read? source <;> simp [ofValue, read]
  · cases read : read? source <;> simp [ofValue, read]

/-- Marks of the grammar within a literal are part of it. -/
example : read? " contains\n( user.name ,\"a, 'b')\\n\" )" = some ⟨"user.name", "a, 'b')\\n"⟩ := by
  decide

section Printing

variable {condition : Condition}

/-- The layout in which a condition is printed. -/
def Layout.printed : Layout where
  lead := ⟨[], List.forall_mem_nil _⟩
  word := ⟨[], List.forall_mem_nil _⟩
  opening := ⟨[], List.forall_mem_nil _⟩
  subject := ⟨[], List.forall_mem_nil _⟩
  comma := ⟨[' '], List.forall_mem_singleton.mpr rfl⟩
  literal := ⟨[], List.forall_mem_nil _⟩
  closing := ⟨[], List.forall_mem_nil _⟩
  mark := '\''
  quotes := rfl

/-- A condition is printed in its layout. -/
theorem toList_text (condition : Condition) :
    condition.text.toList = Layout.printed.write condition := by
  simp [text, Layout.write, Layout.printed]

/-- A condition that is printed is read as it was if its literal contains no single quote. -/
theorem read?_text (named : condition.Named) (plain : '\'' ∉ condition.literal.toList) :
    read? condition.text = some condition :=
  read?_of_spells ⟨named, .printed, plain, toList_text condition⟩

/-- Nothing but blanks stands beside the bracket that ends a condition. -/
theorem blank_or_bracket {cs rest : List Char}
    (closing : after? ')' (Text.stripLeft cs) = some rest)
    (nothing : (Text.stripLeft rest).isEmpty = true) :
    ∀ c ∈ cs, Text.isBlank c = true ∨ c = ')' := by
  obtain ⟨before, whole⟩ := Text.exists_gap cs
  obtain ⟨beyond, rfl⟩ := Text.exists_gap_of_stripLeft_nil (List.isEmpty_iff.mp nothing)
  rw [after?_eq_some_iff.mp closing] at whole
  intro c member
  rw [whole, List.mem_append, List.mem_cons] at member
  rcases member with early | mark | late
  · exact .inl (before.property c early)
  · exact .inr mark
  · exact .inl (beyond.property c late)

/-- A condition that is printed is not read if its literal contains a single quote: that quote ends
the literal, and the closing one stands after the end. -/
theorem read?_text_eq_none (named : condition.Named) (quoted : '\'' ∈ condition.literal.toList) :
    read? condition.text = none := by
  obtain ⟨first, others, name, starts, within⟩ := named
  obtain ⟨before, beyond, split, plain⟩ := List.eq_append_cons_of_mem quoted
  have written := toList_text condition
  rw [Layout.write, name] at written
  have opened : Text.stripLeft (Layout.printed.comma ++ Layout.printed.mark ::
      (condition.literal.toList ++ Layout.printed.mark ::
        (Layout.printed.literal ++ ')' :: (Layout.printed.closing : List Char)))) =
      '\'' :: (condition.literal.toList ++ ['\'', ')']) := rfl
  have literal : literal? ('\'' :: (condition.literal.toList ++ ['\'', ')'])) =
      some (before, beyond ++ ['\'', ')']) := by
    refine literal?_eq_some_iff.mpr ⟨'\'', rfl, plain, ?_⟩
    rw [split, List.append_assoc, List.cons_append]
  rw [read?_subject starts within written, opened, literal, Option.bind_some]
  dsimp only
  cases closing : after? ')' (Text.stripLeft (beyond ++ ['\'', ')'])) with
  | none => rfl
  | some rest =>
    rw [Option.bind_some, if_neg]
    intro nothing
    have leftover := blank_or_bracket closing nothing '\'' (by simp)
    revert leftover
    decide

/-- What is printed of a condition is read as it was if its literal contains no single quote, and is
rejected otherwise. -/
theorem ofValue_text (named : condition.Named) (node : Option String) :
    ofValue (.text condition.text) node =
      if '\'' ∈ condition.literal.toList then .error (.expression condition.text node)
      else .ok condition := by
  by_cases quoted : '\'' ∈ condition.literal.toList
  · rw [if_pos quoted, ofValue, read?_text_eq_none named quoted]
  · rw [if_neg quoted, ofValue, read?_text named quoted]

/-- A condition that a value spells has a name as its subject. -/
theorem named_of_ofValue {source : Value} {node : Option String}
    (spelled : ofValue source node = .ok condition) : condition.Named := by
  unfold ofValue at spelled
  split at spelled
  · split at spelled
    · rename_i read
      cases spelled
      exact (spells_of_read? read).1
    · cases spelled
  · simp only [Computation.bind_eq_ok, Computation.throw_eq_ok, and_false, exists_false] at spelled

end Printing

end Condition

end Parley
