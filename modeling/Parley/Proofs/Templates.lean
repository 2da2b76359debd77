import Parley.Proofs.Conditions
import Parley.Proofs.Keywords
import Parley.Proofs.Lasting
import Parley.Template

/-!
# The cutting of templates

A placeholder stands where two opening braces, characters without braces and two closing braces
follow each other; its name is what is left of the characters between their blanks. A template is
cut at the first placeholder, then at the first one behind it, and so on, in exactly one way. The
cutting does not depend on variables, so rendering puts the text of a variable in the place of its
name and never reads it. A condition looks in the text that a placeholder of its subject shows.
-/

namespace Parley

open Parley.Computation (ok_of_toOption)

namespace Text

variable {cs core : List Char}

/-- Characters without blanks at their ends are what is left of others between their blanks. -/
def Strips (cs core : List Char) : Prop :=
  (∃ lead trail : Gap, cs = lead ++ (core ++ trail)) ∧
    (∀ c ∈ core.head?, isBlank c = false) ∧ ∀ c ∈ core.getLast?, isBlank c = false

/-- Blanks before characters are stripped with their own. -/
theorem stripLeft_append (gap : Gap) (cs : List Char) : stripLeft (gap ++ cs) = stripLeft cs :=
  List.dropWhile_append_of_pos gap.property

/-- Blanks behind characters are stripped with their own. -/
theorem stripRight_append (gap : Gap) (cs : List Char) :
    stripRight (cs ++ gap) = stripRight cs := by
  have blanks : ∀ c ∈ (gap : List Char).reverse, isBlank c = true := fun c member =>
    gap.property c (List.mem_reverse.mp member)
  rw [stripRight, List.reverse_append, List.dropWhile_append_of_pos blanks, stripRight]

/-- Characters end with the blanks that are stripped from their right. -/
theorem exists_trail (cs : List Char) : ∃ gap : Gap, cs = stripRight cs ++ gap := by
  obtain ⟨⟨gap, blanks⟩, whole⟩ := exists_gap cs.reverse
  refine ⟨⟨gap.reverse, fun c member => blanks c (List.mem_reverse.mp member)⟩, ?_⟩
  have turned := congrArg List.reverse whole
  rwa [List.reverse_reverse, List.reverse_append] at turned

/-- What is left of characters is what stripping leaves. -/
theorem strips_iff : Strips cs core ↔ stripChars cs = core := by
  constructor
  · rintro ⟨⟨lead, trail, rfl⟩, ends⟩
    have settled : stripChars core = core := stripChars_eq_self_iff.mpr ends
    rw [stripChars, stripLeft_append]
    cases core with
    | nil =>
      rw [List.nil_append, stripLeft_gap]
      rfl
    | cons c more =>
      have solid : isBlank c = false := ends.1 c rfl
      have left : ∀ rest, stripLeft (c :: rest) = c :: rest := fun rest => by
        simp [stripLeft, solid]
      rw [List.cons_append, left, ← List.cons_append, stripRight_append]
      rwa [stripChars, left] at settled
  · rintro rfl
    obtain ⟨lead, before⟩ := exists_gap cs
    obtain ⟨trail, behind⟩ := exists_trail (stripLeft cs)
    refine ⟨⟨lead, trail, ?_⟩, stripChars_eq_self_iff.mp (stripChars_idempotent cs)⟩
    rw [stripChars, ← behind, ← before]

end Text

namespace Template

variable {cs rest name : List Char}

/-- A placeholder with a name stands at the start of some characters, before the rest. -/
def Opens (cs name rest : List Char) : Prop :=
  ∃ body, cs = '\x7b' :: '\x7b' :: (body ++ '\x7d' :: '\x7d' :: rest) ∧
    (∀ c ∈ body, c ≠ '\x7b' ∧ c ≠ '\x7d') ∧ Text.Strips body name

/-- A character may stand in a placeholder if it is not a brace. -/
theorem isBody_iff {c : Char} : isBody c = true ↔ c ≠ '\x7b' ∧ c ≠ '\x7d' := by
  simp [isBody]

/-- The body of a placeholder is what stands before its closing braces, without braces. -/
theorem body?_eq_some_iff {body : List Char} :
    body? cs = some (body, rest) ↔
      cs = body ++ '\x7d' :: '\x7d' :: rest ∧ ∀ c ∈ body, c ≠ '\x7b' ∧ c ≠ '\x7d' := by
  simp only [← isBody_iff]
  constructor
  · intro found
    unfold body? at found
    split at found
    · rename_i closing
      obtain ⟨rfl, rfl⟩ := Prod.mk.inj (Option.some.inj found)
      refine ⟨?_, fun c member => List.mem_takeWhile_imp member⟩
      rw [← closing, List.takeWhile_append_dropWhile]
    · cases found
  · rintro ⟨rfl, within⟩
    have brace : isBody '\x7d' = false := by decide
    rw [body?, List.dropWhile_append_of_pos within, List.takeWhile_append_of_pos within]
    simp [brace]

/-- A placeholder opens with two braces before its body. -/
theorem opens_iff : Opens cs name rest ↔
    ∃ inner body, cs = '\x7b' :: '\x7b' :: inner ∧ body? inner = some (body, rest) ∧
      Text.stripChars body = name := by
  simp only [Opens, body?_eq_some_iff, Text.strips_iff]
  constructor
  · rintro ⟨body, rfl, within, left⟩
    exact ⟨_, body, rfl, ⟨rfl, within⟩, left⟩
  · rintro ⟨_, body, rfl, ⟨rfl, within⟩, left⟩
    exact ⟨body, rfl, within, left⟩

/-- At one place stands at most one placeholder. -/
theorem Opens.unique (opens : Opens cs name rest) {other more : List Char}
    (again : Opens cs other more) : other = name ∧ more = rest := by
  obtain ⟨inner, body, rfl, found, rfl⟩ := opens_iff.mp opens
  obtain ⟨_, _, same, refound, rfl⟩ := opens_iff.mp again
  cases same
  cases refound.symm.trans found
  exact ⟨rfl, rfl⟩

/-- No placeholder stands at the start of some characters. -/
def Plain (cs : List Char) : Prop := ∀ name rest, ¬Opens cs name rest

/-- At none of the first characters, as far as the rest, stands a placeholder. -/
def Clear (before rest : List Char) : Prop :=
  ∀ early tail, before ++ rest = early ++ tail → early.length < before.length → Plain tail

/-- How characters are cut into segments: nowhere if no placeholder stands among them, and otherwise
at the first placeholder, behind which the rest is cut. -/
inductive Cuts : List Char → List Segment → Prop where
  /-- No placeholder stands in what is left. -/
  | last {cs : List Char} (clear : Clear cs []) : Cuts cs [.literal cs]
  /-- A placeholder stands behind some characters, and none before it. -/
  | next {before cs name rest : List Char} {segments : List Segment} (clear : Clear before cs)
    (opens : Opens cs name rest) (others : Cuts rest segments) :
    Cuts (before ++ cs) (.literal before :: .placeholder name :: segments)

/-- A placeholder has characters. -/
theorem Opens.ne_nil (opens : Opens cs name rest) : cs ≠ [] := by
  obtain ⟨body, rfl, -⟩ := opens
  exact List.cons_ne_nil _ _

/-- Where a placeholder stands, the characters before and from there on are not clear. -/
theorem Opens.not_clear {before : List Char} (opens : Opens cs name rest) :
    ¬Clear (before ++ cs) [] := by
  intro clear
  refine clear before cs (List.append_nil _) ?_ name rest opens
  have filled := List.length_pos_iff.mpr opens.ne_nil
  rw [List.length_append]
  omega

/-- Characters are cut in one way at most. -/
theorem Cuts.unique {segments others : List Segment} (cuts : Cuts cs segments)
    (again : Cuts cs others) : others = segments := by
  induction cuts generalizing others with
  | last clear =>
    cases again with
    | last => rfl
    | next _ opens _ => exact absurd clear opens.not_clear
  | @next before cs name rest segments first opens _ ih =>
    generalize whole : before ++ cs = all at again
    cases again with
    | last clear => exact absurd (whole ▸ clear) opens.not_clear
    | @next ahead tail label more pieces early reopens between =>
      -- Neither of the two placeholders comes before the other.
      have level : ahead.length = before.length := by
        rcases Nat.lt_trichotomy ahead.length before.length with less | same | more
        · exact absurd reopens (first ahead tail whole less _ _)
        · exact same
        · exact absurd opens (early before cs whole.symm more _ _)
      obtain ⟨rfl, rfl⟩ := List.append_inj whole level.symm
      obtain ⟨rfl, rfl⟩ := opens.unique reopens
      rw [ih between]

/-- Nothing has to be passed over at the start. -/
theorem clear_nil (rest : List Char) : Clear [] rest := fun _ _ _ less => absurd less (by simp)

/-- A character at which no placeholder stands is passed over. -/
theorem Clear.step {before : List Char} {c : Char} (clear : Clear before.reverse (c :: cs))
    (plain : Plain (c :: cs)) : Clear (c :: before).reverse cs := by
  intro early tail whole less
  rw [List.reverse_cons, List.append_assoc, List.singleton_append] at whole
  rw [List.reverse_cons, List.length_append, List.length_singleton] at less
  rcases Nat.lt_or_eq_of_le (Nat.le_of_lt_succ less) with before | here
  · exact clear early tail whole before
  · obtain ⟨-, rfl⟩ := List.append_inj whole here.symm
    exact plain

/-- A template is cut where the scan cuts it: the characters that were passed over are clear. -/
theorem segmentsFrom_cuts (before cs : List Char) (clear : Clear before.reverse cs) :
    Cuts (before.reverse ++ cs) (segmentsFrom before cs) := by
  induction before, cs using segmentsFrom.induct with
  | case1 before =>
    rw [segmentsFrom, List.append_nil]
    exact .last clear
  | case2 before cs body rest found ih =>
    rw [segmentsFrom]
    split
    · rename_i other more refound
      cases refound.symm.trans found
      have opens : Opens ('\x7b' :: '\x7b' :: cs) (Text.stripChars body) rest :=
        opens_iff.mpr ⟨cs, body, rfl, found, rfl⟩
      exact .next clear opens (ih (clear_nil rest))
    · rename_i none
      cases none.symm.trans found
  | case3 before cs none ih =>
    have plain : Plain ('\x7b' :: '\x7b' :: cs) := by
      intro name rest opens
      obtain ⟨inner, body, same, found, -⟩ := opens_iff.mp opens
      cases same
      cases none.symm.trans found
    have cuts := ih (clear.step plain)
    rw [List.reverse_cons, List.append_assoc, List.singleton_append] at cuts
    rw [segmentsFrom]
    split
    · rename_i found
      cases none.symm.trans found
    · exact cuts
  | case4 before c cs other ih =>
    have plain : Plain (c :: cs) := by
      intro name rest opens
      obtain ⟨inner, body, same, -⟩ := opens_iff.mp opens
      cases same
      exact other inner rfl rfl
    have cuts := ih (clear.step plain)
    rw [List.reverse_cons, List.append_assoc, List.singleton_append] at cuts
    rw [segmentsFrom]
    · exact cuts
    · exact other

/-- A template is cut into its segments, and into nothing else. -/
theorem cuts_iff (template : String) (segments : List Segment) :
    Cuts template.toList segments ↔ segments = Template.segments template := by
  have cuts : Cuts template.toList (Template.segments template) :=
    segmentsFrom_cuts [] template.toList (clear_nil _)
  constructor
  · exact fun other => cuts.unique other
  · rintro rfl
    exact cuts

/-- What is shown of a variable: nothing if it is not set or null, a small word of a truth value,
and the text of any other value. -/
inductive Shows : Option Value → String → Prop where
  /-- It is not set. -/
  | unset : Shows none ""
  /-- It is null. -/
  | null : Shows (some .null) ""
  /-- It is true. -/
  | yes : Shows (some (.bool true)) "true"
  /-- It is false. -/
  | no : Shows (some (.bool false)) "false"
  /-- It has another value. -/
  | other {value : Value} (filled : value ≠ .null) (untrue : ∀ b, value ≠ .bool b) :
    Shows (some value) value.toText

/-- What stands for a segment: a literal for itself, and the text of its variable for a
placeholder. -/
inductive Stands (vars : Variables) : Segment → List Char → Prop where
  /-- A literal stands for itself. -/
  | literal (cs : List Char) : Stands vars (.literal cs) cs
  /-- The text of its variable stands for a placeholder. -/
  | placeholder {name : List Char} {text : String}
    (shows : Shows (vars.get? (String.ofList name)) text) :
    Stands vars (.placeholder name) text.toList

/-- The text of a variable in a template is what is shown of it. -/
theorem shows_slotText (value : Option Value) : Shows value (slotText value) := by
  cases value with
  | none => exact .unset
  | some value =>
    cases value with
    | null => exact .null
    | bool b =>
      cases b with
      | true => exact .yes
      | false => exact .no
    | int | float | text | list | dict | tuple | octets | set | date | moment | foreign =>
      exact .other nofun nofun

/-- The characters of a segment stand for it. -/
theorem stands_render (vars : Variables) (segment : Segment) :
    Stands vars segment (segment.render vars) := by
  cases segment with
  | literal cs => exact .literal cs
  | placeholder name => exact .placeholder (shows_slotText _)

/-- What is rendered of a template are the characters of its segments. -/
theorem toList_render (vars : Variables) (template : String) :
    (render vars template).toList = ((segments template).map (Segment.render vars)).flatten := by
  rw [render, String.toList_ofList, renderWith, List.flatMap_def]

/-- A text that a variable is set to stands as it is for the placeholders of its name, and every
other segment keeps what stands for it. -/
theorem render_set (vars : Variables) (name text : String) (segment : Segment) :
    segment.render (vars.set name (.text text)) =
      if segment = .placeholder name.toList then text.toList else segment.render vars := by
  cases segment with
  | literal cs => rfl
  | placeholder label =>
    rw [Segment.render, Segment.render, Variables.get?_set]
    by_cases same : label = name.toList
    · rw [same, String.ofList_toList, if_pos rfl, if_pos rfl]
      rfl
    · have apart : String.ofList label ≠ name := fun equal =>
        same (by rw [← equal, String.toList_ofList])
      rw [if_neg apart, if_neg fun equal => same (Segment.placeholder.inj equal)]

/-- Braces inside and beside other braces: the innermost pairs close, and a name may be empty. -/
example : segments "\x7b\x7b\x7ba\x7d\x7d\x7d \x7b\x7b b \x7b\x7b\x7d\x7d" =
    [.literal ['\x7b'], .placeholder ['a'], .literal "\x7d \x7b\x7b b ".toList, .placeholder [],
      .literal []] := by
  decide +kernel

/-- A template that greets by name. -/
def salute : String := "Hi \x7b\x7b name \x7d\x7d"

/-- Variables with a name that looks like a placeholder. -/
def disguised : Variables :=
  (Variables.empty .null).set "name" (.text "\x7b\x7bsecret\x7d\x7d")

/-- A name without blanks and braces between double braces is cut as its placeholder. -/
theorem segments_of_name {name : List Char} (solid : ∀ c ∈ name, Text.isBlank c = false)
    (within : ∀ c ∈ name, c ≠ '\x7b' ∧ c ≠ '\x7d') :
    segments ("\x7b\x7b" ++ String.ofList name ++ "\x7d\x7d") =
      [.literal [], .placeholder name, .literal []] := by
  have opens : Opens ('\x7b' :: '\x7b' :: (name ++ ['\x7d', '\x7d'])) name [] :=
    opens_iff.mpr ⟨_, name, rfl, body?_eq_some_iff.mpr ⟨rfl, within⟩, Text.stripChars_eq_self solid⟩
  have cuts : Cuts ([] ++ '\x7b' :: '\x7b' :: (name ++ ['\x7d', '\x7d']))
      [.literal [], .placeholder name, .literal []] :=
    .next (clear_nil _) opens (.last (clear_nil _))
  refine ((cuts_iff _ _).mp ?_).symm
  simpa using cuts

end Template

namespace Condition

variable {name : List Char}

/-- A character that may go on in a name is not a brace. -/
theorem ne_brace_of_inName {c : Char} (within : inName c = true) : c ≠ '\x7b' ∧ c ≠ '\x7d' := by
  constructor <;> rintro rfl <;> revert within <;> decide +kernel

/-- A character that may start a name is not a brace. -/
theorem ne_brace_of_startsName {c : Char} (starts : startsName c = true) :
    c ≠ '\x7b' ∧ c ≠ '\x7d' := by
  constructor <;> rintro rfl <;> revert starts <;> decide +kernel

/-- Without regard to case, the text in which a condition looks is what a template shows. -/
theorem fold_subjectText (vars : Variables) (name : String) :
    Text.fold (subjectText (vars.read name)) = Text.fold (Template.slotText (vars.get? name)) := by
  rw [Variables.read]
  cases vars.get? name with
  | none => rfl
  | some value =>
    rw [Option.getD_some]
    cases value with
    | bool b => cases b <;> decide +kernel
    | null | int | float | text | list | dict | tuple | octets | set | date | moment | foreign =>
      rfl

/-- A placeholder of the subject of a condition is rendered as the text of its variable. -/
theorem render_subject {condition : Condition} (named : condition.Named) (vars : Variables) :
    Template.render vars ("\x7b\x7b" ++ condition.subject ++ "\x7d\x7d") =
      Template.slotText (vars.get? condition.subject) := by
  obtain ⟨first, others, spelled, starts, within⟩ := named
  have solid : ∀ c ∈ condition.subject.toList, Text.isBlank c = false := by
    rw [spelled]
    refine List.forall_mem_cons.mpr ⟨isBlank_eq_false_of_startsName starts, fun c member => ?_⟩
    rw [Bool.eq_false_iff]
    intro blank
    exact absurd (within c member) (by rw [inName_eq_false_of_isBlank blank]; decide)
  have braceless : ∀ c ∈ condition.subject.toList, c ≠ '\x7b' ∧ c ≠ '\x7d' := by
    rw [spelled]
    exact List.forall_mem_cons.mpr
      ⟨ne_brace_of_startsName starts, fun c member => ne_brace_of_inName (within c member)⟩
  have cut := Template.segments_of_name solid braceless
  rw [String.ofList_toList] at cut
  rw [← String.toList_inj, Template.toList_render, cut]
  simp [Template.Segment.render]

end Condition

end Parley
