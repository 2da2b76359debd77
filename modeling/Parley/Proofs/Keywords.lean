import Mathlib.Data.List.DropRight
import Parley.Keyword
import Parley.Proofs.Subjects

/-!
# Kept keywords

A keyword in its kept form stays as it is when it is tidied again: the lower case of a character
consists of characters that are their own lower case, and none of them is blank unless the character
was. So the keywords that are kept of some words are those that are kept of themselves.
-/

namespace Parley

namespace Text

/-- A run of a mapping: its first and last code point, the step between its members and the distance
to their images. -/
abbrev Run := Nat × Nat × Nat × Int

/-- A run moves a code point. -/
def Moves (run : Run) (code : Nat) : Prop :=
  run.1 ≤ code ∧ code ≤ run.2.1 ∧ (code - run.1) % run.2.2.1 = 0

instance (run : Run) (code : Nat) : Decidable (Moves run code) :=
  inferInstanceAs (Decidable (_ ∧ _ ∧ _))

/-- Where a run moves a code point. -/
def image (run : Run) (code : Nat) : Nat := ((code : Int) + run.2.2.2).toNat

/-- A run that is not empty ends before another begins. -/
def Run.Before (run other : Run) : Prop := run.1 ≤ run.2.1 ∧ run.2.1 < other.1

instance : Trans Run.Before Run.Before Run.Before :=
  ⟨fun first second => ⟨first.1, by unfold Run.Before at *; omega⟩⟩

/-- A code point is moved by a run of the table, or by none and stays. -/
theorem shift_cases {runs : List Run} (ordered : runs.Pairwise Run.Before) (code : Nat) :
    (∃ run ∈ runs, Moves run code ∧ shift runs code = image run code) ∨
      (∀ run ∈ runs, ¬Moves run code) ∧ shift runs code = code := by
  induction runs with
  | nil => exact .inr ⟨nofun, rfl⟩
  | cons run rest ih =>
    obtain ⟨above, ordered⟩ := List.pairwise_cons.mp ordered
    unfold shift
    split
    · rename_i low
      refine .inr ⟨List.forall_mem_cons.mpr ⟨fun moved => absurd moved.1 (by omega), ?_⟩, rfl⟩
      intro other member moved
      have beyond := above other member
      unfold Run.Before at beyond
      exact absurd moved.1 (by omega)
    rename_i reached
    split
    · rename_i moved
      simp only [Bool.and_eq_true, decide_eq_true_eq, beq_iff_eq] at moved
      exact .inl ⟨run, List.mem_cons_self, ⟨by omega, moved.1, moved.2⟩, rfl⟩
    · rename_i kept
      rcases ih ordered with ⟨other, member, moved, image⟩ | ⟨unmoved, image⟩
      · exact .inl ⟨other, List.mem_cons_of_mem _ member, moved, image⟩
      · refine .inr ⟨List.forall_mem_cons.mpr ⟨fun moved => kept ?_, unmoved⟩, image⟩
        simp only [Bool.and_eq_true, decide_eq_true_eq, beq_iff_eq]
        exact moved.2

/-- The images of a run lie beside another run, or between its members. -/
def clears (run other : Run) : Bool :=
  Nat.blt (image run run.2.1) other.1 || Nat.blt other.2.1 (image run run.1) ||
    Nat.beq other.2.2.1 2 && Nat.beq ((image run run.1 + other.1) % 2) 1 &&
      (Nat.beq run.2.2.1 2 || Nat.beq run.1 run.2.1)

/-- A run does not move the images of one that clears it. -/
theorem not_moves_of_clears {run other : Run} {code : Nat} (clear : clears run other = true)
    (positive : 0 ≤ (run.1 : Int) + run.2.2.2) (moved : Moves run code) :
    ¬Moves other (image run code) := by
  obtain ⟨first, last, step, distance⟩ := run
  obtain ⟨low, high, stride, shift⟩ := other
  simp only [clears, Bool.or_eq_true, Bool.and_eq_true, Nat.blt_eq, Nat.beq_eq] at clear
  unfold Moves image at *
  dsimp only at *
  rintro ⟨above, below, member⟩
  rcases clear with (under | beyond) | ⟨⟨rfl, odd⟩, rfl | rfl⟩ <;> omega

/-- A code point that is its own lower case. -/
def Settled (code : Nat) : Prop :=
  lowerExpansions.lookup code = none ∧ ∀ run ∈ lowerRuns, ¬Moves run code

instance (code : Nat) : Decidable (Settled code) := inferInstanceAs (Decidable (_ ∧ _))

/-- The runs of the lower case come one after another. -/
theorem lowerRuns_ordered : lowerRuns.Pairwise Run.Before := by
  rw [← List.isChain_iff_pairwise]
  unfold Run.Before
  decide +kernel

/-- The runs of the lower case clear each other, and themselves. -/
theorem lowerRuns_clear : (lowerRuns.all fun run => lowerRuns.all (clears run)) = true := by
  decide +kernel

/-- The images of the runs of the lower case are characters, none is blank, and none has a lower
case of several characters. -/
theorem lowerRuns_images : ∀ run ∈ lowerRuns, 0 ≤ (run.1 : Int) + run.2.2.2 ∧
    (image run run.2.1 < 55296 ∨ 57344 ≤ image run run.1 ∧ image run run.2.1 < 1114112) ∧
    clears run (304, 304, 1, 0) = true ∧
    ∀ blanks ∈ blankRanges, image run run.2.1 < blanks.1 ∨ blanks.2 < image run run.1 := by
  decide +kernel

/-- One character only has a lower case of several. -/
theorem expansion_eq {code : Nat} {codes : List Nat}
    (several : lowerExpansions.lookup code = some codes) : code = 304 ∧ codes = [105, 775] := by
  obtain ⟨before, rest, split, -⟩ := List.lookup_eq_some_iff.mp several
  have member : (code, codes) ∈ lowerExpansions :=
    split ▸ List.mem_append_right before List.mem_cons_self
  simpa [lowerExpansions] using member

/-- An image of a run of the lower case is a character that is its own lower case and not blank. -/
theorem settled_image {run : Run} (member : run ∈ lowerRuns) {code : Nat} (moved : Moves run code) :
    (image run code).isValidChar ∧ Settled (image run code) ∧
      inRanges blankRanges (image run code) = false := by
  obtain ⟨positive, valid, single, apart⟩ := lowerRuns_images run member
  have between : image run run.1 ≤ image run code ∧ image run code ≤ image run run.2.1 := by
    unfold Moves at moved
    unfold image
    omega
  refine ⟨?_, ⟨?_, ?_⟩, ?_⟩
  · unfold Nat.isValidChar
    omega
  · have other : image run code ≠ 304 := fun same =>
      not_moves_of_clears single positive moved ⟨same.ge, same.le, Nat.mod_one _⟩
    cases found : lowerExpansions.lookup (image run code) with
    | none => rfl
    | some codes => exact absurd (expansion_eq found).1 other
  · intro other among
    have clear := List.all_eq_true.mp (List.all_eq_true.mp lowerRuns_clear run member) other among
    exact not_moves_of_clears clear positive moved
  · rw [Bool.eq_false_iff]
    intro blank
    obtain ⟨blanks, among, low, high⟩ := exists_range_of_inRanges blank
    have beside := apart blanks among
    omega

/-- The lower case of ASCII characters is that of the table. -/
theorem toLower_eq_expand : ∀ code < 128, [(Char.ofNat code).toLower] =
    expand lowerExpansions lowerRuns (Char.ofNat code) := by
  decide +kernel

/-- But for the sigma, the lower case of a character is that of the table. -/
theorem lowerChar_eq_expand {c : Char} (other : c.toNat ≠ 931) (before after : List Char) :
    lowerChar before c after = expand lowerExpansions lowerRuns c := by
  rw [lowerChar, if_neg other]
  split
  · rename_i ascii
    rw [← Char.ofNat_toNat c, toLower_eq_expand c.toNat ascii]
  · rfl

/-- A settled character is its own lower case wherever it stands. -/
theorem lowerChar_of_settled {c : Char} (settled : Settled c.toNat) (before after : List Char) :
    lowerChar before c after = [c] := by
  obtain ⟨single, unmoved⟩ := settled
  have other : c.toNat ≠ 931 := by
    intro sigma
    rw [sigma] at unmoved
    exact unmoved (931, 939, 1, 32) (by decide +kernel) (by decide)
  rw [lowerChar_eq_expand other, expand, single]
  rcases shift_cases lowerRuns_ordered c.toNat with ⟨run, member, moved, -⟩ | ⟨-, stays⟩
  · exact absurd moved (unmoved run member)
  · simp only [stays, Char.ofNat_toNat]

/-- The lower case of a character consists of settled characters, and none of them is blank unless
the character is. -/
theorem mem_lowerChar {before after : List Char} {c d : Char}
    (member : d ∈ lowerChar before c after) :
    Settled d.toNat ∧ (isBlank c = false → isBlank d = false) := by
  -- What a capital sigma becomes depends on what stands beside it; all else is in the table.
  by_cases sigma : c.toNat = 931
  · rw [lowerChar, if_neg (by omega), if_pos sigma] at member
    split at member <;> rw [List.mem_singleton] at member <;> subst member <;>
      exact ⟨by decide +kernel, fun _ => by decide⟩
  rw [lowerChar_eq_expand sigma, expand] at member
  split at member
  · rename_i codes several
    obtain ⟨-, rfl⟩ := expansion_eq several
    simp only [List.map_cons, List.map_nil, List.mem_cons, List.not_mem_nil, or_false] at member
    rcases member with rfl | rfl <;> exact ⟨by decide +kernel, fun _ => by decide⟩
  · rename_i single
    rw [List.mem_singleton] at member
    rcases shift_cases lowerRuns_ordered c.toNat with ⟨run, among, moved, becomes⟩ |
      ⟨unmoved, stays⟩
    · obtain ⟨valid, settled, clear⟩ := settled_image among moved
      have code : d.toNat = image run c.toNat := by
        rw [member, becomes, Char.ofNat, dif_pos valid]
        rfl
      exact ⟨by rwa [code], fun _ => by rwa [isBlank, code]⟩
    · rw [stays, Char.ofNat_toNat] at member
      subst member
      exact ⟨⟨single, unmoved⟩, id⟩

/-- The lower case of a character is not empty. -/
theorem lowerChar_ne_nil (before : List Char) (c : Char) (after : List Char) :
    lowerChar before c after ≠ [] := by
  unfold lowerChar expand
  split
  · exact List.cons_ne_nil _ _
  split
  · split <;> exact List.cons_ne_nil _ _
  split
  · rename_i codes several
    obtain ⟨-, rfl⟩ := expansion_eq several
    exact List.cons_ne_nil _ _
  · exact List.cons_ne_nil _ _

/-- Settled characters are their own lower case. -/
theorem lowerFrom_of_settled {cs : List Char} (settled : ∀ c ∈ cs, Settled c.toNat)
    (before : List Char) : lowerFrom before cs = cs := by
  induction cs generalizing before with
  | nil => rfl
  | cons c rest ih =>
    obtain ⟨first, others⟩ := List.forall_mem_cons.mp settled
    rw [lowerFrom, lowerChar_of_settled first, ih others, List.singleton_append]

/-- The lower case of characters consists of settled characters. -/
theorem lowerFrom_settled (before cs : List Char) :
    ∀ c ∈ lowerFrom before cs, Settled c.toNat := by
  induction cs generalizing before with
  | nil => exact nofun
  | cons c rest ih =>
    intro d member
    rcases List.mem_append.mp member with here | later
    · exact (mem_lowerChar here).1
    · exact ih _ d later

/-- Characters that do not begin with a blank do not so in small letters. -/
theorem lowerFrom_head {cs : List Char} (clear : ∀ c ∈ cs.head?, isBlank c = false)
    (before : List Char) : ∀ c ∈ (lowerFrom before cs).head?, isBlank c = false := by
  cases cs with
  | nil => exact nofun
  | cons c rest =>
    intro d first
    rw [lowerFrom, List.head?_append_of_ne_nil _ (lowerChar_ne_nil before c rest)] at first
    exact (mem_lowerChar (List.mem_of_head? first)).2 (clear c rfl)

/-- Characters that do not end with a blank do not so in small letters. -/
theorem lowerFrom_last {cs : List Char} (clear : ∀ c ∈ cs.getLast?, isBlank c = false)
    (before : List Char) : ∀ c ∈ (lowerFrom before cs).getLast?, isBlank c = false := by
  induction cs generalizing before with
  | nil => exact nofun
  | cons c rest ih =>
    intro d last
    rw [lowerFrom] at last
    cases rest with
    | nil =>
      rw [lowerFrom, List.append_nil] at last
      exact (mem_lowerChar (List.mem_of_getLast? last)).2 (clear c rfl)
    | cons next rest =>
      have more : lowerFrom (c :: before) (next :: rest) ≠ [] := by
        rw [lowerFrom]
        exact List.append_ne_nil_of_left_ne_nil (lowerChar_ne_nil _ _ _) _
      rw [List.getLast?_append_of_ne_nil _ more] at last
      exact ih (fun c member => clear c (by rwa [List.getLast?_cons_cons])) _ d last

/-- Characters are stripped if and only if neither their first nor their last is blank. -/
theorem stripChars_eq_self_iff {cs : List Char} :
    stripChars cs = cs ↔
      (∀ c ∈ cs.head?, isBlank c = false) ∧ ∀ c ∈ cs.getLast?, isBlank c = false := by
  have left : stripLeft cs = cs ↔ ∀ c ∈ cs.head?, isBlank c = false := by
    cases cs with
    | nil => simp [stripLeft]
    | cons c rest => simp [stripLeft, List.dropWhile_eq_self_iff]
  have right : stripRight cs = cs ↔ ∀ c ∈ cs.getLast?, isBlank c = false := by
    rw [stripRight_eq, List.rdropWhile_eq_self_iff]
    cases cs with
    | nil => simp
    | cons c rest => simp [List.getLast?_eq_some_getLast (List.cons_ne_nil c rest)]
  constructor
  · intro stripped
    have within : stripChars cs <+: stripLeft cs := by
      rw [stripChars, stripRight_eq]
      exact List.rdropWhile_prefix isBlank (stripLeft cs)
    have kept : stripLeft cs = cs := by
      refine (List.dropWhile_suffix isBlank).eq_of_length_le ?_
      have shorter := within.length_le
      rwa [stripped] at shorter
    rw [stripChars, kept] at stripped
    exact ⟨left.mp kept, right.mp stripped⟩
  · rintro ⟨first, last⟩
    rw [stripChars, left.mpr first, right.mpr last]

/-- The lower case of a text is its own lower case. -/
theorem lower_idempotent (text : String) : lower (lower text) = lower text := by
  simp only [lower, String.toList_ofList, lowerFrom_of_settled (lowerFrom_settled _ _)]

end Text

namespace Keyword

open Text

/-- The text of a reply is the reply. -/
theorem replyText_text (text : String) : replyText (.text text) = .ok text := by
  unfold replyText
  split
  · rfl
  · rename_i falsy
    simp only [Value.truthy, bne_iff_ne, ne_eq, Decidable.not_not] at falsy
    rw [falsy]

/-- A word that was tidied is stripped. -/
theorem strip_tidy (word : String) : strip (tidy word) = tidy word := by
  obtain ⟨first, last⟩ := stripChars_eq_self_iff.mp (stripChars_idempotent word.toList)
  have stripped : stripChars (lowerFrom [] (stripChars word.toList)) =
      lowerFrom [] (stripChars word.toList) :=
    stripChars_eq_self_iff.mpr ⟨lowerFrom_head first [], lowerFrom_last last []⟩
  simp only [tidy, lower, strip, String.toList_ofList, stripped]

/-- A word that was tidied stays when it is tidied again. -/
theorem tidy_idempotent (word : String) : tidy (tidy word) = tidy word := by
  rw [tidy, strip_tidy, tidy, lower_idempotent]

/-- A word that is not blank is not so when it was tidied. -/
theorem tidy_ne_empty {word : String} (present : strip word ≠ "") : tidy word ≠ "" := by
  have filled : stripChars word.toList ≠ [] := by
    intro empty
    exact present (by rw [strip, empty])
  obtain ⟨c, rest, split⟩ := List.exists_cons_of_ne_nil filled
  intro empty
  have none : lowerFrom [] (stripChars word.toList) = [] := by
    simpa [tidy, lower, strip] using empty
  rw [split, lowerFrom, List.append_eq_nil_iff] at none
  exact lowerChar_ne_nil [] c rest none.1

/-- Kept keywords are told apart, tidy and not blank. -/
structure Kept (keywords : List String) : Prop where
  /-- Each is kept once. -/
  distinct : keywords.Nodup
  /-- None is blank. -/
  present : ∀ word ∈ keywords, strip word ≠ ""
  /-- Each is tidy. -/
  tidied : ∀ word ∈ keywords, tidy word = word

/-- A word is kept once, at the end of those before it. -/
def keep (kept : List String) (word : String) : List String :=
  if kept.contains word then kept else kept ++ [word]

/-- The kept keywords of words are those of them that are not blank, tidied and kept one by one. -/
theorem clean_eq (words : List String) :
    clean words = ((words.filter fun word => strip word != "").map tidy).foldl keep [] := rfl

/-- Keeping words one by one keeps each once, and nothing else. -/
theorem foldl_keep (words : List String) {before : List String} (distinct : before.Nodup) :
    (words.foldl keep before).Nodup ∧
      ∀ word ∈ words.foldl keep before, word ∈ before ∨ word ∈ words := by
  induction words generalizing before with
  | nil => exact ⟨distinct, fun _ member => .inl member⟩
  | cons first rest ih =>
    rw [List.foldl_cons]
    have kept : (keep before first).Nodup ∧
        ∀ word ∈ keep before first, word ∈ before ∨ word = first := by
      unfold keep
      split
      · exact ⟨distinct, fun _ member => .inl member⟩
      · rename_i absent
        rw [List.contains_iff_mem] at absent
        refine ⟨?_, by simp⟩
        simp only [List.nodup_append, distinct, List.mem_singleton, forall_eq, true_and]
        exact ⟨by simp, fun word member same => absent (same ▸ member)⟩
    obtain ⟨once, among⟩ := ih kept.1
    refine ⟨once, fun word member => ?_⟩
    rcases among word member with early | late
    · exact (kept.2 word early).imp_right fun same => by simp [same]
    · exact .inr (List.mem_cons_of_mem _ late)

/-- Keeping words that are told apart, from each other and from those before, keeps them all. -/
theorem foldl_keep_of_nodup {words before : List String} (distinct : (before ++ words).Nodup) :
    words.foldl keep before = before ++ words := by
  induction words generalizing before with
  | nil => rw [List.foldl_nil, List.append_nil]
  | cons first rest ih =>
    have fresh : first ∉ before := fun early =>
      (List.nodup_append.mp distinct).2.2 first early first List.mem_cons_self rfl
    have kept : keep before first = before ++ [first] := by
      rw [keep, if_neg (by rwa [List.contains_iff_mem])]
    rw [List.append_cons] at distinct ⊢
    rw [List.foldl_cons, kept, ih distinct]

/-- The keywords that are kept of some words are kept keywords. -/
theorem kept_clean (words : List String) : Kept (clean words) := by
  obtain ⟨distinct, among⟩ := foldl_keep
    ((words.filter fun word => strip word != "").map tidy) List.nodup_nil
  have tidied : ∀ word ∈ clean words, ∃ source, strip source ≠ "" ∧ tidy source = word := by
    intro word member
    rw [clean_eq] at member
    obtain early | late := among word member
    · cases early
    · obtain ⟨source, filtered, rfl⟩ := List.mem_map.mp late
      exact ⟨source, by simpa using (List.mem_filter.mp filtered).2, rfl⟩
  refine ⟨clean_eq words ▸ distinct, fun word member => ?_, fun word member => ?_⟩
  · obtain ⟨source, present, rfl⟩ := tidied word member
    rw [strip_tidy]
    exact tidy_ne_empty present
  · obtain ⟨source, -, rfl⟩ := tidied word member
    exact tidy_idempotent source

/-- Kept keywords are kept as they are. -/
theorem Kept.clean_eq_self {keywords : List String} (kept : Kept keywords) :
    clean keywords = keywords := by
  have all : keywords.filter (fun word => strip word != "") = keywords :=
    List.filter_eq_self.mpr fun word member => by simpa using kept.present word member
  have same : keywords.map tidy = keywords := by
    rw [List.map_congr_left kept.tidied]
    exact List.map_id' keywords
  rw [clean_eq, all, same, foldl_keep_of_nodup (by simpa using kept.distinct), List.nil_append]

end Keyword

end Parley
