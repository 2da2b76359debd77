import Mathlib.Data.List.Pairwise
import Parley.Proofs.Words

/-!
# Keywords that match what was authored

Small letters fold to what the letters folded to, whatever stands beside them. So the kept form of
an authored word occurs in a message, without regard to case, exactly if the stripped word does, and
keeping each word once changes nothing about which of them is found first.
-/

namespace Parley

open Parley.Computation

namespace Text

/-- A run of an ascending table moves its members where the table does. -/
theorem shift_of_moves {runs : List Run} (ordered : runs.Pairwise Run.Before) {run : Run}
    (member : run ∈ runs) {code : Nat} (moved : Moves run code) :
    shift runs code = image run code := by
  rcases shift_cases ordered code with ⟨other, among, otherMoved, moves⟩ | ⟨unmoved, -⟩
  · -- Of two runs one ends before the other begins, so they do not move the same.
    have apart : runs.Pairwise fun first second => ¬(Moves first code ∧ Moves second code) :=
      ordered.imp fun before both => by
        unfold Run.Before at before
        unfold Moves at both
        omega
    have symmetric : Std.Symm fun first second : Run => ¬(Moves first code ∧ Moves second code) :=
      ⟨fun _ _ differ both => differ both.symm⟩
    have same : other = run := by
      by_contra differ
      exact apart.forall among member differ ⟨otherMoved, moved⟩
    rw [moves, same]
  · exact absurd moved (unmoved run member)

/-- A table keeps what none of its runs moves. -/
theorem shift_of_unmoved {runs : List Run} (ordered : runs.Pairwise Run.Before) {code : Nat}
    (unmoved : ∀ run ∈ runs, ¬Moves run code) : shift runs code = code := by
  rcases shift_cases ordered code with ⟨run, member, moved, -⟩ | ⟨-, stays⟩
  · exact absurd moved (unmoved run member)
  · exact stays

/-- The code points that a code point folds to. -/
def foldCodes (code : Nat) : List Nat := (foldExpansions.lookup code).getD [shift foldRuns code]

/-- The runs of the lower case that the folding turns round. -/
def turnedRuns : List Run := [(5024, 5103, 1, 38864), (5104, 5109, 1, 8)]

/-- The runs of the lower case whose members fold to several characters. -/
def severalRuns : List Run := [
  (7838, 7838, 1, -7615), (8072, 8079, 1, -8), (8088, 8095, 1, -8), (8104, 8111, 1, -8),
  (8124, 8124, 1, -9), (8140, 8140, 1, -9), (8188, 8188, 1, -9)]

/-- The run that stays where another one is. -/
def Run.still (run : Run) : Run := (run.1, run.2.1, run.2.2.1, 0)

/-- The run that moves the images of another one back. -/
def Run.back (run : Run) : Run :=
  (image run run.1, image run run.2.1, run.2.2.1, -run.2.2.2)

/-- No code point that folds to several is a member of a run, or the image of one. -/
def foldsSingly (run : Run) : Bool :=
  foldExpansions.all fun several =>
    clears run.still (several.1, several.1, 2, 0) && clears run (several.1, several.1, 2, 0)

/-- The runs of the folding come one after another. -/
theorem foldRuns_ordered : foldRuns.Pairwise Run.Before := by
  rw [← List.isChain_iff_pairwise]
  unfold Run.Before
  decide +kernel

/-- All other runs of the lower case are runs of the folding. -/
theorem commonRuns_sublist :
    (lowerRuns.filter fun run => !(turnedRuns ++ severalRuns).contains run).isSublist foldRuns =
      true := by
  decide +kernel

/-- Their images are not folded. -/
theorem commonRuns_clear : (lowerRuns.all fun run => (turnedRuns ++ severalRuns).contains run ||
    foldsSingly run && foldRuns.all (clears run)) = true := by
  decide +kernel

/-- The members of the turned runs are not folded, but their images are folded back. -/
theorem turnedRuns_back : ∀ run ∈ turnedRuns, foldsSingly run = true ∧
    (foldRuns.all fun other => clears run.still other) = true ∧ run.back ∈ foldRuns := by
  decide +kernel

/-- The others fold to the same characters as their images. -/
theorem severalRuns_fold : ∀ run ∈ severalRuns, ∀ place < run.2.1 - run.1 + 1,
    (foldExpansions.lookup (run.1 + place)).isSome = true ∧
      foldExpansions.lookup (image run (run.1 + place)) =
        foldExpansions.lookup (run.1 + place) := by
  decide +kernel

/-- The folding of ASCII characters is that of the table. -/
theorem toLower_eq_fold : ∀ code < 128, [(Char.ofNat code).toLower] =
    (foldCodes code).map Char.ofNat := by
  decide +kernel

/-- What no run moves and is not among those that fold to several folds to itself. -/
theorem foldCodes_of_unmoved {code : Nat} (single : foldExpansions.lookup code = none)
    (unmoved : ∀ run ∈ foldRuns, ¬Moves run code) : foldCodes code = [code] := by
  rw [foldCodes, single, Option.getD_none, shift_of_unmoved foldRuns_ordered unmoved]

/-- What a run moves and is not among those that fold to several folds to its image. -/
theorem foldCodes_of_moves {code : Nat} (single : foldExpansions.lookup code = none) {run : Run}
    (member : run ∈ foldRuns) (moved : Moves run code) : foldCodes code = [image run code] := by
  rw [foldCodes, single, Option.getD_none, shift_of_moves foldRuns_ordered member moved]

variable {run : Run} {code : Nat}

/-- A run that stays has its members as images. -/
theorem image_still (run : Run) (code : Nat) : image run.still code = code := by
  simp [image, Run.still]

/-- What a run moves is moved back by the run that does so. -/
theorem moves_back (positive : 0 ≤ (run.1 : Int) + run.2.2.2) (moved : Moves run code) :
    Moves run.back (image run code) ∧ image run.back (image run code) = code := by
  obtain ⟨above, below, place⟩ := moved
  have distance : image run code - image run run.1 = code - run.1 := by
    unfold image
    omega
  refine ⟨⟨?_, ?_, ?_⟩, ?_⟩ <;> simp only [Run.back]
  · unfold image
    omega
  · unfold image
    omega
  · rw [distance, place]
  · change (((image run code : Nat) : Int) + -run.2.2.2).toNat = code
    unfold image
    omega

/-- What a run moves and what it moves that to fold to one character each. -/
theorem lookup_of_foldsSingly (single : foldsSingly run = true)
    (positive : 0 ≤ (run.1 : Int) + run.2.2.2) (moved : Moves run code) :
    foldExpansions.lookup code = none ∧ foldExpansions.lookup (image run code) = none := by
  have clear := List.all_eq_true.mp single
  have own (key : Nat) : Moves (key, key, 2, 0) key := ⟨le_rfl, le_rfl, by simp⟩
  constructor
  · rw [List.lookup_eq_none_iff]
    intro several member
    rw [bne_iff_ne]
    rintro rfl
    have still := (Bool.and_eq_true_iff.mp (clear several member)).1
    have unmoved := not_moves_of_clears still (by simp [Run.still]) moved
    rw [image_still] at unmoved
    exact unmoved (own several.1)
  · rw [List.lookup_eq_none_iff]
    intro several member
    rw [bne_iff_ne]
    intro same
    have apart := (Bool.and_eq_true_iff.mp (clear several member)).2
    have unmoved := not_moves_of_clears apart positive moved
    rw [same] at unmoved
    exact unmoved (own several.1)

/-- What a run of the lower case moves folds like what it is moved to. -/
theorem foldCodes_image (member : run ∈ lowerRuns) (moved : Moves run code) :
    foldCodes (image run code) = foldCodes code := by
  have positive := (lowerRuns_images run member).1
  by_cases common : run ∈ turnedRuns ++ severalRuns
  · rcases List.mem_append.mp common with turned | several
    · obtain ⟨single, still, back⟩ := turnedRuns_back run turned
      obtain ⟨first, second⟩ := lookup_of_foldsSingly single positive moved
      have unmoved : ∀ other ∈ foldRuns, ¬Moves other code := fun other among => by
        have apart := not_moves_of_clears (List.all_eq_true.mp still other among)
          (by simp [Run.still]) moved
        rwa [image_still] at apart
      obtain ⟨returns, whence⟩ := moves_back positive moved
      rw [foldCodes_of_unmoved first unmoved, foldCodes_of_moves second back returns, whence]
    · obtain ⟨above, below, -⟩ := moved
      have place : run.1 + (code - run.1) = code := by omega
      obtain ⟨folds, same⟩ := severalRuns_fold run several (code - run.1) (by omega)
      rw [place] at folds same
      obtain ⟨codes, found⟩ := Option.isSome_iff_exists.mp folds
      rw [foldCodes, foldCodes, same, found, Option.getD_some, Option.getD_some]
  · have kept : run ∈ foldRuns := by
      refine (List.isSublist_iff_sublist.mp commonRuns_sublist).subset ?_
      rw [List.mem_filter]
      exact ⟨member, by simpa using common⟩
    have checked := List.all_eq_true.mp commonRuns_clear run member
    rw [Bool.or_eq_true, List.contains_iff_mem, or_iff_right common, Bool.and_eq_true] at checked
    obtain ⟨first, second⟩ := lookup_of_foldsSingly checked.1 positive moved
    have unmoved : ∀ other ∈ foldRuns, ¬Moves other (image run code) := fun other among =>
      not_moves_of_clears (List.all_eq_true.mp checked.2 other among) positive moved
    rw [foldCodes_of_unmoved second unmoved, foldCodes_of_moves first kept moved]

/-- A character folds to what its code point folds to. -/
theorem foldChar_eq (c : Char) : foldChar c = (foldCodes c.toNat).map Char.ofNat := by
  unfold foldChar
  split
  · rename_i ascii
    have folds := toLower_eq_fold c.toNat ascii
    rwa [Char.ofNat_toNat] at folds
  · unfold expand foldCodes
    split
    · rename_i codes found
      rw [found, Option.getD_some]
    · rename_i absent
      rw [absent, Option.getD_none]
      rfl

/-- The lower case of a character folds like the character. -/
theorem foldChars_lowerChar (before : List Char) (c : Char) (after : List Char) :
    foldChars (lowerChar before c after) = foldChar c := by
  -- Both forms of a small sigma fold to one.
  by_cases sigma : c.toNat = 931
  · have code : c = Char.ofNat 931 := by rw [← sigma, Char.ofNat_toNat]
    rw [lowerChar, if_neg (by omega), if_pos sigma, code]
    split <;> decide +kernel
  rw [lowerChar_eq_expand sigma, expand]
  split
  · rename_i codes several
    obtain ⟨code, rfl⟩ := expansion_eq several
    have letter : c = Char.ofNat 304 := by rw [← code, Char.ofNat_toNat]
    rw [letter]
    decide +kernel
  · rw [foldChars, List.flatMap_singleton, foldChar_eq, foldChar_eq]
    rcases shift_cases lowerRuns_ordered c.toNat with ⟨run, among, moved, becomes⟩ | ⟨-, stays⟩
    · have small : (Char.ofNat (shift lowerRuns c.toNat)).toNat = image run c.toNat := by
        rw [becomes, Char.ofNat, dif_pos (settled_image among moved).1]
        rfl
      rw [small, foldCodes_image among moved]
    · rw [stays, Char.ofNat_toNat]

/-- The lower case of characters folds like the characters. -/
theorem foldChars_lowerFrom (before cs : List Char) :
    foldChars (lowerFrom before cs) = foldChars cs := by
  induction cs generalizing before with
  | nil => rfl
  | cons c rest ih =>
    rw [lowerFrom, foldChars_append, foldChars_lowerChar, ih]
    rfl

/-- Small letters fold like the letters. -/
theorem fold_lower (text : String) : fold (lower text) = fold text := by
  rw [fold, fold, lower, String.toList_ofList, foldChars_lowerFrom]

end Text

namespace Keyword

/-- A word is kept at the end, or was kept already, so what is looked for is found where it was. -/
theorem find?_foldl_keep (p : String → Bool) (words before : List String) :
    (words.foldl keep before).find? p = (before ++ words).find? p := by
  induction words generalizing before with
  | nil => rw [List.foldl_nil, List.append_nil]
  | cons first rest ih =>
    rw [List.foldl_cons, ih, keep]
    split
    · rename_i known
      rw [List.contains_iff_mem] at known
      -- If the word were found, so would be the one before.
      simp only [List.find?_append, List.find?_cons]
      cases found : before.find? p with
      | some word => rfl
      | none =>
        rw [List.find?_eq_none] at found
        simp [found first known]
    · rw [List.append_assoc, List.singleton_append]

/-- An authored word meets a message if it is not blank and occurs in it without regard to case. -/
def Meets (word message : String) : Prop :=
  Text.strip word ≠ "" ∧ (Text.fold (Text.strip word)).toList <:+: (Text.fold message).toList

instance (word message : String) : Decidable (Meets word message) :=
  inferInstanceAs (Decidable (_ ∧ _))

/-- The first of the kept keywords that a message contains is the kept form of the first word that
meets it. -/
theorem find?_clean (words : List String) (message : String) :
    find? (clean words) message =
      (words.find? fun word => decide (Meets word message)).map tidy := by
  have meets (word : String) :
      ((Text.strip word != "") = true ∧ isIn (tidy word) message = true) ↔ Meets word message := by
    by_cases present : Text.strip word = ""
    · simp [present, Meets]
    · have kept := tidy_ne_empty present
      have folds : Text.fold (tidy word) = Text.fold (Text.strip word) := Text.fold_lower _
      simp [present, Meets, isIn, kept, folds, Text.contains, Text.occurs_iff]
  rw [find?, clean_eq, find?_foldl_keep, List.nil_append, List.find?_map, List.find?_filter]
  simp only [Function.comp_apply, meets]

end Keyword

namespace Flow

/-- Keywords are authored as a list of texts, or as one text in which commas stand between them. -/
inductive Authored : Value → List String → Prop where
  /-- A list of words. -/
  | list (words : List String) : Authored (.list (words.map .text)) words
  /-- A text of words, with a comma between neighbours. -/
  | joined {words : List String} (present : words ≠ [])
      (whole : ∀ word ∈ words, ',' ∉ word.toList) : Authored (.text (Text.join "," words)) words

/-- Every text is one of words with commas. -/
theorem authored_text (text : String) : Authored (.text text) (Text.pieces ',' text) := by
  obtain ⟨present, whole, joins⟩ := Text.join_pieces ',' text
  have authored := Authored.joined present whole
  rwa [show Text.join "," (Text.pieces ',' text) = text from joins] at authored

/-- The keywords that are read are those that are kept of the authored words. -/
theorem Authored.readKeywords {value : Value} {words : List String}
    (authored : Authored value words) : readKeywords value = .ok (Keyword.clean words) := by
  have given : Keyword.authored value = .ok (words.map .text) := by
    cases authored with
    | list => rfl
    | joined present whole =>
      have cut : Text.pieces ',' (Text.join "," words) = words := Text.pieces_join present whole
      rw [Keyword.authored, cut]
  rw [Flow.readKeywords, given, ok_bind, mapM_wordOf_texts, ok_bind]
  rfl

/-- A wait with keywords is read unless its timeout is refused, and holds those that are kept. -/
theorem readWait_keywords {node : String} {entries : Entries} {value : Value}
    {keywords : List String} (given : pick entries keywordKeys = some value)
    (kept : readKeywords value = .ok keywords) :
    (∀ content, readWait node entries = .ok content → ∃ timeout hold,
      content = .wait timeout keywords hold) ∧
    ∀ failure, readWait node entries = .error failure →
      ∃ timeout, pick entries ["timeout", "timeoutSeconds", "timeout_seconds"] = some timeout ∧
        readTimeout node timeout = .error failure := by
  unfold keywordKeys at given
  rw [readWait_eq, given, Option.elim_some, kept]
  cases pick entries ["timeout", "timeoutSeconds", "timeout_seconds"] with
  | none =>
    refine ⟨?_, nofun⟩
    rintro content ⟨⟩
    exact ⟨_, _, rfl⟩
  | some timeout =>
    cases read : readTimeout node timeout with
    | error failure =>
      rw [Option.elim_some, read]
      refine ⟨nofun, ?_⟩
      rintro _ ⟨⟩
      exact ⟨timeout, rfl, read⟩
    | ok seconds =>
      rw [Option.elim_some, read]
      refine ⟨?_, nofun⟩
      rintro content ⟨⟩
      exact ⟨_, _, rfl⟩

/-- A wait that is read keeps, of the keywords that it is authored with, ones that match as
authored: a keyword is found in a message if and only if one of the words is not blank and occurs in
it without regard to case, and it is the kept form of the first such word. Nothing but its timeout
hinders a wait with such keywords from being read. -/
theorem authored_keywords_match (node : String) {entries : Entries} {value : Value}
    {words : List String} (given : pick entries keywordKeys = some value)
    (authored : Authored value words) :
    ∃ keywords, readKeywords value = .ok keywords ∧
      (∀ content, readWait node entries = .ok content → ∃ timeout hold,
        content = .wait timeout keywords hold) ∧
      (∀ failure, readWait node entries = .error failure →
        ∃ timeout, pick entries ["timeout", "timeoutSeconds", "timeout_seconds"] = some timeout ∧
          readTimeout node timeout = .error failure) ∧
      ∀ message, ∃ found, Keyword.findIn keywords (.text message) = .ok found ∧
        (found.isSome ↔ ∃ word ∈ words, Keyword.Meets word message) ∧
        ∀ keyword, found = some keyword ↔ ∃ before word after, words = before ++ word :: after ∧
          (∀ earlier ∈ before, ¬Keyword.Meets earlier message) ∧ Keyword.Meets word message ∧
          keyword = Text.lower (Text.strip word) := by
  obtain ⟨holds, refuses⟩ := readWait_keywords given authored.readKeywords
  refine ⟨Keyword.clean words, authored.readKeywords, holds, refuses, fun message =>
    ⟨Keyword.find? (Keyword.clean words) message, ?_, ?_, fun keyword => ?_⟩⟩
  · rw [Keyword.findIn, Keyword.replyText_text]
    rfl
  · rw [Keyword.find?_clean, Option.isSome_map, List.find?_isSome]
    simp only [decide_eq_true_eq]
  · rw [Keyword.find?_clean, Option.map_eq_some_iff]
    simp only [List.find?_eq_some_iff_append, decide_eq_true_eq, Bool.not_eq_true',
      decide_eq_false_iff_not]
    constructor
    · rintro ⟨word, ⟨meets, before, after, split, unmet⟩, rfl⟩
      exact ⟨before, word, after, split, unmet, meets, rfl⟩
    · rintro ⟨before, word, after, split, unmet, meets, rfl⟩
      exact ⟨word, ⟨meets, before, after, split, unmet⟩, rfl⟩

/-- A word with a sigma at its end is kept with a final one, and is found where there is none. -/
theorem final_sigma_matches : ∃ keywords,
    readKeywords (.text "Stop, ΤΕΛΟΣ ,ΤΕΛΟΣ") = .ok keywords ∧
      Keyword.findIn keywords (.text "τελοσ ή stop;") = .ok (some "stop") ∧
      Keyword.findIn keywords (.text "Τελοσπάντων") = .ok (some "τελος") := by
  have given : pick [(.text "expectedKeywords", .text "Stop, ΤΕΛΟΣ ,ΤΕΛΟΣ")] keywordKeys =
      some (.text "Stop, ΤΕΛΟΣ ,ΤΕΛΟΣ") := by
    simp [pick, keywordKeys]
  have cut : Text.pieces ',' "Stop, ΤΕΛΟΣ ,ΤΕΛΟΣ" = ["Stop", " ΤΕΛΟΣ ", "ΤΕΛΟΣ"] := by
    decide +kernel
  have authored : Authored (.text "Stop, ΤΕΛΟΣ ,ΤΕΛΟΣ") ["Stop", " ΤΕΛΟΣ ", "ΤΕΛΟΣ"] :=
    cut ▸ authored_text "Stop, ΤΕΛΟΣ ,ΤΕΛΟΣ"
  obtain ⟨keywords, read, -, -, finds⟩ := authored_keywords_match "wait" given authored
  refine ⟨keywords, read, ?_, ?_⟩
  · obtain ⟨found, answer, -, first⟩ := finds "τελοσ ή stop;"
    have meets : Keyword.Meets "Stop" "τελοσ ή stop;" := by decide +kernel
    rw [answer, (first "stop").mpr ⟨[], "Stop", _, rfl, by simp, meets, by decide +kernel⟩]
  · obtain ⟨found, answer, -, first⟩ := finds "Τελοσπάντων"
    have meets : Keyword.Meets " ΤΕΛΟΣ " "Τελοσπάντων" := by decide +kernel
    rw [answer, (first "τελος").mpr
      ⟨["Stop"], " ΤΕΛΟΣ ", _, rfl, by decide +kernel, meets, by decide +kernel⟩]

end Flow

end Parley
