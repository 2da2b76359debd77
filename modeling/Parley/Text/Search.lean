/-!
# Finding and cutting text

The search for one text inside another, cutting at a separator, and joining. Main statements:
`occurs_iff` says that the search finds exactly the infixes, `pieces_join` that cutting undoes
joining and `join_pieces` that joining undoes cutting.
-/

namespace Parley.Text

/-- Whether the first characters occur side by side among the second. -/
def occurs (needle : List Char) : List Char → Bool
  | [] => needle.isEmpty
  | c :: rest => needle.isPrefixOf (c :: rest) || occurs needle rest

/-- The search finds exactly the infixes. -/
theorem occurs_iff {needle hay : List Char} : occurs needle hay = true ↔ needle <:+: hay := by
  induction hay with
  | nil => simp [occurs]
  | cons c rest ih =>
    rw [occurs, Bool.or_eq_true, ih, List.isPrefixOf_iff_prefix, List.infix_cons_iff]

/-- Whether a text contains another. -/
def contains (text needle : String) : Bool := occurs needle.toList text.toList

/-- The pieces between the occurrences of a separating character; `piece` is the piece before
the characters, in reverse. -/
def piecesFrom (separator : Char) (piece : List Char) : List Char → List (List Char)
  | [] => [piece.reverse]
  | c :: rest =>
    if c == separator then piece.reverse :: piecesFrom separator [] rest
    else piecesFrom separator (c :: piece) rest

/-- The pieces of a text between the occurrences of a separating character. -/
def pieces (separator : Char) (text : String) : List String :=
  (piecesFrom separator [] text.toList).map String.ofList

/-- The paragraphs of a text, which an empty line separates; `piece` is the paragraph before
the characters, in reverse. -/
def paragraphsFrom (piece : List Char) : List Char → List (List Char)
  | [] => [piece.reverse]
  | '\n' :: '\n' :: rest => piece.reverse :: paragraphsFrom [] rest
  | c :: rest => paragraphsFrom (c :: piece) rest

/-- The paragraphs of a text. -/
def paragraphs (text : String) : List String :=
  (paragraphsFrom [] text.toList).map String.ofList

/-- Texts in order with a separator between neighbours. -/
def join (separator : String) : List String → String
  | [] => ""
  | [text] => text
  | text :: rest => text ++ separator ++ join separator rest

/-- What is joined begins with the first text, and each further one stands after a separator. -/
theorem toList_join (separator first : String) (rest : List String) :
    (join separator (first :: rest)).toList =
      first.toList ++ rest.flatMap fun text => separator.toList ++ text.toList := by
  induction rest generalizing first with
  | nil => simp [join]
  | cons next rest ih => simp [join, ih]

variable {separator : Char}

/-- Characters without the separator end a piece only where one stands after them. -/
theorem piecesFrom_append {cs : List Char} (whole : separator ∉ cs) (piece rest : List Char) :
    piecesFrom separator piece (cs ++ rest) = piecesFrom separator (cs.reverse ++ piece) rest := by
  induction cs generalizing piece with
  | nil => rfl
  | cons c cs ih =>
    simp only [List.mem_cons, not_or] at whole
    rw [List.cons_append, piecesFrom, if_neg (by simpa using Ne.symm whole.1), ih whole.2]
    simp

/-- Pieces that have the separator between them, and not in them, are found again. -/
theorem piecesFrom_flatMap {rest : List String}
    (whole : ∀ text ∈ rest, separator ∉ text.toList) (piece : List Char) :
    piecesFrom separator piece (rest.flatMap fun text => separator :: text.toList) =
      piece.reverse :: rest.map String.toList := by
  induction rest generalizing piece with
  | nil => rfl
  | cons next rest ih =>
    rw [List.forall_mem_cons] at whole
    rw [List.flatMap_cons, List.cons_append, piecesFrom, if_pos (by simp),
      piecesFrom_append whole.1, ih whole.2]
    simp

/-- Texts that are joined with a separator that is in none of them are the pieces of the whole. -/
theorem pieces_join {texts : List String} (present : texts ≠ [])
    (whole : ∀ text ∈ texts, separator ∉ text.toList) :
    pieces separator (join separator.toString texts) = texts := by
  cases texts with
  | nil => exact absurd rfl present
  | cons first rest =>
    rw [List.forall_mem_cons] at whole
    rw [pieces, toList_join]
    simp only [Char.toString, String.toList_singleton, List.cons_append, List.nil_append]
    rw [piecesFrom_append whole.1, piecesFrom_flatMap whole.2]
    simp [Function.comp_def]

/-- The pieces of characters have the separator between them, and not in them. -/
theorem piecesFrom_split (cs piece : List Char) (whole : separator ∉ piece) :
    ∃ first rest, piecesFrom separator piece cs = first :: rest ∧
      (first ++ rest.flatMap fun text => separator :: text) = piece.reverse ++ cs ∧
      ∀ text ∈ first :: rest, separator ∉ text := by
  induction cs generalizing piece with
  | nil => exact ⟨piece.reverse, [], rfl, by simp, by simpa⟩
  | cons c cs ih =>
    rw [piecesFrom]
    split
    · rename_i ends
      obtain ⟨first, rest, found, split, apart⟩ := ih [] List.not_mem_nil
      rw [beq_iff_eq] at ends
      refine ⟨piece.reverse, first :: rest, by rw [found], ?_, ?_⟩
      · rw [List.flatMap_cons, List.cons_append, split, ends]
        simp
      · exact List.forall_mem_cons.mpr ⟨by simpa, apart⟩
    · rename_i goes
      rw [beq_iff_eq] at goes
      have inside : separator ∉ c :: piece := by
        simp only [List.mem_cons, not_or]
        exact ⟨Ne.symm goes, whole⟩
      obtain ⟨first, rest, found, split, apart⟩ := ih (c :: piece) inside
      exact ⟨first, rest, found, by simpa using split, apart⟩

/-- A text is its pieces, with the separator between them and in none of them. -/
theorem join_pieces (separator : Char) (text : String) :
    pieces separator text ≠ [] ∧ (∀ piece ∈ pieces separator text, separator ∉ piece.toList) ∧
      join separator.toString (pieces separator text) = text := by
  obtain ⟨first, rest, found, split, apart⟩ :=
    piecesFrom_split text.toList [] (List.not_mem_nil : separator ∉ [])
  rw [pieces, found, List.map_cons]
  refine ⟨List.cons_ne_nil _ _, ?_, ?_⟩
  · simpa using apart
  · rw [← String.toList_inj, toList_join]
    simpa [List.flatMap_map, Function.comp_def, Char.toString] using split

/-- A text with spaces after it up to a width. -/
def padRight (width : Nat) (text : String) : String :=
  text ++ String.ofList (List.replicate (width - text.length) ' ')

/-- A text with zeros before it up to a width. -/
def padZeros (width : Nat) (text : String) : String :=
  String.ofList (List.replicate (width - text.length) '0') ++ text

/-- The digits of a number to the base sixteen, in small letters. -/
def hex (n : Nat) : String := String.ofList (Nat.toDigits 16 n)

end Parley.Text
