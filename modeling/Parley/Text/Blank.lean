import Parley.Text.Range

/-!
# Blank characters

The blanks are the white space of the Unicode standard together with the four separators
U+001C to U+001F. Stripping removes them from both ends of a text and nothing else.
-/

namespace Parley.Text

/-- The code points of blank characters. -/
def blankRanges : List (Nat × Nat) := [
  (9, 13), (28, 32), (133, 133), (160, 160), (5760, 5760), (8192, 8202), (8232, 8233),
  (8239, 8239), (8287, 8287), (12288, 12288)]

/-- Whether a character is blank. -/
def isBlank (c : Char) : Bool := inRanges blankRanges c.toNat

/-- Every ASCII white space character is blank. -/
theorem isBlank_of_isWhitespace {c : Char} (h : c.isWhitespace = true) : isBlank c = true := by
  simp only [Char.isWhitespace, Bool.or_eq_true, decide_eq_true_eq] at h
  rcases h with ((rfl | rfl) | rfl) | rfl <;> decide

/-- The characters after the leading blanks. -/
def stripLeft (cs : List Char) : List Char := cs.dropWhile isBlank

/-- The characters before the trailing blanks. -/
def stripRight (cs : List Char) : List Char := (cs.reverse.dropWhile isBlank).reverse

/-- The characters between the leading and the trailing blanks. -/
def stripChars (cs : List Char) : List Char := stripRight (stripLeft cs)

/-- A text without its leading and trailing blanks. -/
def strip (text : String) : String := String.ofList (stripChars text.toList)

end Parley.Text
