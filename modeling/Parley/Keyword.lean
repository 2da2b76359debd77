import Parley.Text.Blank
import Parley.Text.Fold
import Parley.Text.Lower
import Parley.Value.Conversion

/-!
# Keywords

The words that a wait accepts. They are authored as one text with commas or as separate values,
and kept stripped, in small letters, and each once. A reply matches the first keyword that it
contains without regard to case.
-/

namespace Parley.Keyword

/-- The word that an authored value stands for: the truth values are the words yes and no. -/
def wordOf : Value → Except Failure String
  | .bool b => .ok (if b then "yes" else "no")
  | value => value.asText

/-- The values that keywords are authored as: the pieces of a text between commas, or the
elements of another value. -/
def authored : Value → Except Failure (List Value)
  | .text s => .ok ((Text.pieces ',' s).map .text)
  | value => value.elements

/-- The kept form of an authored keyword. -/
def tidy (word : String) : String := Text.lower (Text.strip word)

/-- The kept keywords of authored words: those that are not blank, in order and each once. -/
def clean (words : List String) : List String :=
  ((words.filter fun word => Text.strip word != "").map tidy).foldl
    (fun kept word => if kept.contains word then kept else kept ++ [word]) []

/-- Whether a text contains a keyword without regard to case; the empty keyword is in none. -/
def isIn (keyword text : String) : Bool :=
  keyword != "" && Text.contains (Text.fold text) (Text.fold keyword)

/-- The first keyword that a text contains. -/
def find? (keywords : List String) (text : String) : Option String :=
  keywords.find? fun keyword => isIn keyword text

/-- The text of a reply; a reply that counts as false is empty. -/
def replyText (reply : Value) : Except Failure String :=
  if reply.truthy then
    match reply with
    | .text s => .ok s
    | value => .error
        (.lacksPart ("'" ++ value.typeName ++ "' object has no attribute 'casefold'"))
  else .ok ""

/-- The first of some values that is a keyword which a text contains. What counts as false is passed
over, and nothing but a text is a keyword. -/
def findAmong (text : String) : List Value → Except Failure (Option String)
  | [] => .ok none
  | .text keyword :: rest => if isIn keyword text then .ok (some keyword) else findAmong text rest
  | value :: rest =>
    if value.truthy then
      .error (.lacksPart ("'" ++ value.typeName ++ "' object has no attribute 'casefold'"))
    else findAmong text rest

/-- The first of the elements of a value that is a keyword which a reply contains. -/
def search (keywords reply : Value) : Except Failure (Option String) := do
  let text ← replyText reply
  findAmong text (← keywords.elements)

/-- The first keyword that a reply contains. -/
def findIn (keywords : List String) (reply : Value) : Except Failure (Option String) := do
  return find? keywords (← replyText reply)

end Parley.Keyword
