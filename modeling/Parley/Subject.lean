import Parley.Text.Blank
import Parley.Text.Digit
import Parley.Value

/-!
# Subjects

A subject is the contact that an execution talks to. A key that looks like a telephone number,
digits with blanks and a few signs between them, is reduced to its digits, so that every way to
write the number names the same contact. Any other key is only stripped of blanks.
-/

namespace Parley.Subject

/-- Whether a character may stand in a telephone number. -/
def isPhoneChar (c : Char) : Bool :=
  Text.isDigit c || Text.isBlank c || c == '+' || c == '-' || c == '(' || c == ')' || c == '.'

/-- Whether a key looks like a telephone number. -/
def isPhone (cs : List Char) : Bool := cs.all isPhoneChar && cs.any Text.isDigit

/-- The canonical form of a key. -/
def normalize (key : String) : String :=
  let stripped := Text.stripChars key.toList
  String.ofList (if isPhone stripped then stripped.filter Text.isDigit else stripped)

/-- The canonical form of the text of a value. -/
def ofValue (key : Value) : String := normalize key.toText

end Parley.Subject
