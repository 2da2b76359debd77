/-!
# Control sequences

Sequences of characters that a terminal takes for commands: an escape, an opening bracket,
parameters, and a letter. In text that is not shown on a terminal they are left out.
-/

namespace Parley.Text

/-- Whether a character is part of the parameters of a control sequence. -/
def isParameter (c : Char) : Bool := c.isDigit || c == ';' || c == '?'

/-- The length of the control sequence at the start of some characters; zero if there is none. -/
def controlLength : List Char → Nat
  | '\x1b' :: '[' :: cs =>
    match cs.dropWhile isParameter with
    | letter :: _ => if letter.isAlpha then (cs.takeWhile isParameter).length + 3 else 0
    | [] => 0
  | _ => 0

/-- The characters without control sequences; the first `skip` of them are left out as well. -/
def dropControlsFrom : (skip : Nat) → List Char → List Char
  | _, [] => []
  | skip + 1, _ :: cs => dropControlsFrom skip cs
  | 0, c :: cs =>
    match controlLength (c :: cs) with
    | 0 => c :: dropControlsFrom 0 cs
    | length + 1 => dropControlsFrom length cs

/-- A text without control sequences. -/
def dropControls (text : String) : String := String.ofList (dropControlsFrom 0 text.toList)

end Parley.Text
