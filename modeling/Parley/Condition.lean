import Parley.Text.Fold
import Parley.Text.Word
import Parley.Variables

/-!
# Conditions

A condition asks whether the text of a variable contains a literal, without regard to case. It
is written `contains(variable, 'literal')`, with blanks between the parts and either quote.
-/

namespace Parley

/-- The question whether the text of a variable contains a literal. -/
structure Condition where
  /-- The name of the variable. -/
  subject : String
  /-- What its text should contain. -/
  literal : String
deriving DecidableEq, Repr, Inhabited

namespace Condition

/-- Whether a character may start the name of a variable. -/
def startsName (c : Char) : Bool := c.isAlpha || c == '_'

/-- Whether a character may go on in the name of a variable. -/
def inName (c : Char) : Bool := Text.isWordChar c || c == '.'

/-- Whether a character is a quote. -/
def isQuote (c : Char) : Bool := c == '\'' || c == '"'

/-- What follows a character that must come next. -/
def after? (mark : Char) : List Char → Option (List Char)
  | [] => none
  | c :: cs => if c == mark then some cs else none

/-- What follows the word that opens a condition. -/
def afterWord? (cs : List Char) : Option (List Char) :=
  if "contains".toList.isPrefixOf cs then some (cs.drop 8) else none

/-- The name at the start of some characters. -/
def name? : List Char → Option (List Char × List Char)
  | [] => none
  | c :: cs =>
    if startsName c then some (c :: cs.takeWhile inName, cs.dropWhile inName) else none

/-- The quoted literal at the start of some characters. -/
def literal? : List Char → Option (List Char × List Char)
  | [] => none
  | mark :: cs =>
    if isQuote mark then
      match cs.dropWhile (· != mark) with
      | _ :: rest => some (cs.takeWhile (· != mark), rest)
      | [] => none
    else none

/-- The condition that a text spells. -/
def read? (source : String) : Option Condition := do
  let cs ← afterWord? (Text.stripLeft source.toList)
  let cs ← after? '(' (Text.stripLeft cs)
  let (name, cs) ← name? (Text.stripLeft cs)
  let cs ← after? ',' (Text.stripLeft cs)
  let (literal, cs) ← literal? (Text.stripLeft cs)
  let cs ← after? ')' (Text.stripLeft cs)
  if (Text.stripLeft cs).isEmpty then some ⟨String.ofList name, String.ofList literal⟩ else none

/-- The condition that a value spells; `node` names the node it belongs to, for the error. -/
def ofValue (source : Value) (node : Option String) : Except Failure Condition :=
  match source with
  | .text source =>
    match read? source with
    | some condition => .ok condition
    | none => .error (.expression source node)
  | value => do throw (.expression (← value.asShown) node)

/-- The written form of a condition. -/
def text (condition : Condition) : String :=
  "contains(" ++ condition.subject ++ ", '" ++ condition.literal ++ "')"

/-- The text in which a condition looks: that of the variable, or nothing if it is null. -/
def subjectText (value : Value) : String :=
  match value with
  | .null => ""
  | value => value.toText

/-- Whether a condition holds. -/
def holds (condition : Condition) (vars : Variables) : Bool :=
  Text.contains (Text.fold (subjectText (vars.read condition.subject)))
    (Text.fold condition.literal)

end Condition

end Parley
