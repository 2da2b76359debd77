import Parley.Text.Blank
import Parley.Variables

/-!
# Templates

A template is text in which a name between double braces stands for the text of a variable. The
template is cut into segments once, from left to right, so what a variable holds is never taken
for a placeholder. Main statement: `renderWith_append` says that rendering goes segment by segment.
-/

namespace Parley.Template

/-- A part of a template: characters that stand for themselves, or the name of a variable. -/
inductive Segment where
  | literal (characters : List Char)
  | placeholder (name : List Char)
deriving DecidableEq, Repr

/-- Whether a character may stand in a placeholder. -/
def isBody (c : Char) : Bool := c != '\x7b' && c != '\x7d'

/-- The body of a placeholder whose opening braces were just passed, and what follows its
closing braces. -/
def body? (cs : List Char) : Option (List Char × List Char) :=
  match cs.dropWhile isBody with
  | '\x7d' :: '\x7d' :: rest => some (cs.takeWhile isBody, rest)
  | _ => none

/-- What follows a placeholder is shorter than what follows its opening braces. -/
theorem body?_length {cs body rest : List Char} (h : body? cs = some (body, rest)) :
    rest.length < cs.length := by
  have drop : (cs.dropWhile isBody).length ≤ cs.length :=
    (List.dropWhile_sublist isBody).length_le
  unfold body? at h
  split at h
  · next shape => cases h; simp only [shape, List.length_cons] at drop; omega
  · cases h

/-- The segments of a template; `before` holds the literal characters just passed, in reverse. -/
def segmentsFrom (before : List Char) : List Char → List Segment
  | [] => [.literal before.reverse]
  | '\x7b' :: '\x7b' :: cs =>
    match _found : body? cs with
    | some (body, rest) =>
      .literal before.reverse :: .placeholder (Text.stripChars body) :: segmentsFrom [] rest
    | none => segmentsFrom ('\x7b' :: before) ('\x7b' :: cs)
  | c :: cs => segmentsFrom (c :: before) cs
termination_by cs => cs.length
decreasing_by
  · have := body?_length (by assumption); simp only [List.length_cons]; omega
  all_goals simp only [List.length_cons]; omega

/-- The segments of a template. -/
def segments (template : String) : List Segment := segmentsFrom [] template.toList

/-- The text of a variable in a template: null is empty, truth values are small words. -/
def slotText : Option Value → String
  | none | some .null => ""
  | some (.bool b) => if b then "true" else "false"
  | some value => value.toText

/-- The characters of a segment. -/
def Segment.render (vars : Variables) : Segment → List Char
  | .literal cs => cs
  | .placeholder name => (slotText (vars.get? (String.ofList name))).toList

/-- The characters of segments in order. -/
def renderWith (vars : Variables) (segments : List Segment) : List Char :=
  segments.flatMap (Segment.render vars)

/-- Rendering goes segment by segment. -/
theorem renderWith_append (vars : Variables) (first second : List Segment) :
    renderWith vars (first ++ second)
      = renderWith vars first ++ renderWith vars second := by
  simp [renderWith]

/-- A template with its placeholders replaced. -/
def render (vars : Variables) (template : String) : String :=
  String.ofList (renderWith vars (segments template))

end Parley.Template
