import Parley.Document.Json.Reader
import Parley.Document.Yaml.Reader
import Parley.Flow.Definition

/-!
# Flow files

A flow file holds a definition as YAML if its name ends in one of the suffixes of YAML, and as
JSON otherwise. A definition without an id takes the name of its file.
-/

namespace Parley.Flow.File

/-- The last part of a path. -/
def baseName (path : String) : String := ((Text.pieces '/' path).getLast?).getD path

/-- The part of a name before its last point and the part from there on. A point that starts or
ends the name does not count. -/
def splitName (name : String) : String × String :=
  let cs := name.toList
  let tail := (cs.reverse.takeWhile (· != '.')).length
  let stem := cs.length - tail - 1
  if tail = cs.length || stem = 0 || tail = 0 then (name, "")
  else (String.ofList (cs.take stem), String.ofList (cs.drop stem))

/-- Whether a path names a YAML file. -/
def isYaml (path : String) : Bool :=
  let suffix := Text.lower (splitName (baseName path)).2
  suffix = ".yaml" || suffix = ".yml"

/-- The name of a file without its suffix. -/
def stem (path : String) : String := (splitName (baseName path)).1

/-- The value that the text of a file holds. -/
def read (path text : String) : Except Failure Value :=
  if isYaml path then Yaml.read text else Json.read text

/-- A definition with an id: one that has none takes the name of its file. -/
def identify (path : String) (raw : Value) : Value :=
  match raw with
  | .dict entries =>
    if (valueAt entries "id").truthy then raw
    else .dict (Entries.put entries (.text "id") (.text (stem path)))
  | raw => raw

/-- The graph that a file describes. -/
def load (extensions : Extensions) (path text : String) : Except Failure Graph := do
  Flow.load extensions (identify path (← read path text))

end Parley.Flow.File
