import Parley.Command.Arguments
import Parley.Store.Table
import Parley.Text.Control

/-!
# The console

What a command works with: the files, the count of executions, and the lines that it printed. A
command ends early if its words make no sense, if what it was asked to do cannot be done, or if
something failed that nothing takes care of. What was printed and written before stays.
-/

namespace Parley.Command

/-- What a file holds. -/
inductive File where
  /-- A text. -/
  | text (content : String)
  /-- A store of tables. -/
  | tables (store : Store.Table String)

/-- The files by their paths, and the paths that are directories. -/
structure Disk where
  /-- The files. -/
  files : List (String × File)
  /-- The directories without files. -/
  directories : List String

namespace Disk

/-- The file at a path. -/
def file? (disk : Disk) (path : String) : Option File := disk.files.lookup path

/-- Whether a path is a file. -/
def isFile (disk : Disk) (path : String) : Bool := (disk.file? path).isSome

/-- Whether a path is a directory; each file is in one. -/
def isDirectory (disk : Disk) (path : String) : Bool :=
  disk.directories.contains path || disk.files.any fun file => (path ++ "/").isPrefixOf file.1

/-- The disk with a file put at a path. -/
def put (disk : Disk) (path : String) (file : File) : Disk :=
  { disk with files := (path, file) :: disk.files.filter fun other => other.1 != path }

end Disk

/-- What surrounds a command. -/
structure Setting where
  /-- The variables of the environment. -/
  environment : List (String × String)
  /-- The time. -/
  clock : Time.Moment
  /-- The text on the standard input. -/
  input : String

/-- How a command ends early. -/
inductive Ending where
  /-- It cannot do what it was asked to, and tells so. -/
  | refused (message : String)
  /-- Its words make no command. -/
  | misused
  /-- It came upon a failure that nothing takes care of. -/
  | crashed (failure : Failure)

/-- The state in which a command works. -/
structure Console where
  /-- The files. -/
  disk : Disk
  /-- How many executions were made. -/
  created : Nat
  /-- What was printed. -/
  output : String

/-- A computation of a command, which may end early. -/
abbrev Action := EStateM Ending Console

/-- A line as it is printed. -/
def printed (line : String) : String := Text.dropControls line ++ "\n"

/-- Prints a line. -/
def print (line : String) : Action Unit :=
  modify fun console => { console with output := console.output ++ printed line }

/-- The value of a result, or its failure as a crash. -/
def orCrash {α : Type} : Except Failure α → Action α
  | .ok value => pure value
  | .error failure => throw (.crashed failure)

/-- The value of a result; a failure of the engine's own is told to the user. -/
def orRefuse {α : Type} : Except Failure α → Action α
  | .ok value => pure value
  | .error failure =>
    throw (if failure.isEngine then .refused failure.message else .crashed failure)

/-- Refuses to go on unless the words make sense. -/
def require (sensible : Bool) : Action Unit := if sensible then pure () else throw .misused

/-- The words of a command told apart by its options. -/
def readOperands (options : Options) (words : List String) : Action Arguments :=
  match readWords options false .none words with
  | some (given, _) => pure given
  | none => throw .misused

/-- The one operand of a command. -/
def operand (given : Arguments) : Action String :=
  match given.operands with
  | [word] => pure word
  | _ => throw .misused

/-- The files at this point. -/
def disk : Action Disk := return (← get).disk

/-- Refuses a path that is no file. -/
def requireFile (path : String) : Action Unit := do require ((← disk).isFile path)

/-- A text with a line feed at the end of each line. -/
def lineFeeds : List Char → List Char
  | '\r' :: '\n' :: rest => '\n' :: lineFeeds rest
  | '\r' :: rest => '\n' :: lineFeeds rest
  | c :: rest => c :: lineFeeds rest
  | [] => []

/-- The text of a file that is known to exist. -/
def fileText (path : String) : Action (Except Failure String) := do
  match (← disk).file? path with
  | some (.text content) => return .ok (String.ofList (lineFeeds content.toList))
  | some (.tables _) => return .error .notText
  | none => return .ok ""

/-- Puts a file at a path. -/
def putFile (path : String) (file : File) : Action Unit :=
  modify fun console => { console with disk := console.disk.put path file }

end Parley.Command
