import Parley.Text.Search

/-!
# Arguments

The words of a command line, told apart as options and operands by the options that a command
knows. An option with a value takes it from the same word after an equals sign or from the next
word, whatever that is. Two dashes alone end the options.
-/

namespace Parley.Command

/-- The options that a command knows, by their words. -/
structure Options where
  /-- The options without a value. -/
  flags : List String
  /-- The options with a value. -/
  valued : List String

/-- The words of a command line, told apart. -/
structure Arguments where
  /-- The given options without a value. -/
  flags : List String
  /-- The given options with their values, in order. -/
  values : List (String × String)
  /-- The operands. -/
  operands : List String

namespace Arguments

/-- No words. -/
def none : Arguments := ⟨[], [], []⟩

/-- Adds an option without a value. -/
def addFlag (arguments : Arguments) (name : String) : Arguments :=
  { arguments with flags := arguments.flags ++ [name] }

/-- Adds an option with its value. -/
def addValue (arguments : Arguments) (name value : String) : Arguments :=
  { arguments with values := arguments.values ++ [(name, value)] }

/-- Adds operands. -/
def addOperands (arguments : Arguments) (words : List String) : Arguments :=
  { arguments with operands := arguments.operands ++ words }

/-- Whether an option without a value was given. -/
def has (arguments : Arguments) (name : String) : Bool := arguments.flags.contains name

/-- All values of an option, in order. -/
def all (arguments : Arguments) (name : String) : List String :=
  (arguments.values.filter fun given => given.1 == name).map Prod.snd

/-- The value of an option; the last one counts. -/
def value? (arguments : Arguments) (name : String) : Option String :=
  (arguments.all name).getLast?

end Arguments

/-- The part of a word before its first equals sign and the part after it, if there is one. -/
def splitEquals (word : List Char) : List Char × Option (List Char) :=
  match word.dropWhile (· != '=') with
  | _ :: rest => (word.takeWhile (· != '='), some rest)
  | [] => (word, none)

/-- Whether a word is an option by its form. -/
def isOption (word : String) : Bool := word.toList.head? == some '-' && word != "-"

/-- Whether a word is a bundle of short options without values. -/
def isBundle (options : Options) (word : List Char) : Bool :=
  match word with
  | '-' :: letters =>
    !letters.isEmpty && letters.all fun c => options.flags.contains (String.ofList ['-', c])
  | _ => false

/-- The words told apart, with those that are left when `stop` is set and an operand comes. Nothing
if a word is no known option or lacks its value. -/
def readWords (options : Options) (stop : Bool) (given : Arguments) :
    List String → Option (Arguments × List String)
  | [] => some (given, [])
  | "--" :: rest => if stop then some (given, rest) else some (given.addOperands rest, [])
  | word :: rest =>
    if !isOption word then
      if stop then some (given, word :: rest)
      else readWords options stop (given.addOperands [word]) rest
    else if isBundle options word.toList then
      readWords options stop
        ((word.toList.drop 1).foldl
          (fun given c => given.addFlag (String.ofList ['-', c])) given) rest
    else
      match splitEquals word.toList with
      | (name, some value) =>
        let name := String.ofList name
        if options.valued.contains name then
          readWords options stop (given.addValue name (String.ofList value)) rest
        else none
      | (_, none) =>
        if options.flags.contains word then readWords options stop (given.addFlag word) rest
        else if options.valued.contains word then
          match rest with
          | value :: rest => readWords options stop (given.addValue word value) rest
          | [] => none
        else none

end Parley.Command
