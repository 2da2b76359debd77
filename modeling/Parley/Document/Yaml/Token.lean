/-!
# YAML tokens

What a YAML text is cut into. Indentation becomes tokens that open and close collections. A text
that cannot be cut further ends in a token that tells why.
-/

namespace Parley.Yaml

/-- Why a text is no YAML document. -/
inductive Fault where
  /-- It breaks the rules of the language. -/
  | malformed
  /-- It spells the code of no character. -/
  | noCharacter
  /-- It spells a code that is far too large. -/
  | hugeCode
  /-- Its collections lie within each other too deeply. -/
  | tooDeep
deriving DecidableEq, Repr

/-- A token. -/
inductive Token where
  /-- The line that starts a document. -/
  | documentStart
  /-- The line that ends a document. -/
  | documentEnd
  /-- The start of a sequence by indentation. -/
  | sequenceStart
  /-- The start of a mapping by indentation. -/
  | mappingStart
  /-- The end of a collection by indentation. -/
  | blockEnd
  /-- An opening bracket. -/
  | listOpen
  /-- A closing bracket. -/
  | listClose
  /-- An opening brace. -/
  | mapOpen
  /-- A closing brace. -/
  | mapClose
  /-- The start of a key. -/
  | key
  /-- The start of the value of a key. -/
  | value
  /-- The dash before an item. -/
  | entry
  /-- The comma between items. -/
  | comma
  /-- A scalar; a plain one may stand for something else than its text. -/
  | scalar (text : String) (plain : Bool)
  /-- The place at which the text cannot be cut further. -/
  | broken (fault : Fault)
deriving DecidableEq, Repr

end Parley.Yaml
