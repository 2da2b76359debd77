import Parley.Keyword
import Parley.Slice
import Parley.Text.Word

/-!
# Knowledge

A fixed list of documents from which those are retrieved that share the most words with a
query. A word counts if it has more than two characters after case is folded; documents that
share equally many come in the order of the list.
-/

namespace Parley

/-- Documents, and how many of them are retrieved at most. -/
structure Knowledge where
  /-- The documents in order. -/
  documents : List Value
  /-- The bound of a retrieval; below zero, so many are left out at the end. -/
  top : Value

namespace Knowledge

/-- The words of a text that count, each once. -/
def wordsOf (text : String) : List String :=
  ((Text.words (Text.fold text)).filter fun word => 2 < word.length).eraseDups

/-- How many words a document shares with those wanted. -/
def score (wanted : List String) (document : String) : Nat :=
  let words := wordsOf document
  (wanted.filter fun word => words.contains word).length

/-- The documents that share a word with those wanted, the most first. -/
def ranked (wanted : List String) (documents : List String) : List String :=
  let scored := documents.map fun document => (score wanted document, document)
  ((scored.filter fun entry => entry.1 > 0).mergeSort fun a b => b.1 ≤ a.1).map Prod.snd

/-- The text of a document or query. -/
def textOf (value : Value) : Except Failure String :=
  match value with
  | .text s => .ok s
  | value => .error (.lacksPart ("'" ++ value.typeName ++ "' object has no attribute 'casefold'"))

/-- The documents of the knowledge as texts. -/
def texts (knowledge : Knowledge) : Except Failure (List String) :=
  knowledge.documents.mapM textOf

/-- The documents that answer a query, joined with an empty line between them. -/
def retrieve (knowledge : Knowledge) (query : Value) : Except Failure String := do
  let wanted := wordsOf (← Keyword.replyText query)
  if wanted.isEmpty then return ""
  let best := ranked wanted (← knowledge.texts)
  return Text.join "\n\n" (Slice.first (← knowledge.top.sliceEnd) best)

end Knowledge

end Parley
