import Parley.Value

/-!
# Equality of values

Two values are the same if they agree by content: numbers by exact value across their kinds, so
that a truth value equals one or zero, and what is no number equals nothing; sequences item by
item; dictionaries and sets without regard to order. This is the equality by which the keys of
a dictionary are told apart.
-/

namespace Parley.Value

/-- Whether two values that hold no others are the same. -/
def sameAtom : Value → Value → Bool
  | .null, .null => true
  | .text a, .text b => a == b
  | .octets a, .octets b => a == b
  | .date a, .date b => a == b
  | .moment a, .moment b => a.same b
  | a, b =>
    match a.number?, b.number? with
    | some m, some n => m.same n
    | _, _ => false

mutual

/-- Whether two values are the same. -/
def same : Value → Value → Bool
  | .list xs, other => match other with | .list ys => sameAll xs ys | _ => false
  | .tuple xs, other => match other with | .tuple ys => sameAll xs ys | _ => false
  | .set xs, other =>
    match other with | .set ys => xs.length == ys.length && allIn xs ys | _ => false
  | .dict xs, other =>
    match other with | .dict ys => xs.length == ys.length && allEntriesIn xs ys | _ => false
  | .null, other => sameAtom .null other
  | .bool b, other => sameAtom (.bool b) other
  | .int n, other => sameAtom (.int n) other
  | .float x, other => sameAtom (.float x) other
  | .text s, other => sameAtom (.text s) other
  | .octets s, other => sameAtom (.octets s) other
  | .date d, other => sameAtom (.date d) other
  | .moment m, other => sameAtom (.moment m) other
  | .foreign, _ => false

/-- Whether two sequences are the same item by item. -/
def sameAll : List Value → List Value → Bool
  | [], [] => true
  | x :: xs, y :: ys => same x y && sameAll xs ys
  | _, _ => false

/-- Whether each value is the same as one of others. -/
def allIn : List Value → List Value → Bool
  | [], _ => true
  | x :: xs, ys => ys.any (same x) && allIn xs ys

/-- Whether each entry is the same as one of others in key and value. -/
def allEntriesIn : List (Value × Value) → List (Value × Value) → Bool
  | [], _ => true
  | (key, value) :: rest, others =>
    others.any (fun other => same key other.1 && same value other.2) && allEntriesIn rest others

end

mutual

/-- Whether a value can be a key: nothing in it can change. -/
def fixed : Value → Bool
  | .list _ => false
  | .dict _ => false
  | .set _ => false
  | .tuple items => allFixed items
  | _ => true

/-- Whether all of some values can be keys. -/
def allFixed : List Value → Bool
  | [] => true
  | item :: rest => fixed item && allFixed rest

end

end Parley.Value

namespace Parley.Entries

/-- The value under a key. -/
def get? (entries : Entries) (key : Value) : Option Value :=
  (entries.find? fun entry => entry.1.same key).map Prod.snd

/-- The value under a text. -/
def text? (entries : Entries) (name : String) : Option Value := get? entries (.text name)

/-- Whether there is a value under a key. -/
def has (entries : Entries) (key : Value) : Bool := entries.any fun entry => entry.1.same key

/-- The entries with a value put under a key: in the place of the old value, or at the end. -/
def put : Entries → Value → Value → Entries
  | [], key, value => [(key, value)]
  | entry :: rest, key, value =>
    if entry.1.same key then (entry.1, value) :: rest else entry :: put rest key value

/-- The entries without the one under a key. -/
def erase (entries : Entries) (key : Value) : Entries :=
  entries.eraseP fun entry => entry.1.same key

/-- Entries put one after another into a dictionary. -/
def ofList (entries : List (Value × Value)) : Entries :=
  entries.foldl (fun dictionary entry => put dictionary entry.1 entry.2) []

end Parley.Entries
