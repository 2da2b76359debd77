import Parley.Failure
import Parley.Value.Equality

/-!
# The order of values

Numbers are ordered by value, texts and octets from their first item on, and tuples by the first
items in which they differ. Between values of other kinds there is no order.
-/

namespace Parley.Value

/-- The refusal of a comparison. -/
def noOrder (a b : Value) : Failure :=
  .wrongType ("'<' not supported between instances of '" ++ a.typeName ++ "' and '"
    ++ b.typeName ++ "'")

/-- Whether an atom comes before another. -/
def atomBefore (a b : Value) : Except Failure Bool :=
  match a, b with
  | .text s, .text t => .ok (decide (s < t))
  | .octets s, .octets t => .ok (decide (s < t))
  | a, b =>
    match a.number?, b.number? with
    | some m, some n => .ok (m.lt n)
    | _, _ => .error (noOrder a b)

mutual

/-- Whether a value comes before another. -/
def before : Value → Value → Except Failure Bool
  | .tuple xs, other =>
    match other with
    | .tuple ys => itemsBefore xs ys
    | other => .error (noOrder (.tuple xs) other)
  | .null, other => atomBefore .null other
  | .bool b, other => atomBefore (.bool b) other
  | .int n, other => atomBefore (.int n) other
  | .float x, other => atomBefore (.float x) other
  | .text s, other => atomBefore (.text s) other
  | .octets s, other => atomBefore (.octets s) other
  | value, other => .error (noOrder value other)

/-- Whether items come before others, by the first pair that is not the same. -/
def itemsBefore : List Value → List Value → Except Failure Bool
  | _, [] => .ok false
  | [], _ :: _ => .ok true
  | x :: xs, y :: ys => if x.same y then itemsBefore xs ys else before x y

end

end Parley.Value
