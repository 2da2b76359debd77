/-!
# Mappings of code points

A case mapping sends most characters to themselves, some by a fixed distance that whole runs
share, and a few to several characters. A run is written as its first and last code point, the
step between its members and the distance to their images.
-/

namespace Parley.Text

/-- The image of a code point under an ascending table of runs. -/
def shift : List (Nat × Nat × Nat × Int) → Nat → Nat
  | [], code => code
  | (first, last, step, distance) :: rest, code =>
    if code < first then code
    else if code ≤ last && (code - first) % step == 0 then ((code : Int) + distance).toNat
    else shift rest code

/-- The characters that a code point becomes: those of the expansion table, or its one image
under the table of runs. -/
def expand (expansions : List (Nat × List Nat)) (runs : List (Nat × Nat × Nat × Int))
    (c : Char) : List Char :=
  match expansions.lookup c.toNat with
  | some codes => codes.map Char.ofNat
  | none => [Char.ofNat (shift runs c.toNat)]

end Parley.Text
