import Parley.Text.Printable
import Parley.Text.Search

/-!
# Quoted text

A quoted text is enclosed in single quotes, or in double quotes if it contains a single quote
and no double one. The enclosing quote, the backslash and the three common control characters
are written with a backslash, and any other character that is not printable by its code.
-/

namespace Parley.Text

/-- The quote that encloses a text. -/
def quoteFor (cs : List Char) : Char :=
  if cs.contains '\'' && !cs.contains '"' then '"' else '\''

/-- The code of a character after a backslash, in two, four or eight digits. -/
def escapeCode (code : Nat) : List Char :=
  if code < 256 then '\\' :: 'x' :: (padZeros 2 (hex code)).toList
  else if code < 65536 then '\\' :: 'u' :: (padZeros 4 (hex code)).toList
  else '\\' :: 'U' :: (padZeros 8 (hex code)).toList

/-- One character inside the given quotes. -/
def quoteChar (mark : Char) (c : Char) : List Char :=
  if c == mark || c == '\\' then ['\\', c]
  else if c == '\n' then ['\\', 'n']
  else if c == '\r' then ['\\', 'r']
  else if c == '\t' then ['\\', 't']
  else if isPrintable c then [c]
  else escapeCode c.toNat

/-- A text in quotes. -/
def quoted (text : String) : String :=
  let mark := quoteFor text.toList
  String.ofList (mark :: text.toList.flatMap (quoteChar mark) ++ [mark])

/-- One octet inside the given quotes: as its ASCII character where that is printable. -/
def quoteOctet (mark : Char) (octet : UInt8) : List Char :=
  let c := Char.ofNat octet.toNat
  if 32 ≤ octet.toNat && octet.toNat < 127 || c == '\n' || c == '\r' || c == '\t' then
    quoteChar mark c
  else escapeCode octet.toNat

/-- Octets in quotes, after the letter b. -/
def quotedOctets (octets : List UInt8) : String :=
  let mark := quoteFor (octets.map fun octet => Char.ofNat octet.toNat)
  String.ofList ('b' :: mark :: octets.flatMap (quoteOctet mark) ++ [mark])

end Parley.Text
