import NominalCheck.Text.Quoted

/-!
# JSON text

A text inside double quotes, in ASCII. The quote, the backslash and the control characters are
escaped, five of these by a letter; what lies from U+007F upward is written by its UTF-16 code units
in four hexadecimal digits each.

A text is a list of code points here, surrogates among them, since the library that writes JSON
takes any. Two surrogates side by side are written as one character beyond the basic plane is, so
from what is written the two cannot be told from the one.

## Main definitions

* `Points`, `points s` — code points, and those of the text `s`.
* `codeUnits n` — the UTF-16 code units of a code point.
* `jsonEscape n` — a code point inside a JSON text.
* `jsonText ps` — the JSON text of `ps`.
* `jsonObject fields` — an object with text values.
-/

namespace NominalCheck.Text

/-- Code points, in order. -/
abbrev Points := List Nat

/-- The code points of a text. -/
def points (s : String) : Points := s.toList.map Char.toNat

/-- The UTF-16 code units of a code point: two of them from U+10000 upward. -/
def codeUnits (n : Nat) : List Nat :=
  if n < 0x10000 then [n]
  else [0xd800 + (n - 0x10000) / 0x400, 0xdc00 + (n - 0x10000) % 0x400]

/-- A code unit by its four hexadecimal digits. -/
def unitEscape (n : Nat) : List Char :=
  '\\' :: 'u' :: hexadecimal 4 n

/-- A code point inside a JSON text. -/
def jsonEscape (n : Nat) : List Char :=
  if n = '"'.toNat ∨ n = '\\'.toNat then ['\\', Char.ofNat n]
  else if n = '\n'.toNat then ['\\', 'n']
  else if n = '\r'.toNat then ['\\', 'r']
  else if n = '\t'.toNat then ['\\', 't']
  else if n = '\x08'.toNat then ['\\', 'b']
  else if n = '\x0c'.toNat then ['\\', 'f']
  else if 32 ≤ n ∧ n < 127 then [Char.ofNat n]
  else (codeUnits n).flatMap unitEscape

/-- The characters of the JSON text of the given code points. -/
def jsonChars (ps : Points) : List Char :=
  '"' :: ps.flatMap jsonEscape ++ ['"']

/-- The JSON text of the given code points. -/
def jsonText (ps : Points) : String :=
  String.ofList (jsonChars ps)

/-- A JSON object on one line, with the given names and texts in order. -/
def jsonObject (fields : List (Points × Points)) : String :=
  "\x7b" ++ ", ".intercalate (fields.map fun (name, ps) => jsonText name ++ ": " ++ jsonText ps)
    ++ "\x7d"

end NominalCheck.Text
