import NominalCheck.Text.Printable

/-!
# Quoted text

The written form of a text or a byte string inside quotes. The mark is the apostrophe unless the
text holds an apostrophe and no double quote. Inside, the mark and the backslash follow a
backslash, three blanks have short names, and whatever does not stand for itself is written by its
code point in hexadecimal, in two, four or eight digits.

## Main definitions

* `quoteMark s` — the mark chosen for `s`.
* `escape plain mark c` — the character `c` inside quotes of the kind `mark`.
* `quoted s`, `quotedBytes data` — the written forms.
-/

namespace NominalCheck.Text

/-- The apostrophe. -/
def apostrophe : Char := '\x27'

/-- The mark around `s`: the apostrophe, unless `s` holds one and no double quote. -/
def quoteMark (s : List Char) : Char :=
  if apostrophe ∈ s ∧ '"' ∉ s then '"' else apostrophe

/-- The hexadecimal digits of `n` in lower case, filled with zeros up to `width`. -/
def hexadecimal (width n : Nat) : List Char :=
  let digits := Nat.toDigits 16 n
  List.replicate (width - digits.length) '0' ++ digits

/-- The written form of `c` inside quotes of the kind `mark`, where the characters of the class
`plain` stand for themselves. -/
def escape (plain : Char → Bool) (mark c : Char) : List Char :=
  if c = mark ∨ c = '\\' then ['\\', c]
  else if c = '\n' then ['\\', 'n']
  else if c = '\r' then ['\\', 'r']
  else if c = '\t' then ['\\', 't']
  else if plain c then [c]
  else if c.toNat < 0x100 then '\\' :: 'x' :: hexadecimal 2 c.toNat
  else if c.toNat < 0x10000 then '\\' :: 'u' :: hexadecimal 4 c.toNat
  else '\\' :: 'U' :: hexadecimal 8 c.toNat

/-- The characters of `s` in quotes. -/
def quotedChars (plain : Char → Bool) (s : List Char) : List Char :=
  quoteMark s :: s.flatMap (escape plain (quoteMark s)) ++ [quoteMark s]

/-- The written form of a text. -/
def quoted (s : String) : String :=
  String.ofList (quotedChars isPrintable s.toList)

/-- A byte stands for itself from the blank to the tilde. -/
def isPlainByte (c : Char) : Bool :=
  32 ≤ c.toNat && c.toNat < 127

/-- The characters whose code points are the given bytes. -/
def byteChars (data : List UInt8) : List Char :=
  data.map fun b => Char.ofNat b.toNat

/-- The written form of a byte string. -/
def quotedBytes (data : List UInt8) : String :=
  String.ofList ('b' :: quotedChars isPlainByte (byteChars data))

@[simp] theorem quotedChars_nil (plain : Char → Bool) :
    quotedChars plain [] = [apostrophe, apostrophe] := rfl

end NominalCheck.Text
