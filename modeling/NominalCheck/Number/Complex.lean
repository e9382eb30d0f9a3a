import NominalCheck.Number.Double

/-!
# Complex numerals

A complex numeral is a real numeral, an imaginary one closed by `j`, or both with a sign between
them. It may stand in brackets, and an imaginary part of one may be left to the sign alone.

## Main definitions

* `Double.complexOfText?` — the two parts of the number that a complex numeral denotes.
-/

namespace NominalCheck

namespace Double

/-- The text inside a pair of brackets, if there is one, without blanks at its ends. -/
def unbracketed : List Char → List Char
  | '(' :: s => if s.getLast? = some ')' then Text.trimmed s.dropLast else '(' :: s
  | s => s

/-- The numeral of an imaginary part, in which a sign alone stands for one. -/
def imaginary? (s : List Char) : Option Double :=
  if s = [] ∨ s = ['+'] then some (.ofInt 1)
  else if s = ['-'] then some (.ofInt (-1))
  else ofChars? s

/-- A sign at place `i` parts two numerals, unless it opens the text or an exponent. -/
def partsAt (s : List Char) (i : Nat) : Bool :=
  0 < i && (s[i]? == some '+' || s[i]? == some '-') && s[i - 1]? != some 'e'

/-- The two parts of the number that a complex numeral denotes, if the text is one. -/
def complexOfText? (text : String) : Option (Double × Double) :=
  let s := unbracketed (numeralChars text)
  if s.getLast? ≠ some 'j' then (ofChars? s).map (·, .ofInt 0)
  else
    let body := s.dropLast
    match (List.range body.length).reverse.find? (partsAt body) with
    | none => (imaginary? body).map (.ofInt 0, ·)
    | some i => match ofChars? (body.take i), imaginary? (body.drop i) with
      | some re, some im => some (re, im)
      | _, _ => none

end Double

end NominalCheck
