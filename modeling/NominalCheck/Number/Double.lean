import NominalCheck.Text.Blank
import NominalCheck.Text.Digit

/-!
# Double precision numbers

A finite number is a sign, an exponent and a fraction, each in its own range, so that it has one
form; the two infinities and the undefined number stand beside. It is a whole number of units, its
mantissa, times a power of two. A numeral is written in the digits of any script, also of several
at once; reading it rounds its exact value to the nearest number, a tie to the even mantissa.

## Main definitions

* `Double` — the numbers.
* `Double.mantissa fraction biased`, `Double.exponent biased` — a finite number in units.
* `roundHalfEven a b` — the whole number nearest to `a / b`.
* `Double.ofRatio`, `Double.ofDecimal` — the nearest number to a fraction, to `d * 10 ^ e`.
* `Double.ofText?` — the number that a numeral denotes.
-/

namespace NominalCheck

/-- A double precision number. -/
inductive Double
  /-- The undefined number. -/
  | nan
  /-- An infinity. -/
  | infinite (negative : Bool)
  /-- A number with a fraction of fifty-two bits. Where the biased exponent is zero, the fraction is
  the mantissa; else a leading one stands before it. -/
  | finite (negative : Bool) (biased : Fin 2047) (fraction : Fin 4503599627370496)
  deriving DecidableEq, Repr, Inhabited

/-- The whole number nearest to `a / b`, of two equally near ones the even one. -/
def roundHalfEven (a b : Nat) : Nat :=
  let q := a / b
  let r := a % b
  if 2 * r < b then q
  else if b < 2 * r then q + 1
  else if q % 2 = 0 then q
  else q + 1

/-- The fraction `a / b` divided by `base ^ e`, as a pair. -/
def scaleDown (base a b : Nat) (e : Int) : Nat × Nat :=
  if 0 ≤ e then (a, b * base.pow e.toNat) else (a * base.pow (-e).toNat, b)

namespace Double

/-- The least exponent of a finite number. -/
def minExponent : Int := -1074

/-- The greatest exponent of a finite number. -/
def maxExponent : Int := 971

/-- The mantissa of a finite number. -/
def mantissa (biased : Fin 2047) (fraction : Fin 4503599627370496) : Nat :=
  if biased.val = 0 then fraction.val else Nat.pow 2 52 + fraction.val

/-- The power of two by which a mantissa counts. -/
def exponent (biased : Fin 2047) : Int :=
  minExponent + (biased.val - 1 : Nat)

/-- A zero. -/
def zero (negative : Bool) : Double := .finite negative 0 0

/-- The number `± m * 2 ^ q`, for a mantissa below `2 ^ 53` that is not below `2 ^ 52` unless the
exponent is the least. -/
def ofUnits (negative : Bool) (m : Nat) (q : Int) : Double :=
  if m < Nat.pow 2 52 then .finite negative 0 (Fin.ofNat _ m)
  else .finite negative (Fin.ofNat _ (q - minExponent + 1).toNat) (Fin.ofNat _ (m - Nat.pow 2 52))

/-- The exponent at which `a / b` has a whole part of fifty-three bits, though never one below the
least. -/
def exponentOf (a b : Nat) : Int :=
  let guess : Int := (a.log2 : Int) - (b.log2 : Int) - 53
  let (c, d) := scaleDown 2 a b guess
  max minExponent (if Nat.pow 2 53 ≤ c / d then guess + 1 else guess)

/-- The number nearest to `a / b`. -/
def ofRatio (negative : Bool) (a b : Nat) : Double :=
  if a = 0 then zero negative
  else
    let q := exponentOf a b
    let (c, d) := scaleDown 2 a b q
    let m := roundHalfEven c d
    let (m, q) := if m = Nat.pow 2 53 then (Nat.pow 2 52, q + 1) else (m, q)
    if maxExponent < q then .infinite negative else ofUnits negative m q

/-- The number nearest to `digits * 10 ^ e`. A decimal of `k` digits is below `10 ^ (e + k)` and,
unless it is zero, not below `10 ^ (e + k - 1)`; far outside the finite numbers this decides. -/
def ofDecimal (negative : Bool) (digits : Nat) (e : Int) : Double :=
  let top := e + (Nat.toDigits 10 digits).length
  if digits = 0 ∨ top < -330 then zero negative
  else if 310 < top then .infinite negative
  else if 0 ≤ e then ofRatio negative (digits * Nat.pow 10 e.toNat) 1
  else ofRatio negative digits (Nat.pow 10 (-e).toNat)

/-- The number nearest to a whole number. -/
def ofInt (i : Int) : Double :=
  ofDecimal (decide (i < 0)) i.natAbs 0

/-- Whether a number is zero, of either sign. -/
def isZero : Double → Bool
  | .finite _ biased fraction => biased == 0 && fraction == 0
  | _ => false

/-- The whole number that `m * 2 ^ q` equals, if there is one. -/
def wholeUnits? (m : Nat) (q : Int) : Option Nat :=
  if 0 ≤ q then some (m * Nat.pow 2 q.toNat)
  else if m % Nat.pow 2 (-q).toNat = 0 then some (m / Nat.pow 2 (-q).toNat)
  else none

/-- The whole number that a number equals, if there is one. -/
def toInt? : Double → Option Int
  | .finite negative biased fraction =>
    (wholeUnits? (mantissa biased fraction) (exponent biased)).map fun n =>
      if negative then -(n : Int) else n
  | _ => none

/-- The value of a run of decimal digits. -/
def digitsValue (ds : List Char) : Nat :=
  ds.foldl (fun n c => 10 * n + (c.toNat - '0'.toNat)) 0

/-- Splits a leading sign off: whether it is a minus, and the rest. -/
def splitSign : List Char → Bool × List Char
  | '-' :: s => (true, s)
  | '+' :: s => (false, s)
  | s => (false, s)

/-- The exponent part of a numeral: nothing, or `e` and a signed run of digits. -/
def exponentPart? : List Char → Option Int
  | [] => some 0
  | 'e' :: s =>
    let (negative, ds) := splitSign s
    if ds.isEmpty || !ds.all Char.isDigit then none
    else some (if negative then -(digitsValue ds : Int) else digitsValue ds)
  | _ => none

/-- The number that an unsigned numeral in lower case denotes. -/
def unsigned? (negative : Bool) (s : List Char) : Option Double :=
  if s = "nan".toList then some .nan
  else if s = "inf".toList ∨ s = "infinity".toList then some (.infinite negative)
  else
    let whole := s.takeWhile Char.isDigit
    let rest := s.dropWhile Char.isDigit
    let (places, rest) := match rest with
      | '.' :: t => (t.takeWhile Char.isDigit, t.dropWhile Char.isDigit)
      | t => ([], t)
    if whole.isEmpty && places.isEmpty then none
    else (exponentPart? rest).map fun e =>
      ofDecimal negative (digitsValue (whole ++ places)) (e - places.length)

/-- A text without the underscores that part its digits; any other underscore spoils it. The flag
tells whether a digit stands before. -/
def joined? : Bool → List Char → Option (List Char)
  | _, [] => some []
  | afterDigit, c :: s =>
    if c = '_' then
      if afterDigit && s.head?.any Char.isDigit then joined? false s else none
    else (joined? c.isDigit s).map (c :: ·)

/-- The number that a numeral in lower case with ASCII digits denotes, if it is one: underscores
between its digits do not count. -/
def ofChars? (s : List Char) : Option Double :=
  (joined? false s).bind fun t =>
    let (negative, t) := splitSign t
    unsigned? negative t

/-- The characters of a numeral in lower case, its digits in ASCII, without the blanks around it. -/
def numeralChars (s : String) : List Char :=
  Text.trimmed (s.toList.map fun c => (Text.asciiDigit c).toLower)

/-- The number that a numeral denotes, if the text is one. -/
def ofText? (s : String) : Option Double :=
  ofChars? (numeralChars s)

end Double

end NominalCheck
