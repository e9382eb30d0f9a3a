import NominalCheck.Number.Double

/-!
# Shortest numerals

A finite number is written with the fewest decimal digits that read back as it. For a given count
of digits the two neighbours of the number on that decimal grid are tried, the nearer one first.
The numeral is positional while its first digit stands from the fourth place after the point to
the sixteenth before it, and else has an exponent of at least two digits.

## Main definitions

* `Numeral` — a whole number of units `10 ^ exponent`.
* `shortest m q` — the shortest numeral that reads back as `m * 2 ^ q`, a finite number in units.
* `Double.text x` — the written form of `x`.
-/

namespace NominalCheck

/-- The numeral `digits * 10 ^ exponent`. -/
structure Numeral where
  /-- The digits, read as a whole number. -/
  digits : Nat
  /-- The power of ten by which they count. -/
  exponent : Int
  deriving DecidableEq, Repr, Inhabited

/-- The numeral reads back as the number `m * 2 ^ q`. -/
def Numeral.readsAs (n : Numeral) (m : Nat) (q : Int) : Bool :=
  Double.ofDecimal false n.digits n.exponent == .ofUnits false m q

/-- The place of the first digit of `a / b`: the greatest `p` with `10 ^ p ≤ a / b`, for any
fraction that is not below `10 ^ (-330)`. -/
def leadingPlace (a b : Nat) : Int :=
  ((Nat.toDigits 10 (a * Nat.pow 10 330 / b)).length : Int) - 331

/-- The two neighbours of `a / b` among the multiples of `10 ^ e`, the nearer one first. -/
def neighbours (a b : Nat) (e : Int) : List Numeral :=
  let (c, d) := scaleDown 10 a b e
  let low := c / d
  if roundHalfEven c d = low then [⟨low, e⟩, ⟨low + 1, e⟩] else [⟨low + 1, e⟩, ⟨low, e⟩]

/-- The shortest numeral that reads back as `m * 2 ^ q`; seventeen digits always do. -/
def shortest (m : Nat) (q : Int) : Numeral :=
  let (a, b) := scaleDown 2 m 1 (-q)
  let p := leadingPlace a b
  ((List.range 17).findSome? fun (k : Nat) =>
    (neighbours a b (p - k)).find? (·.readsAs m q)).getD ⟨m, 0⟩

/-- The digits of a numeral without closing zeros. -/
def Numeral.significant (n : Numeral) : List Char :=
  ((Nat.toDigits 10 n.digits).reverse.dropWhile (· = '0')).reverse

/-- The place of a numeral's first digit. -/
def Numeral.place (n : Numeral) : Int :=
  n.exponent + (Nat.toDigits 10 n.digits).length - 1

/-- The exponent of a numeral: a sign and at least two digits. -/
def exponentText (p : Int) : List Char :=
  let ds := Nat.toDigits 10 p.natAbs
  (if p < 0 then '-' else '+') :: (List.replicate (2 - ds.length) '0' ++ ds)

/-- Lays out the digits `ds`, the first of which stands at place `p`. A whole number in positional
form is closed by `closing`. -/
def layOut (closing ds : List Char) (p : Int) : List Char :=
  if p < -4 ∨ 16 ≤ p then
    let rest := ds.drop 1
    ds.take 1 ++ (if rest.isEmpty then [] else '.' :: rest) ++ 'e' :: exponentText p
  else if p < 0 then '0' :: '.' :: List.replicate (-p - 1).toNat '0' ++ ds
  else
    let whole := p.toNat + 1
    if ds.length ≤ whole then ds ++ List.replicate (whole - ds.length) '0' ++ closing
    else ds.take whole ++ '.' :: ds.drop whole

namespace Double

/-- The sign, where it is written. -/
def signText (negative : Bool) : List Char :=
  if negative then ['-'] else []

/-- The written form of a number, whole numbers being closed by `closing`. -/
def textWith (closing : List Char) : Double → List Char
  | .nan => "nan".toList
  | .infinite negative => signText negative ++ "inf".toList
  | .finite negative biased fraction =>
    let m := mantissa biased fraction
    signText negative ++
      if m = 0 then '0' :: closing
      else
        let n := shortest m (exponent biased)
        layOut closing n.significant n.place

/-- The written form of a number: a whole number keeps a zero after the point. -/
def text (x : Double) : String :=
  String.ofList (x.textWith ['.', '0'])

/-- Whether a number is written with a minus. -/
def isNegative : Double → Bool
  | .nan => false
  | .infinite negative => negative
  | .finite negative _ _ => negative

end Double

end NominalCheck
