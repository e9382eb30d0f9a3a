import NominalCheck.Report
import NominalCheck.Text.LetterCase

/-!
# Switches

A switch is a truth value that may be spelled in several ways: by one of a few words without
regard to letter case, by the same word as a byte string, or by the numbers zero and one. No word is
trimmed. A wrapped text spells nothing by its words, but it counts as the number it denotes, and so
does any object that converts to a number.

## Main definitions

* `spelledSwitch? s` — the truth value that the text `s` spells.
* `Value.toNumber? v` — the number that `v` converts to, if it does.
* `Value.toSwitch v` — the truth value that `v` spells, or the complaint about it.

## References

A switch is read as a field of type `bool` of the reference's `TypeCheckSettings`.
-/

namespace NominalCheck

/-- The words for on. -/
def onWords : List String := ["1", "true", "t", "yes", "y", "on"]

/-- The words for off. -/
def offWords : List String := ["0", "false", "f", "no", "n", "off"]

/-- The truth value that a text spells. -/
def spelledSwitch? (s : String) : Option Bool :=
  if onWords.any (Text.sameLetters s) then some true
  else if offWords.any (Text.sameLetters s) then some false
  else none

/-- The truth value that a whole number spells. -/
def intSwitch? (i : Int) : Option Bool :=
  if i = 0 then some false else if i = 1 then some true else none

/-- A whole number that a machine word can hold. -/
def isMachineInt (i : Int) : Bool :=
  -Int.pow 2 63 ≤ i && i < Int.pow 2 63

/-- The truth value that a whole number spells, or the complaint about it: one that a machine word
can hold is a bad spelling, a larger one is no switch. -/
def wholeSwitch (i : Int) : Except Complaint Bool :=
  (intSwitch? i).elim (.error (if isMachineInt i then .boolParsing else .boolType)) .ok

/-- A byte string read as a text of the same code points. It spells nothing unless all of them are
ASCII, since no other letter occurs in the words. -/
def byteText (data : List UInt8) : String :=
  String.ofList (Text.byteChars data)

/-- The truth value that a number spells, or the complaint about it: a whole number other than zero
and one that a machine word can hold is a bad spelling, any other number is no switch. -/
def floatSwitch (x : Double) : Except Complaint Bool :=
  match x.toInt? with
  | none => .error .boolType
  | some i => if i.natAbs < Nat.pow 2 63 then (intSwitch? i).elim (.error .boolParsing) .ok
    else .error .boolType

namespace Value

/-- The number that a value converts to, if it does. -/
def toNumber? (v : Value) : Option Double :=
  match v.bare with
  | .float x => some x
  | .wrappedText s => Double.ofText? s
  | .object signs => signs.number
  | _ => Option.none

/-- The truth value that a value spells, or the complaint about the value. -/
def toSwitch (v : Value) : Except Complaint Bool :=
  match v.bare with
  | .bool b => .ok b
  | .text s => (spelledSwitch? s).elim (.error .boolParsing) .ok
  | .bytes .bytes data => (spelledSwitch? (byteText data)).elim (.error .boolParsing) .ok
  | .int i => wholeSwitch i
  | .member _ _ i true => wholeSwitch i
  | _ => v.toNumber?.elim (.error .boolType) floatSwitch

theorem kept_toNumber? : Kept toNumber? := fun _ _ => rfl

theorem kept_toSwitch : Kept toSwitch := fun _ _ => rfl

@[simp] theorem toSwitch_bool (b : Bool) : (Value.bool b).toSwitch = .ok b := rfl

/-- A text is refused exactly if it is none of the words. -/
theorem toSwitch_text (s : String) :
    (Value.text s).toSwitch = (spelledSwitch? s).elim (.error .boolParsing) .ok := rfl

end Value

end NominalCheck
