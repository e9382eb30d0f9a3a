import NominalCheck.Entry
import NominalCheck.Number.Double

/-!
# Keys

A key is what a value is compared by. Equal numbers have one key, whatever their type, and so have
equal runs of whole numbers, however they are described. The undefined number has no key, as it
equals nothing. A key is written as a row of atoms, where an atom for a compound tells how many
keys follow that belong to it.

## Main definitions

* `Atom`, `Key` — the atoms, and their rows.
* `Double.key? x` — the key of a number.
* `Key.ofParts? re im`, `Key.ofRange start stop step` — the keys of complex numbers and of ranges.
* `Key.ofTuple` — the key of a tuple.
* `Key.hashForm k` — what the hash of `k` is taken of.
-/

namespace NominalCheck

/-- A part of a key. -/
inductive Atom
  /-- A value that equals itself alone, by a word for it. -/
  | word (s : String)
  /-- A whole number. -/
  | whole (i : Int)
  /-- A number that is not whole. -/
  | fraction (x : Double)
  /-- A number off the real line, by the two keys that follow. -/
  | complex
  /-- A text. -/
  | text (s : String)
  /-- A run of bytes. -/
  | bytes (data : List UInt8)
  /-- A tuple of the `size` keys that follow. -/
  | tuple (size : Nat)
  /-- A set, of the key that follows if it is not empty. -/
  | set (empty : Bool)
  /-- A run of whole numbers. -/
  | range (size : Nat) (start step : Int)
  /-- An entry. -/
  | entry (e : Entry)
  deriving DecidableEq, Repr, Inhabited

/-- What a value is compared by. -/
abbrev Key := List Atom

/-- The key of a number: the undefined one has none. -/
def Double.key? (x : Double) : Option Key :=
  match x with
  | .nan => none
  | x => some [match x.toInt? with
    | some i => .whole i
    | none => .fraction x]

/-- How many whole numbers there are from `start` in strides of `step`, short of `stop`. -/
def rangeSize (start stop step : Int) : Nat :=
  if 0 < step then ((stop - start + step - 1).fdiv step).toNat
  else if step < 0 then ((start - stop - step - 1).fdiv (-step)).toNat
  else 0

namespace Key

/-- The key of a complex number: on the real line it is that of the real part. -/
def ofParts? (re im : Double) : Option Key :=
  match re.key?, im.key? with
  | some r, some i => some (if i = [.whole 0] then r else .complex :: r ++ i)
  | _, _ => none

/-- The key of a range: where it starts shows unless it is empty, and its stride if it has two
numbers. -/
def ofRange (start stop step : Int) : Key :=
  match rangeSize start stop step with
  | 0 => [.range 0 0 0]
  | 1 => [.range 1 start 0]
  | n => [.range n start step]

/-- The key of a tuple. -/
def ofTuple (keys : List Key) : Key := .tuple keys.length :: keys.flatten

end Key

/-! ### Hashes -/

/-- The bytes of a text as it is held: each character takes the width of the widest one. -/
def heldBytes (s : String) : List UInt8 :=
  let places : List Nat :=
    if s.toList.all fun c => c.toNat < 0x100 then [0]
    else if s.toList.all fun c => c.toNat < 0x10000 then [0, 8]
    else [0, 8, 16, 24]
  s.toList.flatMap fun c => places.map fun i => UInt8.ofNat (c.toNat >>> i)

/-- The hash of a whole number: the remainder of its magnitude, with its sign. Minus one is taken by
the lack of a hash. -/
def wholeHash (i : Int) : Int :=
  let h := i.tmod (Int.pow 2 61 - 1)
  if h = -1 then -2 else h

namespace Atom

/-- What the hash of a run of bytes is taken of: an empty one has the hash zero. -/
def ofBytes (data : List UInt8) : Atom :=
  if data = [] then .whole 0 else .bytes data

/-- The atom of the absence value. -/
def absent : Atom := .word "None"

/-- What the hash of a part is taken of: texts and byte strings are their bytes, whole numbers their
remainders, entries and ranges the tuples of their parts. -/
def hashForm : Atom → Key
  | .whole i => [.whole (wholeHash i)]
  | .text s => [.ofBytes (heldBytes s)]
  | .bytes data => [.ofBytes data]
  | .entry e => [.tuple 2, .ofBytes (heldBytes e.name), .whole (if e.optional then 1 else 0)]
  | .range 0 _ _ => [.tuple 3, .whole 0, absent, absent]
  | .range 1 start _ => [.tuple 3, .whole 1, .whole (wholeHash start), absent]
  | .range n start step =>
    [.tuple 3, .whole (wholeHash n), .whole (wholeHash start), .whole (wholeHash step)]
  | a => [a]

end Atom

/-- What the hash of a key is taken of. -/
def Key.hashForm (k : Key) : Key := k.flatMap Atom.hashForm

@[simp] theorem Double.key?_nan : Double.nan.key? = none := rfl

end NominalCheck
