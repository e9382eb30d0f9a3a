import NominalCheck.Fault

/-!
# Items of a value

A sequence shows its items when it is read; other containers do not count as sequences. Reading
stops at the first item that cannot be read.

## Main definitions

* `layOutFault? size` — why `size` items cannot be laid out, if they cannot.
* `Value.items? v` — the outcome of reading `v`, if `v` is a sequence.
* `Value.size? v` — the number of items of `v`, if `v` has one.
* `Value.isTruthy v` — whether `v` counts as true.
* `Builtin.answer f v` — the answer of `f` applied to `v`.

## References

`Value.items?` is what the reference's `normalize_descriptor` makes a tuple of.
-/

namespace NominalCheck

/-- The greatest number of items that is counted. -/
def maxSize : Nat := Nat.pow 2 63 - 1

/-- The greatest number of items that is laid out. -/
def maxHeld : Nat := Nat.pow 2 35

/-- Why a number of items cannot be laid out, if it cannot. -/
def layOutFault? (size : Nat) : Option Fault :=
  if maxSize < size then some .uncounted
  else if maxHeld < size then some .outOfMemory
  else none

/-- The items of a sequence of a user's own type: a failing one does not get past the bad place. -/
def UserSequence.read (own : UserSequence) (items : List Value) : Except Fault (List Value) :=
  match own.failure with
  | some (place, e) => if place ≤ items.length then .error (.raised e) else .ok items
  | none => .ok items

/-- The items of a sequence of the given kind. -/
def SequenceKind.read (kind : SequenceKind) (items : List Value) : Except Fault (List Value) :=
  match kind with
  | .custom own => own.read items
  | _ => .ok items

namespace Value

/-- The outcome of reading a value as a sequence, if it is one. Bytes show as whole numbers and a
wrapped text as wrapped texts of one character, which are of its own type. -/
def items? (v : Value) : Option (Except Fault (List Value)) :=
  match v.bare with
  | .text s => some (.ok (s.toList.map fun c => .text c.toString))
  | .wrappedText s => some (.ok (s.toList.map fun c => v.withBare (.wrappedText c.toString)))
  | .bytes _ data => some (.ok (data.map fun b => .int b.toNat))
  | .sequence kind items => some (kind.read items)
  | .array items => some (.ok (items.map .int))
  | .range start stop step =>
    match layOutFault? (rangeSize start stop step) with
    | some f => some (.error f)
    | Option.none => some (.ok
        ((List.range (rangeSize start stop step)).map fun (i : Nat) => .int (start + i * step)))
  | _ => Option.none

/-- Whether a value is a byte string, or of a subclass of one; a view of bytes is not. -/
def isByteString (v : Value) : Bool :=
  match v.bare with
  | .bytes .memoryview _ => false
  | .bytes _ _ => true
  | _ => false

/-- The number of items of a value, if it has one. -/
def size? (v : Value) : Option Nat :=
  match v.bare with
  | .text s => some s.length
  | .wrappedText s => some s.length
  | .bytes _ data => some data.length
  | .sequence _ items => some items.length
  | .array items => some items.length
  | .range start stop step => some (rangeSize start stop step)
  | .emptySet _ => some 0
  | .singleton _ _ => some 1
  | .dict _ pairs => some pairs.length
  | .object signs => signs.size
  | _ => Option.none

/-- Whether a value counts as true: no absence, no zero, nothing empty. -/
def isTruthy (v : Value) : Bool :=
  match v.bare with
  | .none => false
  | .bool b => b
  | .int i => i != 0
  | .float x => !x.isZero
  | .complex re im => !(re.isZero && im.isZero)
  | .member _ _ number whole => !whole || number != 0
  | v => v.size? != some 0

theorem kept_isByteString : Kept isByteString := fun _ _ => rfl

theorem kept_size? : Kept size? := fun _ _ => rfl

theorem kept_isTruthy : Kept isTruthy := fun _ _ => rfl

end Value

/-- The answer of a function to a value. -/
def Builtin.answer (f : Builtin) (v : Value) : Except Fault Value :=
  match f with
  | .printed => .ok (.text v.printed)
  | .displayed => .ok (.text v.displayed)
  | .size => match v.size? with
    | some n => if maxSize < n then .error .uncounted else .ok (.int n)
    | none => .error (.noSize (v.type.spokenWithin 200))
  | .truth => .ok (.bool v.isTruthy)
  | .typeOf => .ok (.classObject v.type ⟨"type", .basic⟩)
  | .always answer => .ok (.text answer)

/-- A function never fails for not being one. -/
theorem Builtin.answer_ne_notCallable (f : Builtin) (v : Value) (t : String) :
    f.answer v ≠ .error (.notCallable t) := by
  intro h
  cases f with
  | size =>
    rw [Builtin.answer] at h
    split at h
    · split at h <;> cases h
    · cases h
  | _ => cases h

end NominalCheck
