import NominalCheck.Value

/-!
# Dictionaries

A dictionary holds a value for each key. Values that are equal are one key: the first of them stays
in the dictionary, with what the last of them was given. A value without a key equals itself alone,
and two such values are two keys. Values that can change are no keys at all.

## Main definitions

* `Value.key? v` — what `v` is compared by, if it equals any value but itself.
* `Value.sameKey v w`, `Value.sameHash v w` — two values are equal, have one hash.
* `Value.unhashable? v` — the name of the type for which `v` is no key.
* `Value.dictOf` — a dictionary from a list of pairs with repeated keys.
-/

namespace NominalCheck

/-- What a function is compared by. -/
def Builtin.key? : Builtin → Option Key
  | .printed => some [.word "repr"]
  | .size => some [.word "len"]
  | .displayed => some [.word "str"]
  | .truth => some [.word "bool"]
  | .typeOf => some [.word "type"]
  | .always answer => some [.word answer]

namespace Value

mutual

/-- What a value is compared by. A subclass is compared as its base, a record as a tuple. -/
def key? : Value → Option Key
  | .none => some [.absent]
  | .bool b => some [.whole (if b then 1 else 0)]
  | .int i => some [.whole i]
  | .float x => x.key?
  | .complex re im => Key.ofParts? re im
  | .text s => some [.text s]
  | .wrappedText s => some [.text s]
  | .bytes .bytearray _ => Option.none
  | .bytes _ data => some [.bytes data]
  | .sequence .tuple items => (keys? items).map Key.ofTuple
  | .sequence (.record _) items => (keys? items).map Key.ofTuple
  | .range start stop step => some (Key.ofRange start stop step)
  | .emptySet true => some [.set true]
  | .singleton true item => item.key?.map (.set false :: ·)
  | .subclass _ base => base.key?
  | .entry e => some [.entry e]
  | .classObject self _ => if self.origin = .basic then some [.word self.name] else Option.none
  | .builtin f => f.key?
  | .member enumeration name number whole =>
    some [if whole then .whole number else .word (enumeration ++ "." ++ name)]
  | .object signs => signs.key
  | _ => Option.none

/-- What several values are compared by. -/
def keys? : List Value → Option (List Key)
  | [] => some []
  | v :: vs => match v.key?, keys? vs with
    | some k, some ks => some (k :: ks)
    | _, _ => Option.none

end

mutual

/-- The name of the type for which a value is no key, if it is none, where `own` is the name of its
subclass, if it is of one. A tuple is a key if all its items are. -/
def unhashableAs? : Value → Option String → Option String
  | .bytes .bytearray _, own => some (own.getD "bytearray")
  | .sequence .tuple items, _ => firstUnhashable? items
  | .sequence (.record _) items, _ => firstUnhashable? items
  | .sequence (.custom _) _, _ => Option.none
  | .sequence kind _, own => some (own.getD kind.type.spoken)
  | .array items, own => some (own.getD (Value.array items).type.spoken)
  | .emptySet false, own => some (own.getD "set")
  | .singleton false _, own => some (own.getD "set")
  | .dict ordered pairs, own => some (own.getD (Value.dict ordered pairs).type.spoken)
  | .subclass name base, own => base.unhashableAs? (own.or (some name))
  | .object signs, own => if signs.hashable then Option.none else some (own.getD signs.type.spoken)
  | _, _ => Option.none

/-- The name of the type for which the first of several values is no key. -/
def firstUnhashable? : List Value → Option String
  | [] => Option.none
  | v :: vs => (v.unhashableAs? Option.none).or (firstUnhashable? vs)

end

/-- The name of the type for which a value is no key, if it is none. -/
def unhashable? (v : Value) : Option String := v.unhashableAs? Option.none

/-- Whether two values that are not one and the same are equal. -/
def sameKey (v w : Value) : Bool :=
  match v.key?, w.key? with
  | some k, some l => decide (k = l)
  | _, _ => false

/-- Whether two values that are not one and the same have one hash. -/
def sameHash (v w : Value) : Bool :=
  match v.key?, w.key? with
  | some k, some l => decide (k.hashForm = l.hashForm)
  | _, _ => false

/-- Adds a pair to a dictionary: a key already there keeps its place and takes the value. -/
def insertPair (key value : Value) : List (Value × Value) → List (Value × Value)
  | [] => [(key, value)]
  | (k, v) :: pairs =>
    if k.sameKey key then (k, value) :: pairs else (k, v) :: insertPair key value pairs

/-- The dictionary that holds the given pairs, added in order. -/
def dictOf (ordered : Bool) (pairs : List (Value × Value)) : Value :=
  .dict ordered (pairs.foldl (fun d p => insertPair p.1 p.2 d) [])

theorem kept_key? : Kept key? := fun _ _ => rfl

@[simp] theorem key?_text (s : String) : (Value.text s).key? = some [.text s] := by
  rw [key?]

/-- Values that are equal have one hash. -/
theorem sameHash_of_sameKey {v w : Value} (h : v.sameKey w = true) : v.sameHash w = true := by
  rw [sameKey] at h
  rw [sameHash]
  cases hv : v.key? with
  | none => rw [hv] at h; cases h
  | some k =>
    cases hw : w.key? with
    | none => rw [hv, hw] at h; cases h
    | some l =>
      rw [hv, hw] at h
      simp only [decide_eq_true_eq] at h
      simp [h]

end Value

end NominalCheck
