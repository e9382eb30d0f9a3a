import NominalCheck.ErrorKind
import NominalCheck.Key
import NominalCheck.Raised
import NominalCheck.ValueType

/-!
# Values

The values that are checked. A check looks at a value only through its type name and through
whether it is absent; the rest of a value shows in descriptors, in settings and in traces.

A user's subclass has a name of its own, and for the rest it is what it derives from. What it keeps
is said once, by `Value.Kept`: an observation that is kept looks at the bare value alone.

## Main definitions

* `Signs` — the outward signs of a value of which nothing else is known.
* `Value` — the values, by kind.
* `Value.type v`, `Value.typeName v` — the exact type of `v` and its name.
* `Value.isAbsent v` — `v` is the absence value.
* `Value.bare v` — `v` as a value of the type that its subclasses derive from.
* `Value.Kept f` — a subclass keeps what `f` observes of its base.
* `Value.isCallable v` — `v` can be applied to a value.
* `Value.text? v` — the text of `v`, if `v` is a text or of a subclass of text.
* `Value.spelled? v` — the text that `v` is or wraps, if there is one.
* `Value.equals v s` — `v` equals the text `s`.

## References

The names and the absence of values are those of the reference's `native_classify` and `is_absent`;
`Value.equals` is the comparison in its `Checker._spec_matches`.
-/

namespace NominalCheck

/-- The kinds of byte string. -/
inductive BytesKind
  /-- An immutable byte string. -/
  | bytes
  /-- A byte string that can be changed. -/
  | bytearray
  /-- A view of bytes held elsewhere. -/
  | memoryview
  deriving DecidableEq, Repr, Inhabited

/-- What a user's own sequence type shows of itself. -/
structure UserSequence where
  /-- The name of the type. -/
  name : String
  /-- How many items are read before the reading fails, and what it raises, if it gets there. -/
  failure : Option (Nat × Raised) := none
  /-- The printed form of the sequence. -/
  printed : String := "<" ++ name ++ " object>"
  deriving DecidableEq, Repr, Inhabited

/-- The kinds of ordered sequence of values. -/
inductive SequenceKind
  /-- A list. -/
  | list
  /-- A tuple. -/
  | tuple
  /-- A queue with two ends. -/
  | deque
  /-- A list inside a wrapper. -/
  | wrappedList
  /-- A tuple type with named fields. -/
  | record (name : String)
  /-- A user's own sequence type. -/
  | custom (own : UserSequence)
  deriving DecidableEq, Repr, Inhabited

/-- The functions of one argument whose answers are known. -/
inductive Builtin
  /-- Answers the printed form of its argument. -/
  | printed
  /-- Answers the displayed form of its argument. -/
  | displayed
  /-- Answers the number of items of its argument. -/
  | size
  /-- Answers whether its argument counts as true. -/
  | truth
  /-- Answers the type of its argument. -/
  | typeOf
  /-- Answers the same text whatever its argument. -/
  | always (answer : String)
  deriving DecidableEq, Repr, Inhabited

/-- The outward signs of a value of which nothing else is known. -/
structure Signs where
  /-- Its type. -/
  type : ValueType
  /-- Whether it can be applied to a value. -/
  callable : Bool := false
  /-- The number of its items, if it has one. -/
  size : Option Nat := none
  /-- Its printed form. -/
  printed : String := "<" ++ type.name ++ " object>"
  /-- Its displayed form. -/
  displayed : String := printed
  /-- What it is compared by, if it equals any value but itself. -/
  key : Option Key := none
  /-- Whether it equals a text, which may be for its own type to say. -/
  equals : String → Bool := fun s => key == some [.text s]
  /-- The number it converts to, if it does. -/
  number : Option Double := none
  /-- Whether it can be a key. -/
  hashable : Bool := true
  /-- How a message names it when it lacks something, if not by its type. -/
  subject : Option String := none
  deriving Inhabited

instance : Repr Signs := ⟨fun signs _ => signs.printed⟩

/-- A value. -/
inductive Value
  /-- The absence value. -/
  | none
  /-- A truth value. -/
  | bool (b : Bool)
  /-- A whole number of any size. -/
  | int (i : Int)
  /-- A double precision number. -/
  | float (x : Double)
  /-- A complex number by its two parts. -/
  | complex (re im : Double)
  /-- A text. -/
  | text (s : String)
  /-- A text inside a wrapper, which is not itself a text. -/
  | wrappedText (s : String)
  /-- A byte string. -/
  | bytes (kind : BytesKind) (data : List UInt8)
  /-- An ordered sequence. -/
  | sequence (kind : SequenceKind) (items : List Value)
  /-- An array of machine integers. -/
  | array (items : List Int)
  /-- The whole numbers from `start` in strides of `step`, short of `stop`. -/
  | range (start stop step : Int)
  /-- A set without values. -/
  | emptySet (frozen : Bool)
  /-- A set of one value. A larger one shows its values in an order of no account, and is an object
  by its signs. -/
  | singleton (frozen : Bool) (item : Value)
  /-- A dictionary, its pairs in order of insertion. -/
  | dict (ordered : Bool) (pairs : List (Value × Value))
  /-- A value of a user's subclass of the type of `base`, which changes nothing but the name. -/
  | subclass (name : String) (base : Value)
  /-- A parsed entry. -/
  | entry (e : Entry)
  /-- An exception built from one argument. -/
  | exception (name : String) (argument : Value)
  /-- A class, with its own type. -/
  | classObject (self metaclass : ValueType)
  /-- A function whose answers are known. -/
  | builtin (f : Builtin)
  /-- A member of an enumeration; where the members are whole numbers, it counts as its number. -/
  | member (enumeration name : String) (number : Int) (whole : Bool)
  /-- Any other value. -/
  | object (signs : Signs)
  deriving Repr, Inhabited

/-- The type of a byte string. -/
def BytesKind.type : BytesKind → ValueType
  | .bytes => ⟨"bytes", .basic⟩
  | .bytearray => ⟨"bytearray", .basic⟩
  | .memoryview => ⟨"memoryview", .basic⟩

/-- The type of a sequence. -/
def SequenceKind.type : SequenceKind → ValueType
  | .list => ⟨"list", .basic⟩
  | .tuple => ⟨"tuple", .basic⟩
  | .deque => ⟨"deque", .compiled "collections"⟩
  | .wrappedList => ⟨"UserList", .ordinary "collections"⟩
  | .record name => .ofUser name
  | .custom own => .ofUser own.name

/-- The type of a function whose answers are known. -/
def Builtin.type : Builtin → ValueType
  | .printed | .size => ⟨"builtin_function_or_method", .basic⟩
  | .displayed | .truth | .typeOf => ⟨"type", .basic⟩
  | .always _ => ⟨"function", .basic⟩

/-- The type of an exception: one of the library's own, or a basic one. -/
def exceptionType (name : String) : ValueType :=
  if ErrorKind.all.any (·.name = name) then ⟨name, .ordinary ErrorKind.home⟩ else ⟨name, .basic⟩

namespace Value

/-- The exact type of a value; a subclass counts as itself. -/
def type : Value → ValueType
  | .none => ⟨"NoneType", .basic⟩
  | .bool _ => ⟨"bool", .basic⟩
  | .int _ => ⟨"int", .basic⟩
  | .float _ => ⟨"float", .basic⟩
  | .complex _ _ => ⟨"complex", .basic⟩
  | .text _ => ⟨"str", .basic⟩
  | .wrappedText _ => ⟨"UserString", .ordinary "collections"⟩
  | .bytes kind _ => kind.type
  | .sequence kind _ => kind.type
  | .array _ => ⟨"array", .compiled "array"⟩
  | .range _ _ _ => ⟨"range", .basic⟩
  | .emptySet frozen => ⟨if frozen then "frozenset" else "set", .basic⟩
  | .singleton frozen _ => ⟨if frozen then "frozenset" else "set", .basic⟩
  | .dict false _ => ⟨"dict", .basic⟩
  | .dict true _ => ⟨"OrderedDict", .compiled "collections"⟩
  | .subclass name _ => .ofUser name
  | .entry _ => ⟨"TypeSpec", .ordinary "type_check.domain.descriptor"⟩
  | .exception name _ => exceptionType name
  | .classObject _ metaclass => metaclass
  | .builtin f => f.type
  | .member enumeration _ _ _ => ⟨enumeration, .enumeration⟩
  | .object signs => signs.type

/-- The name of the exact type of a value. -/
def typeName (v : Value) : String := v.type.name

/-- Whether a value is the absence value itself; no type name makes it so. -/
def isAbsent : Value → Bool
  | .none => true
  | _ => false

/-! ### Subclasses -/

/-- A value as one of the type that its subclasses derive from. -/
def bare : Value → Value
  | .subclass _ base => base.bare
  | v => v

/-- A value of the same subclasses over another bare one. -/
def withBare : Value → Value → Value
  | .subclass name base, w => .subclass name (base.withBare w)
  | _, w => w

/-- A subclass keeps what is observed of its base. -/
def Kept {α : Type} (f : Value → α) : Prop := ∀ name base, f (.subclass name base) = f base

/-- What is kept is observed of the bare value alone. -/
theorem Kept.bare {α : Type} {f : Value → α} (h : Kept f) (v : Value) : f v.bare = f v := by
  fun_induction Value.bare v with
  | case1 name base ih => rw [ih, h]
  | case2 => rfl

theorem kept_bare : Kept bare := fun _ _ => rfl

@[simp] theorem bare_bare (v : Value) : v.bare.bare = v.bare := kept_bare.bare v

/-- What is observed of the bare value is kept. -/
theorem kept_of_bare {α : Type} (f : Value → α) : Kept fun v => f v.bare := fun _ _ => rfl

/-- Whether a value can be applied to another. -/
def isCallable (v : Value) : Bool :=
  match v.bare with
  | .classObject _ _ => true
  | .builtin _ => true
  | .object signs => signs.callable
  | _ => false

/-- The text of a value, if it is a text or of a subclass of text. -/
def text? (v : Value) : Option String :=
  match v.bare with
  | .text s => some s
  | _ => Option.none

/-- The text that a value is or wraps. -/
def spelled? (v : Value) : Option String :=
  match v.bare with
  | .text s => some s
  | .wrappedText s => some s
  | _ => Option.none

/-- Whether a value equals a text: a text does, and what wraps it, and else it is for the value to
say. -/
def equals (v : Value) (s : String) : Bool :=
  match v.bare with
  | .object signs => signs.equals s
  | v => v.spelled? == some s

theorem kept_isCallable : Kept isCallable := fun _ _ => rfl

theorem kept_text? : Kept text? := fun _ _ => rfl

theorem kept_spelled? : Kept spelled? := fun _ _ => rfl

theorem kept_equals : Kept equals := fun _ _ => rfl

@[simp] theorem isAbsent_none : Value.none.isAbsent = true := rfl

@[simp] theorem text?_text (s : String) : (Value.text s).text? = some s := rfl

theorem isAbsent_iff (v : Value) : v.isAbsent = true ↔ v = .none := by
  cases v <;> simp [isAbsent]

theorem bare_of_text? {v : Value} {s : String} (h : v.text? = some s) : v.bare = .text s := by
  unfold text? at h
  split at h
  · next hb =>
    cases h
    exact hb
  · cases h

/-- What is a text is spelled by it. -/
theorem spelled?_of_text? {v : Value} {s : String} (h : v.text? = some s) :
    v.spelled? = some s := by
  rw [spelled?, bare_of_text? h]

/-- What is a text equals that text and no other. -/
theorem equals_of_text? {v : Value} {s : String} (h : v.text? = some s) (t : String) :
    v.equals t = true ↔ t = s := by
  rw [equals, bare_of_text? h]
  change (some s == some t) = true ↔ t = s
  rw [beq_iff_eq, Option.some.injEq, eq_comm]

end Value

end NominalCheck
