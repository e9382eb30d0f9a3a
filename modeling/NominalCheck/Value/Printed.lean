import NominalCheck.Value
import NominalCheck.Number.Shortest
import NominalCheck.Text.Quoted

/-!
# Printed values

Two texts show a value. The printed form is what traces and reports use: texts are quoted, and
containers show their items in printed form. The displayed form is what a message uses: a text is
shown as it is, an entry by its own text, an exception by its message.

Some types print their own names, and so their subclasses print theirs; the others are printed as
their bases.

## Main definitions

* `Value.printed v`, `Value.displayed v` — the two forms.
* `printedEntries es` — the printed form of a tuple of entries.

## References

The printed form of an entry is that of the reference's `TypeSpec`, and its displayed form the
reference's `TypeSpec.__str__`.
-/

namespace NominalCheck

open Text

/-- The fields of an entry in printed form. -/
def Entry.printedFields (e : Entry) : String :=
  "(name=" ++ quoted e.name ++ ", optional=" ++ (if e.optional then "True" else "False") ++ ")"

/-- The printed form of an entry. -/
def Entry.printed (e : Entry) : String :=
  "TypeSpec" ++ e.printedFields

/-- The printed forms of several items, separated by commas. -/
def separated (items : List String) : String :=
  ", ".intercalate items

/-- The items of a tuple in brackets; a comma follows a single item. -/
def tupleText : List String → String
  | [item] => "(" ++ item ++ ",)"
  | items => "(" ++ separated items ++ ")"

/-- The printed form of a tuple of entries. -/
def printedEntries (es : List Entry) : String :=
  tupleText (es.map Entry.printed)

/-- Text in curly brackets. -/
def inBraces (s : String) : String :=
  "\x7b" ++ s ++ "\x7d"

/-- The printed form of a complex number: the imaginary part alone where the real one is zero
without a minus. -/
def complexText (re im : Double) : String :=
  let part (x : Double) : String := String.ofList (x.textWith [])
  if re.isZero && !re.isNegative then part im ++ "j"
  else "(" ++ part re ++ (if im.isNegative then "" else "+") ++ part im ++ "j)"

/-- The printed form of a sequence with the given items, where `own` is the name of its subclass, if
it is of one. -/
def SequenceKind.printed (kind : SequenceKind) (own : Option String) (items : List String) :
    String :=
  match kind with
  | .list | .wrappedList => "[" ++ separated items ++ "]"
  | .tuple => tupleText items
  | .deque => own.getD "deque" ++ "([" ++ separated items ++ "])"
  | .record name =>
    own.getD name ++ "("
      ++ separated (items.zipIdx.map fun (item, i) => "f" ++ toString i ++ "=" ++ item) ++ ")"
  | .custom sequence => sequence.printed

/-- The printed form of a byte string. A view shows an address, which is left out. -/
def BytesKind.printed (kind : BytesKind) (own : Option String) (data : List UInt8) : String :=
  match kind with
  | .bytes => quotedBytes data
  | .bytearray => own.getD "bytearray" ++ "(" ++ quotedBytes data ++ ")"
  | .memoryview => "<memory>"

/-- The printed form of a set with the given items; an empty one has no brackets of its own, and a
plain set that is not empty no name. -/
def setText (frozen : Bool) (own : Option String) (items : List String) : String :=
  let inner := if items.isEmpty then "" else inBraces (separated items)
  if frozen || own.isSome then own.getD "frozenset" ++ "(" ++ inner ++ ")"
  else if items.isEmpty then "set()"
  else inner

/-- The printed form of a dictionary with the given pairs. -/
def dictText (ordered : Bool) (own : Option String) (pairs : List (String × String)) : String :=
  match ordered, pairs with
  | false, _ => inBraces (separated (pairs.map fun (k, v) => k ++ ": " ++ v))
  | true, [] => own.getD "OrderedDict" ++ "()"
  | true, _ =>
    own.getD "OrderedDict" ++ "(["
      ++ separated (pairs.map fun (k, v) => "(" ++ k ++ ", " ++ v ++ ")") ++ "])"

/-- The printed form of a range; a stride of one is left out. -/
def rangeText (start stop step : Int) : String :=
  "range(" ++ toString start ++ ", " ++ toString stop
    ++ (if step = 1 then "" else ", " ++ toString step) ++ ")"

/-- The printed form of an array of machine integers. -/
def arrayText (own : Option String) (items : List Int) : String :=
  own.getD "array" ++ "('i'"
    ++ (if items.isEmpty then "" else ", [" ++ separated (items.map toString) ++ "]") ++ ")"

/-- The printed form of a function whose answers are known. -/
def Builtin.text : Builtin → String
  | .printed => "<built-in function repr>"
  | .size => "<built-in function len>"
  | .displayed => "<class 'str'>"
  | .truth => "<class 'bool'>"
  | .typeOf => "<class 'type'>"
  | .always _ => "<function <lambda>>"

namespace Value

mutual

/-- The printed form of a value, where `own` is the name of its subclass, if it is of one. -/
def printedAs : Value → Option String → String
  | .none, _ => "None"
  | .bool b, _ => if b then "True" else "False"
  | .int i, _ => toString i
  | .float x, _ => x.text
  | .complex re im, _ => complexText re im
  | .text s, _ => quoted s
  | .wrappedText s, _ => quoted s
  | .bytes kind data, own => kind.printed own data
  | .sequence kind items, own => kind.printed own (printedItems items)
  | .array items, own => arrayText own items
  | .range start stop step, _ => rangeText start stop step
  | .emptySet frozen, own => setText frozen own []
  | .singleton frozen item, own => setText frozen own [item.printedAs Option.none]
  | .dict ordered pairs, own => dictText ordered own (printedPairs pairs)
  | .subclass name base, own => base.printedAs (own.or (some name))
  | .entry e, own => own.getD "TypeSpec" ++ e.printedFields
  | .exception name argument, own => own.getD name ++ "(" ++ argument.printedAs Option.none ++ ")"
  | .classObject self _, _ => self.printed
  | .builtin f, _ => f.text
  | .member enumeration name number _, _ =>
    "<" ++ enumeration ++ "." ++ name ++ ": " ++ toString number ++ ">"
  | .object signs, _ => signs.printed

/-- The printed forms of several values. -/
def printedItems : List Value → List String
  | [] => []
  | v :: vs => v.printedAs Option.none :: printedItems vs

/-- The printed forms of keys and values. -/
def printedPairs : List (Value × Value) → List (String × String)
  | [] => []
  | (k, v) :: pairs => (k.printedAs Option.none, v.printedAs Option.none) :: printedPairs pairs

end

/-- The printed form of a value. -/
def printed (v : Value) : String := v.printedAs Option.none

/-- The displayed form of a value, where `own` is the name of its subclass, if it is of one. -/
def displayedAs : Value → Option String → String
  | .text s, _ => s
  | .wrappedText s, _ => s
  | .subclass name base, own => base.displayedAs (own.or (some name))
  | .entry e, _ => e.render
  | .exception name argument, _ =>
    if name = "KeyError" then argument.printed else argument.displayedAs Option.none
  | .member enumeration name number whole, _ =>
    if whole then toString number else enumeration ++ "." ++ name
  | .object signs, _ => signs.displayed
  | v, own => v.printedAs own

/-- The displayed form of a value. -/
def displayed (v : Value) : String := v.displayedAs Option.none

@[simp] theorem displayed_text (s : String) : (Value.text s).displayed = s := rfl

/-- A value with a text is displayed as that text. -/
theorem displayed_of_text? {v : Value} {s : String} (h : v.text? = some s) : v.displayed = s := by
  have hbare : ∀ own, v.bare = .text s → v.displayedAs own = s := by
    fun_induction bare v with
    | case1 name base ih => exact fun own hb => ih h (own.or (some name)) hb
    | case2 v _ =>
      rintro own rfl
      rfl
  exact hbare Option.none (bare_of_text? h)

end Value

end NominalCheck
