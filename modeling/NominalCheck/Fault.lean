import NominalCheck.Report

/-!
# Faults

Why an operation does not answer. A fault is a cause; its kind and its message are read off it.

## Main definitions

* `mismatchText expected given` — the sentence about a value of the wrong type.
* `FieldFault` — what can be wrong with the fields of an entry.
* `Fault` — the causes.
* `Fault.kind f`, `Fault.message f` — the kind and the text of a cause.

## References

The sentence about a mismatch is the reference's `format_mismatch`; the library's own causes are its
`ConfigurationError` and its `TypeMismatchError`.
-/

namespace NominalCheck

/-- The sentence about a value of type `given` where `expected` was declared. -/
def mismatchText (expected given : String) : String :=
  "Unexpected value of type \"" ++ given ++ "\" (expected " ++ expected ++ ")"

/-- An attempt to change a field that is fixed. -/
inductive FieldChange
  /-- The field is assigned. -/
  | assign (field : String)
  /-- The field is deleted. -/
  | delete (field : String)
  deriving DecidableEq, Repr, Inhabited

/-- What is said about an attempt to change a fixed field. -/
def FieldChange.message : FieldChange → String
  | .assign field => "cannot assign to field " ++ Text.quoted field
  | .delete field => "cannot delete field " ++ Text.quoted field

/-- What can be wrong with the fields that an entry is built from. -/
inductive FieldFault
  /-- No name. -/
  | noName
  /-- A field that entries do not have. -/
  | unknown (field : String)
  /-- A field that is given by position and by name. -/
  | repeated (field : String)
  /-- More fields by position than there are. -/
  | tooMany (count : Nat)
  deriving DecidableEq, Repr, Inhabited

/-- What is said about the fields that an entry is built from. -/
def FieldFault.message (f : FieldFault) : String :=
  "TypeSpec.__init__() " ++ match f with
    | .noName => "missing 1 required positional argument: 'name'"
    | .unknown field => "got an unexpected keyword argument '" ++ field ++ "'"
    | .repeated field => "got multiple values for argument '" ++ field ++ "'"
    | .tooMany count =>
      "takes from 2 to 3 positional arguments but " ++ toString (count + 1) ++ " were given"

/-- Why an operation does not answer. -/
inductive Fault
  /-- A descriptor that is neither a text nor a sequence of values. -/
  | notADescriptor
  /-- A descriptor with an item that is not a text. -/
  | itemNotText (typeName : String)
  /-- A classifier that cannot be applied. -/
  | notAClassifier (typeName : String)
  /-- A value that matches none of the declared types. -/
  | mismatch (expected : String) (given : Value)
  /-- An entry that is neither a text nor a byte string. -/
  | entryNotText (subject : String)
  /-- An entry that is a byte string. -/
  | entryIsBytes
  /-- An entry that is the type of texts. -/
  | entryIsTextType
  /-- An entry whose name stands in the place of its text, but is no text. -/
  | noEntryText (typeName : String)
  /-- Fields that make no entry. -/
  | badFields (cause : FieldFault)
  /-- A value that is no key. -/
  | unhashable (typeName : String)
  /-- An exception raised by the code of a user: a classifier, or a sequence that is read. -/
  | raised (e : Raised)
  /-- A value without a size, whose size is asked. -/
  | noSize (typeName : String)
  /-- A value with more items than are counted. -/
  | uncounted
  /-- A sequence with more items than can be held. -/
  | outOfMemory
  /-- A value that cannot be applied, applied to another. -/
  | notCallable (typeName : String)
  /-- A check that never comes to an end. -/
  | endless
  /-- A change of a fixed field. -/
  | fixedField (change : FieldChange)
  /-- A refused configuration. -/
  | invalid (report : Report)
  /-- A checker that was never stored. -/
  | noChecker (id : String)
  deriving Repr, Inhabited

namespace Fault

/-- The kind of a fault. -/
def kind : Fault → String
  | .notADescriptor => ErrorKind.configuration.name
  | .itemNotText _ => ErrorKind.configuration.name
  | .notAClassifier _ => ErrorKind.configuration.name
  | .mismatch _ _ => ErrorKind.mismatch.name
  | .entryNotText _ => "AttributeError"
  | .entryIsBytes => "TypeError"
  | .entryIsTextType => "TypeError"
  | .noEntryText _ => "TypeError"
  | .badFields _ => "TypeError"
  | .unhashable _ => "TypeError"
  | .raised e => e.kind
  | .noSize _ => "TypeError"
  | .uncounted => "OverflowError"
  | .outOfMemory => "MemoryError"
  | .notCallable _ => "TypeError"
  | .endless => "RecursionError"
  | .fixedField _ => "FrozenInstanceError"
  | .invalid _ => "ValidationError"
  | .noChecker _ => "KeyError"

/-- The text of a fault. -/
def message : Fault → String
  | .notADescriptor => "Must provide a string or an array for \"type\""
  | .itemNotText typeName => "Type entries must be strings, got " ++ typeName
  | .notAClassifier typeName => "Classifier must be callable, got " ++ typeName
  | .mismatch expected given => mismatchText expected given.displayed
  | .entryNotText subject => subject ++ " has no attribute 'endswith'"
  | .entryIsBytes => "endswith first arg must be bytes or a tuple of bytes, not str"
  | .entryIsTextType => "endswith() takes at least 1 argument (0 given)"
  | .noEntryText typeName => "__str__ returned non-string (type " ++ typeName ++ ")"
  | .badFields cause => cause.message
  | .unhashable typeName => "unhashable type: '" ++ typeName ++ "'"
  | .raised e => e.message
  | .noSize typeName => "object of type '" ++ typeName ++ "' has no len()"
  | .uncounted => "Python int too large to convert to C ssize_t"
  | .outOfMemory => ""
  | .notCallable typeName => "'" ++ typeName ++ "' object is not callable"
  | .endless => "maximum recursion depth exceeded"
  | .fixedField change => change.message
  | .invalid report => report.text
  | .noChecker id => Text.quoted id

end Fault

/-- An error of the library, built by hand. -/
inductive BuiltError
  /-- An error with a text. -/
  | plain (kind : ErrorKind) (text : String)
  /-- A mismatch between a declared and a given type. -/
  | mismatch (expected : String) (given : Value)
  deriving Repr, Inhabited

namespace BuiltError

/-- The kind of a built error. -/
def kind : BuiltError → ErrorKind
  | .plain kind _ => kind
  | .mismatch _ _ => .mismatch

/-- The message of a built error. -/
def message : BuiltError → String
  | .plain _ text => text
  | .mismatch expected given => mismatchText expected given.displayed

/-- The printed form of a built error. -/
def printed (e : BuiltError) : String :=
  e.kind.name ++ "(" ++ Text.quoted e.message ++ ")"

end BuiltError

end NominalCheck
