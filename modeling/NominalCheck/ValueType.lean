import NominalCheck.Text.Excerpt

/-!
# Types of values

A type has a bare name, which is what is checked. Elsewhere it may be spoken of with the module
that holds it: the printed form of a type says the module unless the type is a basic one, and
messages about missing abilities say it if the module is a compiled one.

## Main definitions

* `Origin` — where a type comes from.
* `ValueType` — a bare name and an origin.
* `ValueType.spoken t`, `ValueType.printed t` — the type in messages and in printed form.

## References

The bare name is the one that the reference's `native_classify` answers.
-/

namespace NominalCheck

/-- Where a type comes from. -/
inductive Origin
  /-- A basic type. -/
  | basic
  /-- A type of a compiled module. -/
  | compiled (home : String)
  /-- A type of an ordinary module. -/
  | ordinary (home : String)
  /-- An enumeration. -/
  | enumeration
  deriving DecidableEq, Repr, Inhabited

/-- A type of values. -/
structure ValueType where
  /-- The bare name. -/
  name : String
  /-- Where the type comes from. -/
  origin : Origin := .basic
  deriving DecidableEq, Repr, Inhabited

/-- The module of types that users define. -/
def userHome : String := "__main__"

namespace ValueType

/-- A type that a user defines. -/
def ofUser (name : String) : ValueType := ⟨name, .ordinary userHome⟩

/-- The name in messages about what a value lacks. -/
def spoken (t : ValueType) : String :=
  match t.origin with
  | .compiled home => home ++ "." ++ t.name
  | _ => t.name

/-- The name in messages, cut to a number of bytes. -/
def spokenWithin (limit : Nat) (t : ValueType) : String :=
  Text.clipped limit t.spoken

/-- The printed form of a type. -/
def printed (t : ValueType) : String :=
  match t.origin with
  | .basic => "<class '" ++ t.name ++ "'>"
  | .compiled home => "<class '" ++ home ++ "." ++ t.name ++ "'>"
  | .ordinary home => "<class '" ++ home ++ "." ++ t.name ++ "'>"
  | .enumeration => "<enum '" ++ t.name ++ "'>"

end ValueType

end NominalCheck
