/-!
# Kinds of error

The library's own kinds of error and their ancestry.

## Main definitions

* `ErrorKind` — the kinds.
* `ErrorKind.name k`, `ErrorKind.ancestry k` — the name of a kind, and those of the kinds above it.

## References

The kinds are the reference's `TypeCheckError`, `ConfigurationError` and `TypeMismatchError`.
-/

namespace NominalCheck

/-- The library's own kinds of error. -/
inductive ErrorKind
  /-- The common kind. -/
  | base
  /-- A malformed descriptor or classifier. -/
  | configuration
  /-- A value that matches none of the declared types. -/
  | mismatch
  deriving DecidableEq, Repr, Inhabited

namespace ErrorKind

/-- The name of a kind of error. -/
def name : ErrorKind → String
  | base => "TypeCheckError"
  | configuration => "ConfigurationError"
  | mismatch => "TypeMismatchError"

/-- The names of a kind and of the kinds above it, the nearest first. -/
def ancestry : ErrorKind → List String
  | base => [base.name, "Exception"]
  | configuration => [configuration.name, base.name, "ValueError", "Exception"]
  | mismatch => [mismatch.name, base.name, "TypeError", "Exception"]

/-- All kinds. -/
def all : List ErrorKind := [base, configuration, mismatch]

/-- The module of the library's errors. -/
def home : String := "type_check.errors"

end ErrorKind

end NominalCheck
