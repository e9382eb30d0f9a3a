import NominalCheck.Value.Printed
import NominalCheck.Text.Excerpt

/-!
# Reports

A configuration is refused with a report: a title and the list of everything that is wrong, each
problem with its place, the value found there and where to read about it.

## Main definitions

* `Complaint` — what can be wrong with a configuration value.
* `Problem` — a complaint, its place and the value found there.
* `Report` — all problems of one configuration, and what is written of them.
* `Report.of title problems` — the report with the usual text.

## References

A report stands for the `ValidationError` that the reference's settings and its `CheckerConfig`
raise.
-/

namespace NominalCheck

/-- What can be wrong with a configuration value. -/
inductive Complaint
  /-- A text, byte string or machine integer that spells no truth value. -/
  | boolParsing
  /-- A value of a type that spells no truth value. -/
  | boolType
  /-- A value under a name that no field has. -/
  | extraForbidden
  /-- A value assigned after construction. -/
  | frozenInstance
  /-- A value that cannot be applied. -/
  | callableType
  deriving DecidableEq, Repr, Inhabited

/-- The short name of a complaint. -/
def Complaint.tag : Complaint → String
  | .boolParsing => "bool_parsing"
  | .boolType => "bool_type"
  | .extraForbidden => "extra_forbidden"
  | .frozenInstance => "frozen_instance"
  | .callableType => "callable_type"

/-- The sentence of a complaint. -/
def Complaint.message : Complaint → String
  | .boolParsing => "Input should be a valid boolean, unable to interpret input"
  | .boolType => "Input should be a valid boolean"
  | .extraForbidden => "Extra inputs are not permitted"
  | .frozenInstance => "Instance is frozen"
  | .callableType => "Input should be callable"

/-- The address of the page about a complaint. -/
def Complaint.address (c : Complaint) : String :=
  "https://errors.pydantic.dev/2.14/v/" ++ c.tag

/-- One thing that is wrong with a configuration. -/
structure Problem where
  /-- What is wrong. -/
  complaint : Complaint
  /-- The name of the field. -/
  location : String
  /-- The value found there. -/
  input : Value
  deriving Repr, Inhabited

/-- The place of a problem: a name that holds a point stands between backquotes. -/
def Problem.place (p : Problem) : String :=
  if '.' ∈ p.location.toList then "\x60" ++ p.location ++ "\x60" else p.location

/-- The three lines of a problem. -/
def Problem.lines (p : Problem) : List String :=
  [p.place,
    "  " ++ p.complaint.message ++ " [type=" ++ p.complaint.tag ++ ", input_value="
      ++ Text.excerpt p.input.printed ++ ", input_type=" ++ p.input.typeName ++ "]",
    "    For further information visit " ++ p.complaint.address]

/-- Everything that is wrong with one configuration. -/
structure Report where
  /-- The problems in order. -/
  problems : List Problem
  /-- The written form. -/
  text : String
  deriving Repr, Inhabited

namespace Report

/-- The first line of a report on a number of problems. -/
def headline (title : String) (count : Nat) : String :=
  toString count ++ " validation error" ++ (if count = 1 then "" else "s") ++ " for " ++ title

/-- The report on problems with the configuration `title`: the first line counts them, and the
others tell them one by one. -/
def of (title : String) (problems : List Problem) : Report where
  problems := problems
  text := "\n".intercalate (headline title problems.length :: problems.flatMap Problem.lines)

end Report

end NominalCheck
