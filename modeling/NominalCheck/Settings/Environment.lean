import NominalCheck.Assignments
import NominalCheck.Text.LetterCase

/-!
# Environments

The environment assigns texts to variables. Names are looked up without regard to letter case; of
several spellings the last one counts.

## Main definitions

* `Environment` — the variables with their texts, in order of first assignment.
* `Environment.find?` — the text of a variable.
* `Environment.replaceOwn` — gives the library other variables.

## References

The variables are those from which the reference's `TypeCheckSettings` takes its values.
-/

namespace NominalCheck

/-- Variables with their texts, in order of first assignment. -/
abbrev Environment := Assignments String

namespace Environment

/-- The text of the last variable whose name has the same letters as `name`. -/
def find? (env : Environment) (name : String) : Option String :=
  (env.reverse.find? fun p => Text.sameLetters p.1 name).map (·.2)

/-- Whether a variable is one of the library's own, which share the start of their names. -/
def isOwn (name : String) : Bool :=
  (Text.lowered "TYPE_CHECK").isPrefixOf (Text.lowered name)

/-- The environment in which the library's own variables make way for the given ones. -/
def replaceOwn (env : Environment) (given : List (String × String)) : Environment :=
  Assignments.putAll (env.filter fun p => !isOwn p.1) given

@[simp] theorem find?_nil (name : String) : find? [] name = none := rfl

end Environment

end NominalCheck
