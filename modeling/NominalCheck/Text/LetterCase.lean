/-!
# Letter case

Names of switches and of environment variables are compared without regard to letter case.

## Main definitions

* `lowerLetter c` — the lower-case form of `c` where that is an ASCII letter.
* `sameLetters s t` — `s` and `t` differ in letter case only.
-/

namespace NominalCheck.Text

/-- The lower-case form of `c` where that form is an ASCII letter, else `c` itself. Outside ASCII
the Kelvin sign alone has such a form. -/
def lowerLetter (c : Char) : Char :=
  if c = '\u212a' then 'k' else c.toLower

/-- The characters of `s` in lower case. -/
def lowered (s : String) : List Char :=
  s.toList.map lowerLetter

/-- Whether `s` and `t` differ at most in letter case. -/
def sameLetters (s t : String) : Bool :=
  lowered s == lowered t

@[simp] theorem sameLetters_self (s : String) : sameLetters s s = true := by
  simp [sameLetters]

end NominalCheck.Text
