import NominalCheck.Settings.Options
import NominalCheck.Settings.Switch

/-!
# The standard library for settings

The library that is used where no other is given. A switch is taken from a keyword if there is one,
else from the environment, else it has its default. Either all is well or every problem is reported:
those of the switches first, then the keywords that are neither for a switch nor options.

## Main definitions

* `SettingsClass.gathered?` — the value that is gathered for a switch, if there is one.
* `SettingsClass.gather`, `SettingsClass.build` — the two turns of the library.
* `SettingsLibrary.standard` — the library.

## References

The two turns follow what is written about the base class of the reference's `TypeCheckSettings`:
keywords before variables before defaults, and one error for all that is refused.
-/

namespace NominalCheck

/-- The keyword for a switch: the first of its spellings. -/
def DeclaredSwitch.keyword? (d : DeclaredSwitch) (keywords : Keywords) : Option Value :=
  (keywords.find? fun p => Text.sameLetters p.1 d.name).map (·.2)

namespace SettingsClass

/-- The value gathered for a switch: its keyword, else its variable. -/
def gathered? (cls : SettingsClass) (env : Environment) (keywords : Keywords)
    (d : DeclaredSwitch) : Option Value :=
  (d.keyword? keywords).or ((Options.ofKeywords cls.lead keywords).read? env d.name)

/-- The value gathered for a switch, under its name. -/
def gatheredPair (cls : SettingsClass) (env : Environment) (keywords : Keywords)
    (d : DeclaredSwitch) : Keywords :=
  ((cls.gathered? env keywords d).map fun v => (d.name, v)).toList

/-- The values gathered: those of the switches, and the keywords that are for none. -/
def gather (cls : SettingsClass) (env : Environment) (keywords : Keywords) : Keywords :=
  cls.switches.flatMap (cls.gatheredPair env keywords)
    ++ keywords.filter fun p => !cls.isName p.1 && !isOption p.1

/-- Whether the value gathered for the switch of a name is read as on. -/
def isOn (cls : SettingsClass) (values : Keywords) (name : String) : Bool :=
  cls.switches.any fun d => d.name == name && (d.considered values).toSwitch.toOption == some true

/-- The truth values of the switches, or the report on everything wrong with the values. -/
def build (cls : SettingsClass) (values : Keywords) : Except Report (String → Bool) :=
  match cls.problems Value.toSwitch values with
  | [] => .ok (cls.isOn values)
  | problems => .error (.of cls.title problems)

end SettingsClass

/-- The standard library. -/
instance SettingsLibrary.standard : SettingsLibrary where
  isOption := NominalCheck.isOption
  gather := SettingsClass.gather
  readBool := Value.toSwitch
  build := SettingsClass.build

end NominalCheck
