import NominalCheck.Report
import NominalCheck.Settings.Environment

/-!
# Settings

Two switches: whether the trace is on, and whether its lines are JSON. They are declared in a class,
with their defaults and the start of the names of their variables, and are built by a library from
keywords and from variables of the environment. The library is a parameter: its code is no part of
this development, and what is done with settings is done whatever the library makes of its sources.

## Main definitions

* `DeclaredSwitch`, `SettingsClass` — what a class of settings declares.
* `SettingsLibrary` — a library that builds what is declared.
* `DeclaredSwitch.considered`, `SettingsClass.problems` — the value of a switch among values that
  are gathered, and what is wrong with such values.
* `Field` — the two switches that are declared here.
* `Settings`, `Settings.declared` — their values, and their class.
* `Settings.resolve` — the settings, or the report about them.
* `Settings.assign` — an assignment to a switch after construction.

## References

`Settings.declared` is the reference's `TypeCheckSettings`, and `Settings.resolve` is the call of
that class. The library is the base class from which it inherits its constructor.
-/

namespace NominalCheck

/-- Values given to the settings, by name. -/
abbrev Keywords := Assignments Value

/-! ### Classes of settings -/

/-- A switch that a class of settings declares. -/
structure DeclaredSwitch where
  /-- Its name. -/
  name : String
  /-- Its value where none is given. -/
  default : Bool
  deriving DecidableEq, Repr, Inhabited

/-- What a class of settings declares. -/
structure SettingsClass where
  /-- The name of the class. -/
  title : String
  /-- What stands before the name of a switch in that of its variable. -/
  lead : String
  /-- The switches in order. -/
  switches : List DeclaredSwitch
  deriving Repr, Inhabited

/-- A library that builds settings, in two turns: the values are gathered from the sources, and then
read. -/
class SettingsLibrary where
  /-- Whether a name is that of an option, which says how the sources are read. -/
  isOption : String → Bool
  /-- The values gathered from the variables and the keywords, by name. -/
  gather : SettingsClass → Environment → Keywords → Keywords
  /-- The truth value that a value is read as, or the complaint about the value. -/
  readBool : Value → Except Complaint Bool
  /-- The truth values of the switches by name, or the report on what is wrong with the values
  gathered. -/
  build : SettingsClass → Keywords → Except Report (String → Bool)

namespace DeclaredSwitch

/-- The value that is considered for a switch: the one gathered, else the default. -/
def considered (d : DeclaredSwitch) (values : Keywords) : Value :=
  (values.lookup d.name).getD (.bool d.default)

/-- What is wrong with the value considered, where values are read by `read`. -/
def problems (d : DeclaredSwitch) (read : Value → Except Complaint Bool) (values : Keywords) :
    List Problem :=
  match read (d.considered values) with
  | .ok _ => []
  | .error complaint => [⟨complaint, d.name, d.considered values⟩]

end DeclaredSwitch

namespace SettingsClass

/-- The names of the switches. -/
def names (cls : SettingsClass) : List String := cls.switches.map (·.name)

/-- Whether a name is that of a switch, in any letter case. -/
def isName (cls : SettingsClass) (name : String) : Bool :=
  cls.switches.any fun d => Text.sameLetters name d.name

/-- The values gathered that are for no switch. -/
def extras (cls : SettingsClass) (values : Keywords) : Keywords :=
  values.filter fun p => p.1 ∉ cls.names

/-- Everything that is wrong with the values gathered: with the switches in order, and then that
there are values for none. -/
def problems (cls : SettingsClass) (read : Value → Except Complaint Bool) (values : Keywords) :
    List Problem :=
  cls.switches.flatMap (·.problems read values)
    ++ (cls.extras values).map fun p => ⟨.extraForbidden, p.1, p.2⟩

end SettingsClass

/-! ### The settings of the trace -/

/-- The switches of the trace. -/
inductive Field
  /-- Whether the trace is on. -/
  | debug
  /-- Whether trace lines are JSON. -/
  | logJson
  deriving DecidableEq, Repr, Inhabited

/-- A switch of the trace as it is declared: both are off by default. -/
def Field.declared : Field → DeclaredSwitch
  | .debug => ⟨"debug", false⟩
  | .logJson => ⟨"log_json", false⟩

/-- The name of a switch of the trace. -/
def Field.name (f : Field) : String := f.declared.name

/-- The two switches. -/
@[ext] structure Settings where
  /-- Whether the trace is on. -/
  debug : Bool
  /-- Whether trace lines are JSON. -/
  logJson : Bool
  deriving DecidableEq, Repr, Inhabited

namespace Settings

/-- The value of a switch. -/
def value (s : Settings) : Field → Bool
  | .debug => s.debug
  | .logJson => s.logJson

/-- The class of the settings. -/
def declared : SettingsClass where
  title := "TypeCheckSettings"
  lead := "TYPE_CHECK_"
  switches := [Field.debug.declared, Field.logJson.declared]

/-- The settings in which each switch has the truth value of its name. -/
def ofNames (read : String → Bool) : Settings :=
  ⟨read Field.debug.name, read Field.logJson.name⟩

/-- The settings from an environment and a list of keywords, in which a name that is given again
takes the later value. -/
def resolve [SettingsLibrary] (env : Environment) (keywords : List (String × Value)) :
    Except Report Settings :=
  (SettingsLibrary.build declared
    (SettingsLibrary.gather declared env (Assignments.ofList keywords))).map ofNames

/-- The printed form of the settings. -/
def printed (s : Settings) : String :=
  declared.title ++ "(debug=" ++ (Value.bool s.debug).printed ++ ", log_json="
    ++ (Value.bool s.logJson).printed ++ ")"

/-- The report on an assignment to a field after construction. -/
def assignmentReport (field : String) (v : Value) : Report :=
  .of declared.title [⟨.frozenInstance, field, v⟩]

/-- The settings after an assignment: a name with a leading underscore is kept apart from the
fields, any other is refused. -/
def assign (s : Settings) (field : String) (v : Value) : Except Report Settings :=
  if field.toList.head? = some '_' then .ok s else .error (assignmentReport field v)

end Settings

end NominalCheck
