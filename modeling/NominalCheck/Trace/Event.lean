import NominalCheck.Report

/-!
# Trace events

What a check tells about itself, and what the environment gate tells about settings it ignores.

## Main definitions

* `Event` — the events.
* `Event.message e`, `Event.level e`, `Event.logger e` — the record of an event.

## References

The sentences are those that the reference's `Checker.check`, `Checker._first_match` and
`Checker._spec_matches` give to their logger, and `configure_from_env` to its own.
-/

namespace NominalCheck

/-- The weight of an event. -/
inductive Level
  /-- A step of a check. -/
  | debug
  /-- Something a user should see. -/
  | warning
  deriving DecidableEq, Repr, Inhabited

/-- The number by which levels are compared. -/
def Level.severity : Level → Nat
  | .debug => 10
  | .warning => 30

/-- The name of a level in small letters. -/
def Level.name : Level → String
  | .debug => "debug"
  | .warning => "warning"

/-- The name of a level in capitals. -/
def Level.capitals : Level → String
  | .debug => "DEBUG"
  | .warning => "WARNING"

/-- An event. -/
inductive Event
  /-- A check begins. -/
  | check (descriptor value : Value)
  /-- The entries are about to be tried. -/
  | trying (value : Value) (entries : List Entry)
  /-- One entry is tried. -/
  | testing (name : String) (value : Value)
  /-- One entry has not accepted the value. -/
  | failed (entry : Entry) (value : Value)
  /-- Settings from the environment are ignored. -/
  | ignoredSettings (report : Report)
  deriving Repr, Inhabited

namespace Event

/-- The level of an event: the events of a check are of the lower one. -/
def level : Event → Level
  | .ignoredSettings _ => .warning
  | _ => .debug

/-- The name of the logger to which an event belongs. -/
def logger : Event → String
  | .ignoredSettings _ => "type_check.config.logging"
  | _ => "type_check.checker"

/-- The sentence of an event. Values and names are in printed form, an entry that failed is in its
own text. -/
def message : Event → String
  | .check descriptor value => "check(" ++ descriptor.printed ++ ", " ++ value.printed ++ ")"
  | .trying value entries =>
    "trying to match " ++ value.printed ++ " to any of " ++ printedEntries entries
  | .testing name value =>
    "testing " ++ Text.quoted name ++ " type for value " ++ value.printed
  | .failed entry value =>
    "failed to match type " ++ entry.render ++ " for value " ++ value.printed
  | .ignoredSettings report =>
    "Ignoring invalid TYPE_CHECK_* settings, tracing disabled: " ++ report.text

end Event

end NominalCheck
