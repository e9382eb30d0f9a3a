import NominalCheck.Trace.Event
import NominalCheck.Text.Json

/-!
# Trace lines

An event is written as one record in a format: a JSON object, a line for a console, a coloured line
for a terminal, or the bare sentence where no handler is installed. A record ends with a newline;
only in the JSON format is that the only newline of the record.

## Main definitions

* `Format` — the formats.
* `Line` — an event on its way out, in a format.
* `Line.text stamp l` — the record, where `stamp` is the time.

## References

The formats are those of the two renderers between which the reference's `configure_logging`
chooses, and of the logging library where no handler is installed.
-/

namespace NominalCheck

/-- How an event is written. -/
inductive Format
  /-- A JSON object. -/
  | json
  /-- Columns for a reader, with colours or without. -/
  | console (coloured : Bool)
  /-- The sentence alone. -/
  | bare
  deriving DecidableEq, Repr, Inhabited

/-- An event on its way out. -/
structure Line where
  /-- The format of the record. -/
  format : Format
  /-- The event. -/
  event : Event
  deriving Repr, Inhabited

/-- A text filled with blanks on the right up to a width in characters. -/
def padRight (width : Nat) (s : String) : String :=
  s ++ String.ofList (List.replicate (width - s.length) ' ')

/-- The sequence that switches a terminal to the given style. -/
def style (code : String) : String :=
  "\x1b[" ++ code ++ "m"

/-- The colour of a level: green for a step, yellow for a warning. -/
def Level.colour : Level → String
  | .debug => "32"
  | .warning => "33"

namespace Event

/-- The fields of an event's JSON object. -/
def fields (stamp : String) (e : Event) : List (String × String) :=
  [("event", e.message), ("level", e.level.name), ("logger", e.logger), ("timestamp", stamp)]

/-- The JSON object of an event. -/
def jsonText (stamp : String) (e : Event) : String :=
  Text.jsonObject ((e.fields stamp).map (Prod.map Text.points Text.points))

/-- The console line of an event: time, level, sentence and logger, the sentence in a column of
thirty characters. -/
def consoleText (stamp : String) (e : Event) : String :=
  stamp ++ " [" ++ padRight 9 e.level.name ++ "] " ++ padRight 30 e.message
    ++ " [" ++ e.logger ++ "]"

/-- The console line of an event on a terminal: the time is faint, the level bold in its colour,
the sentence bold, the logger bold and blue. -/
def colouredText (stamp : String) (e : Event) : String :=
  let reset := style "0"
  let bold := style "1"
  style "2" ++ stamp ++ reset ++ " ["
    ++ style e.level.colour ++ bold ++ padRight 9 e.level.name ++ reset ++ "] "
    ++ bold ++ padRight 30 e.message ++ reset ++ " ["
    ++ reset ++ bold ++ style "34" ++ e.logger ++ reset ++ "]" ++ reset

end Event

/-- The record of a line, at the time `stamp`. -/
def Line.text (stamp : String) (l : Line) : String :=
  (match l.format with
    | .json => l.event.jsonText stamp
    | .console false => l.event.consoleText stamp
    | .console true => l.event.colouredText stamp
    | .bare => l.event.message) ++ "\n"

end NominalCheck
