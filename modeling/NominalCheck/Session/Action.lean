import NominalCheck.Checker
import NominalCheck.Entry.Draft
import NominalCheck.Settings.Standard
import NominalCheck.Session.Registry
import NominalCheck.Trace.Logging

/-!
# Actions

What can be done in a session, in four groups: inquiries, which depend on nothing; questions to a
checker; edits of the registry; and set-up of settings and logging.

## Main definitions

* `Inquiry`, `Question`, `Setup` — the groups beside `Edit`.
* `Action` — any of them.
* `Reply` — what an action answers.
* `Inquiry.answer`, `Question.run` — the answers of inquiries and questions.

## References

The questions are the reference's `check`, `matches`, `assert_type`, `matches_type` and `classify`,
as methods of its `Checker` and as functions of its module; the set-up operations are its
`TypeCheckSettings`, `configure_logging` and `configure_from_env`, which also runs on import.
-/

namespace NominalCheck

/-- A question that depends on nothing but what it names. -/
inductive Inquiry
  /-- The name of a value's exact type. -/
  | typeName (v : Value)
  /-- Whether a value is absent. -/
  | isAbsent (v : Value)
  /-- The entry with a given text. -/
  | parseEntry (v : Value)
  /-- The entry texts of a descriptor. -/
  | entryTexts (descriptor : Value)
  /-- The entries of a descriptor. -/
  | entries (descriptor : Value)
  /-- An entry from named fields. -/
  | buildEntry (fields : List (String × Value))
  /-- How two entries compare, each from fields by position. -/
  | compareEntries (a b : List Value)
  /-- An attempt to change an entry. -/
  | changeEntry (change : FieldChange)
  /-- The sentence about a mismatch. -/
  | mismatchText (expected : String) (given : Value)
  /-- An error built by hand. -/
  | error (e : BuiltError)
  deriving Repr, Inhabited

/-- A question to a checker. -/
inductive Question
  /-- Faults unless the value is accepted by an entry of the descriptor. -/
  | check (descriptor value : Value)
  /-- Whether the value is accepted by an entry of the descriptor. -/
  | accepts (descriptor value : Value)
  /-- Faults unless the value is accepted by the entry. -/
  | assertEntry (entry value : Value)
  /-- Whether the value is accepted by the entry. -/
  | acceptsEntry (entry value : Value)
  /-- The classifier's answer. -/
  | classify (value : Value)
  deriving Repr, Inhabited

/-- The checker that is asked. -/
inductive Target
  /-- The process-wide one. -/
  | ambient
  /-- A stored one. -/
  | stored (id : String)
  /-- One made for the question. -/
  | fresh (c : Classifier)
  deriving Repr, Inhabited

/-- An operation on settings and logging. -/
inductive Setup
  /-- Builds settings, and may then assign to a field. -/
  | settings (keywords : List (String × Value)) (assignment : Option (String × Value))
  /-- Compares two settings. -/
  | compareSettings (a b : List (String × Value))
  /-- Installs a handler. -/
  | configure (verbose json : Bool)
  /-- Runs the environment gate, with settings built from keywords or from the environment. -/
  | gate (keywords : Option (List (String × Value)))
  /-- Runs the gate as loading does; who classifies and the calls so far stay. -/
  | load
  /-- Shows the loggers. -/
  | showLogging
  /-- Does nothing. -/
  | idle
  deriving Repr, Inhabited

/-- Anything that can be done in a session. -/
inductive Action
  /-- An inquiry. -/
  | inquire (i : Inquiry)
  /-- A question to a checker. -/
  | ask (target : Target) (q : Question)
  /-- An edit of the registry. -/
  | edit (e : Edit)
  /-- An operation on settings and logging. -/
  | setUp (s : Setup)
  deriving Repr, Inhabited

/-- What an action answers. -/
inductive Reply
  /-- It is done. -/
  | done
  /-- Yes or no. -/
  | truth (b : Bool)
  /-- A text. -/
  | text (s : String)
  /-- Several texts. -/
  | texts (ss : List String)
  /-- What a classifier answered. -/
  | value (v : Value)
  /-- An entry by its fields, with its text. -/
  | entry (d : Draft) (text : String)
  /-- Several entries. -/
  | entries (es : List Entry)
  /-- A comparison of entries. -/
  | comparison (c : EntryComparison)
  /-- An error built by hand. -/
  | error (e : BuiltError)
  /-- A classifier. -/
  | classifier (c : Classifier)
  /-- Settings. -/
  | settings (s : Settings)
  /-- The loggers. -/
  | logging (l : Logging)
  /-- Whether the gate switched the trace on, and the loggers after it. -/
  | gated (enabled : Bool) (l : Logging)
  /-- The loggers after loading. -/
  | loaded (l : Logging)
  deriving Repr, Inhabited

/-- The answer that shows a draft. -/
def Draft.reply (d : Draft) : Except Fault Reply :=
  d.text.map (.entry d)

/-- The answer of an inquiry. -/
def Inquiry.answer : Inquiry → Except Fault Reply
  | .typeName v => .ok (.text v.typeName)
  | .isAbsent v => .ok (.truth v.isAbsent)
  | .parseEntry v => v.parsedEntry.map fun e => .entry e.toDraft e.render
  | .entryTexts d => d.entryTexts.map .texts
  | .entries d => d.entries.map .entries
  | .buildEntry fields => do (← Draft.ofFields fields).reply
  | .compareEntries a b => do
    return .comparison (← (← Draft.ofArguments a).compare (← Draft.ofArguments b))
  | .changeEntry change => .error (.fixedField change)
  | .mismatchText expected given => .ok (.text (NominalCheck.mismatchText expected given.displayed))
  | .error e => .ok (.error e)

/-- The answer of a checker to a question. -/
def Question.run (q : Question) (k : Checker) : Run Reply :=
  match q with
  | .check descriptor v => (fun _ => .done) <$> k.check descriptor v
  | .accepts descriptor v => .truth <$> k.accepts descriptor v
  | .assertEntry entry v => (fun _ => .done) <$> k.assertEntry entry v
  | .acceptsEntry entry v => .truth <$> k.acceptsEntry entry v
  | .classify v => .value <$> k.classify v

end NominalCheck
