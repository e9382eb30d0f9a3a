import NominalCheck.Proofs.JsonReading
import NominalCheck.Proofs.MatcherTrace
import NominalCheck.Proofs.Silence

/-!
# The trace as JSON lines

Where the latest selection is verbose and in the JSON format, a check writes one object for each of
its records, and ends it with a newline.  The texts in these objects may hold newlines themselves,
and anything else; but nothing of that stands in the object as it is, so the newlines that are
written are the ends of the objects and no others.  So what is written is cut into lines, each line
is read, and what is read are the records that the same step would have collected.

## Main definitions

* `Outcome.writtenAt stamp o` — the text written of an outcome, where the line `i` is written at the
  time `stamp i`.
* `linesOf s` — the pieces of a text between newlines.
* `readRecord s`, `readMessage s` — the record that is told by the object `s`, and its text.
* `checkerObject stamp m` — the object of a record of the checker with the text `m`.

## Main results

* `linesOf_join` — texts without newlines, each ended by one, are the pieces of what they make up.
* `readRecord_jsonText` — the object of an event is read as its record.
* `Outcome.writtenAt_const` — at one time for all lines, `Outcome.writtenAt` is `Outcome.written`.
* `Session.json_trace_reads_back` — **what is written as JSON is read back, line by line.**
-/

namespace NominalCheck

/-! ### Lines -/

/-- The pieces of a text between newlines. -/
def linesOf (s : String) : List String := (s.split '\n').toList.map (·.copy)

/-- Texts that are each ended by a newline stand between newlines, and nothing after the last. -/
theorem join_map_newline (l : List String) :
    String.join (l.map (· ++ "\n")) = (String.singleton '\n').intercalate (l ++ [""]) := by
  have hnewline : String.singleton '\n' = "\n" := rfl
  induction l with
  | nil => rfl
  | cons s l ih =>
    rw [List.map_cons, String.join_cons, ih, hnewline]
    cases l with
    | nil => exact String.intercalate_cons_cons.symm
    | cons t l => exact String.intercalate_cons_cons.symm

/-- Texts without newlines, each ended by one, are the pieces of what they make up. -/
theorem linesOf_join {l : List String} (h : ∀ s ∈ l, '\n' ∉ s.toList) :
    linesOf (String.join (l.map (· ++ "\n"))) = l ++ [""] := by
  have hpieces : ∀ s ∈ l ++ [""], '\n' ∉ s.toList := by
    intro s hs
    rcases List.mem_append.mp hs with hs | hs
    · exact h s hs
    · rw [List.mem_singleton.mp hs]
      exact List.not_mem_nil
  rw [linesOf, join_map_newline, String.toList_split_intercalate hpieces,
    if_neg (List.append_ne_nil_of_right_ne_nil l (List.cons_ne_nil _ _))]

/-! ### Records -/

/-- The level of a given name. -/
def Level.ofName? : String → Option Level
  | "debug" => some .debug
  | "warning" => some .warning
  | _ => none

theorem Level.ofName?_name (l : Level) : ofName? l.name = some l := by
  cases l <;> rfl

/-- The text of an object under the given name. -/
def readText (fields : List (Text.Points × Text.Points)) (name : String) : Option String :=
  (fields.lookup (Text.points name)).bind Text.ofPoints?

/-- The record that is told by an object: it has a text, a level, a logger and a time. -/
def readRecord (s : String) : Option LogRecord := do
  let fields ← Text.readObject s
  let message ← readText fields "event"
  let level ← (readText fields "level").bind Level.ofName?
  let logger ← readText fields "logger"
  let _ ← readText fields "timestamp"
  return ⟨level, logger, message⟩

/-- The names and texts of a record of the checker with the text `message`. -/
def checkerFields (stamp : String) (message : Text.Points) : List (Text.Points × Text.Points) :=
  [(Text.points "event", message), (Text.points "level", Text.points "debug"),
    (Text.points "logger", Text.points "type_check.checker"),
    (Text.points "timestamp", Text.points stamp)]

/-- The object that is written for it. -/
def checkerObject (stamp : String) (message : Text.Points) : String :=
  Text.jsonObject (checkerFields stamp message)

/-- The text of the record that is told by an object. -/
def readMessage (s : String) : Option Text.Points := do
  let fields ← Text.readObject s
  fields.lookup (Text.points "event")

theorem settledFields_checkerFields (stamp : String) {message : Text.Points}
    (h : Text.Settled message) : Text.SettledFields (checkerFields stamp message) := by
  intro field hfield
  simp only [checkerFields, List.mem_cons, List.not_mem_nil, or_false] at hfield
  rcases hfield with rfl | rfl | rfl | rfl
  · exact ⟨Text.settled_points _, h⟩
  all_goals exact ⟨Text.settled_points _, Text.settled_points _⟩

/-- A settled text is read back off its object. -/
theorem readMessage_checkerObject (stamp : String) {message : Text.Points}
    (h : Text.Settled message) : readMessage (checkerObject stamp message) = some message := by
  rw [readMessage, checkerObject,
    Text.readObject_jsonObject (settledFields_checkerFields stamp h)]
  rfl

theorem settledFields_event (stamp : String) (e : Event) :
    Text.SettledFields ((e.fields stamp).map (Prod.map Text.points Text.points)) := by
  intro field hfield
  obtain ⟨pair, -, rfl⟩ := List.mem_map.mp hfield
  exact ⟨Text.settled_points pair.1, Text.settled_points pair.2⟩

/-- The object of an event is read as its record. -/
theorem readRecord_jsonText (stamp : String) (e : Event) :
    readRecord (e.jsonText stamp) = some e.record := by
  rw [readRecord, Event.jsonText, Text.readObject_jsonObject (settledFields_event stamp e)]
  change ((Text.ofPoints? (Text.points e.message)).bind fun message =>
    ((Text.ofPoints? (Text.points e.level.name)).bind Level.ofName?).bind fun level =>
      (Text.ofPoints? (Text.points e.logger)).bind fun logger =>
        (Text.ofPoints? (Text.points stamp)).bind fun _ =>
          some (LogRecord.mk level logger message)) = some e.record
  simp only [Text.ofPoints?_points, Option.bind_some, Level.ofName?_name]
  rfl

/-- Of the loggers, the checker's alone has events of the lower level. -/
theorem Event.logger_of_debug {e : Event} (h : e.level = .debug) :
    e.logger = "type_check.checker" := by
  cases e with
  | ignoredSettings report => cases h
  | _ => rfl

/-! ### What is written -/

/-- The text that is written of an outcome, where the line `i` is written at the time `stamp i`. -/
def Outcome.writtenAt (stamp : Nat → String) (o : Outcome) : String :=
  String.join (o.lines.mapIdx fun i line => line.text (stamp i))

/-- At one time for all lines, this is the text that is written at that time. -/
theorem Outcome.writtenAt_const (stamp : String) (o : Outcome) :
    o.writtenAt (fun _ => stamp) = o.written stamp := by
  rw [writtenAt, written]
  refine congrArg String.join ?_
  induction o.lines with
  | nil => rfl
  | cons line lines ih => rw [List.mapIdx_cons, ih, List.map_cons]

/-- The object of an event of the lower level is that of a record of the checker. -/
theorem Event.jsonText_of_debug {e : Event} (h : e.level = .debug) (stamp : String) :
    e.jsonText stamp = checkerObject stamp (Text.points e.message) := by
  rw [Event.jsonText, Event.fields, h, Event.logger_of_debug h]
  rfl

/-- The texts of several events. -/
def messagesOf (events : List Event) : List Text.Points := events.map fun e => Text.points e.message

/-- The objects of several texts, where the text `i` is told at the time `stamp i`. -/
def checkerLines (stamp : Nat → String) (messages : List Text.Points) : List String :=
  messages.mapIdx fun i m => checkerObject (stamp i) m

theorem checkerLines_cons (stamp : Nat → String) (m : Text.Points) (messages : List Text.Points) :
    checkerLines stamp (m :: messages)
      = checkerObject (stamp 0) m :: checkerLines (fun i => stamp (i + 1)) messages :=
  List.mapIdx_cons

theorem checkerLines_messagesOf_cons {stamp : Nat → String} {e : Event} (he : e.level = .debug)
    (events : List Event) :
    checkerLines stamp (messagesOf (e :: events))
      = e.jsonText (stamp 0) :: checkerLines (fun i => stamp (i + 1)) (messagesOf events) := by
  rw [Event.jsonText_of_debug he]
  exact checkerLines_cons stamp (Text.points e.message) (messagesOf events)

/-- What goes to a handler of the JSON format is an object for each event, ended by a newline. -/
theorem Outcome.writtenAt_json {o : Outcome} {events : List Event}
    (h : o.lines = events.map (⟨.json, ·⟩)) (hdebug : ∀ e ∈ events, e.level = .debug)
    (stamp : Nat → String) :
    o.writtenAt stamp = String.join
      ((checkerLines stamp (messagesOf events)).map (· ++ "\n")) := by
  rw [writtenAt, h]
  clear h
  refine congrArg String.join ?_
  induction events generalizing stamp with
  | nil => rfl
  | cons e events ih =>
    obtain ⟨he, hevents⟩ := List.forall_mem_cons.mp hdebug
    rw [List.map_cons, List.mapIdx_cons, ih hevents, checkerLines_messagesOf_cons he,
      List.map_cons]
    rfl

/-- Nothing plain is a newline. -/
theorem newline_notMem_of_isPlain {cs : List Char} (h : Text.IsPlain cs) : '\n' ∉ cs := by
  intro hmem
  have hplain := h _ hmem
  revert hplain
  decide

section

variable {stamp : Nat → String} {messages : List Text.Points}

/-- Settled texts are written in plain characters. -/
theorem isPlain_of_mem_checkerLines (h : ∀ m ∈ messages, Text.Settled m) {line : String}
    (hline : line ∈ checkerLines stamp messages) : Text.IsPlain line.toList := by
  obtain ⟨i, hi, rfl⟩ := List.mem_mapIdx.mp hline
  exact Text.isPlain_jsonObject
    (settledFields_checkerFields (stamp i) (h _ (List.getElem_mem hi)))

/-- So the newlines between them are the only ones. -/
theorem linesOf_checkerLines (h : ∀ m ∈ messages, Text.Settled m) :
    linesOf (String.join ((checkerLines stamp messages).map (· ++ "\n")))
      = checkerLines stamp messages ++ [""] :=
  linesOf_join fun _ hline => newline_notMem_of_isPlain (isPlain_of_mem_checkerLines h hline)

/-- And each of them is read back. -/
theorem mapM_readMessage_checkerLines (h : ∀ m ∈ messages, Text.Settled m) :
    (checkerLines stamp messages).mapM readMessage = some messages := by
  induction messages generalizing stamp with
  | nil => rfl
  | cons m messages ih =>
    obtain ⟨hm, hmessages⟩ := List.forall_mem_cons.mp h
    rw [checkerLines_cons, List.mapM_cons, readMessage_checkerObject _ hm, ih hmessages]
    rfl

end

/-- The lines of several events are read as their records. -/
theorem mapM_readRecord_checkerLines (stamp : Nat → String) {events : List Event}
    (h : ∀ e ∈ events, e.level = .debug) :
    (checkerLines stamp (messagesOf events)).mapM readRecord
      = some (events.map Event.record) := by
  induction events generalizing stamp with
  | nil => rfl
  | cons e events ih =>
    obtain ⟨he, hevents⟩ := List.forall_mem_cons.mp h
    rw [checkerLines_messagesOf_cons he, List.mapM_cons, readRecord_jsonText, ih _ hevents]
    rfl

namespace Session

/-- **What is written as JSON is read back, line by line.**  Where the latest selection is verbose
and in the JSON format, what a check writes is cut by its newlines into one line for each record
that the same step collects where it is traced, and nothing after the last.  Each line is an object
with the text of its record, and holds plain characters only, so that no other convention about the
ends of lines cuts it; and the records that are read off the lines are those that are collected.
So it is with whatever settled texts a record of the checker could have. -/
theorem json_trace_reads_back [SettingsLibrary] (past : List Step)
    (hlatest : (({} : Session).selections past).getLast? = some ⟨true, .json⟩) (step : Step)
    (t : Target) (q : Question) (stamp : Nat → String) :
    let s := (({} : Session).run past).2
    let written := (s.step { step with action := .ask t q, traced := false }).1.writtenAt stamp
    let records := (s.step { step with action := .ask t q, traced := true }).1.records
    (∀ r ∈ records, r.level = .debug ∧ r.logger = "type_check.checker") ∧
    (∃ lines : List String,
      linesOf written = lines ++ [""] ∧
      lines.length = records.length ∧
      (∀ line ∈ lines, Text.IsPlain line.toList) ∧
      (∀ i line r, lines[i]? = some line → records[i]? = some r →
        line = checkerObject (stamp i) (Text.points r.message) ∧
        Text.readObject line = some (checkerFields (stamp i) (Text.points r.message))) ∧
      lines.mapM readRecord = some records) ∧
    -- records with texts of any code points
    ∀ messages : List Text.Points, (∀ m ∈ messages, Text.Settled m) →
      let lines := checkerLines stamp messages
      linesOf (String.join (lines.map (· ++ "\n"))) = lines ++ [""] ∧
      (∀ line ∈ lines, Text.IsPlain line.toList) ∧
      lines.mapM readMessage = some messages := by
  intro s written records
  have hrecords : records = (s.ask t q).events.map Event.record := rfl
  have hsteps : ∀ e ∈ (s.ask t q).events, e.level = .debug := s.tellsSteps_ask t q
  have hpackage : s.logging.package = Selection.logger ⟨true, .json⟩ := by
    rw [logging_run {} past, hlatest]
    rfl
  have hwritten : written = String.join
      ((checkerLines stamp (messagesOf (s.ask t q).events)).map (· ++ "\n")) :=
    Outcome.writtenAt_json (lines_step_of_verbose hpackage rfl step t q) hsteps stamp
  have hsettled : ∀ m ∈ messagesOf (s.ask t q).events, Text.Settled m := by
    intro m hm
    obtain ⟨e, -, rfl⟩ := List.mem_map.mp hm
    exact Text.settled_points e.message
  refine ⟨fun r hr => ?_, ⟨checkerLines stamp (messagesOf (s.ask t q).events), ?_, ?_, ?_,
    fun i line r hline hr => ?_, ?_⟩,
    fun messages h => ⟨linesOf_checkerLines h, fun line => isPlain_of_mem_checkerLines h,
      mapM_readMessage_checkerLines h⟩⟩
  · obtain ⟨e, he, rfl⟩ := List.mem_map.mp hr
    exact ⟨hsteps e he, Event.logger_of_debug (hsteps e he)⟩
  · rw [hwritten]
    exact linesOf_checkerLines hsettled
  · rw [checkerLines, List.length_mapIdx, messagesOf, List.length_map]
    exact (List.length_map Event.record).symm
  · exact fun line => isPlain_of_mem_checkerLines hsettled
  · rw [hrecords, List.getElem?_map] at hr
    obtain ⟨e, he, rfl⟩ := Option.map_eq_some_iff.mp hr
    rw [checkerLines, List.getElem?_mapIdx, messagesOf, List.getElem?_map, he] at hline
    cases hline
    exact ⟨rfl, Text.readObject_jsonObject
      (settledFields_checkerFields (stamp i) (Text.settled_points e.message))⟩
  · exact mapM_readRecord_checkerLines stamp hsteps

/-- An entry with a newline, a quote, a backslash, a control character and two characters beyond
ASCII, one of them beyond the basic plane, stands in four records, and is written on four lines. -/
theorem awkward_entry_reads_back :
    let past : List Step := [{ action := .setUp (.configure true true) }]
    let entry := "a\n\"\\\x01é😀"
    let v : Value := .text "str"
    let step : Step := { action := .ask .ambient (.check (.text entry) v) }
    let outcome := ((({} : Session).run past).2.step step).1
    ∀ stamp, ∃ lines : List String, linesOf (outcome.writtenAt stamp) = lines ++ [""] ∧
      lines.mapM readRecord = some [openingRecord (.text entry) v, tryingRecord [entry] v,
        testedRecord v entry, failedRecord v entry] := by
  intro past entry v step outcome stamp
  have hlatest : (({} : Session).selections past).getLast? = some ⟨true, .json⟩ := by decide
  obtain ⟨-, ⟨lines, hlines, -, -, -, hread⟩, -⟩ :=
    json_trace_reads_back past hlatest step .ambient (.check (.text entry) v) stamp
  refine ⟨lines, hlines, hread.trans (congrArg some ?_)⟩
  have hnative : (({} : Session).run past).2.classifierOf .ambient = .ok .native := rfl
  have hanswer : (Classifier.native.ask .native [] v).outcome = .ok (.text "str") := rfl
  have hrefused : ∀ e ∈ [entry], ¬ Admits [e] v (.text "str") := by decide
  have hevents := events_ask_of_quiet_answer (q := .accepts (.text entry) v) hnative rfl hanswer rfl
  have htrying : (Question.accepts (.text entry) v).trace [entry] (.text "str")
      = .trying v [specOf entry] :: [entry].flatMap (refusedEvents v) := by
    rw [← trials_of_none hrefused, ← parse_eq_specOf]
    rfl
  change (((({} : Session).run past).2.ask .ambient (.check (.text entry) v)).events).map
    Event.record = _
  rw [events_check hnative, hevents, htrying]
  change openingRecord (.text entry) v :: (Event.trying v ([entry].map specOf)).record ::
    ([entry].flatMap (refusedEvents v)).map Event.record = _
  rw [record_trying, map_record_refused]
  rfl

/-- A step that is traced collects its records and writes none of them.  And of a character beyond
the basic plane that stands in a text as two surrogates, which are two code points there, the line
is that of the text with the whole character, so that the text is not read back as it was. -/
theorem unsettled_text_reads_back_otherwise :
    let past : List Step := [{ action := .setUp (.configure true true) }]
    let step : Step := { action := .ask .ambient (.check (.text "int") (.int 5)), traced := true }
    let outcome := ((({} : Session).run past).2.step step).1
    let around (entry : Text.Points) : Text.Points :=
      Text.points "failed to match type " ++ entry ++ Text.points " for value 5"
    (({} : Session).selections past).getLast? = some ⟨true, .json⟩ ∧
      (∀ stamp, outcome.writtenAt stamp = "") ∧ outcome.records.length = 3 ∧
      ∀ stamp, readMessage (checkerObject stamp (around [0xd83d, 0xde00]))
        = some (around [0x1f600]) ∧ around [0xd83d, 0xde00] ≠ around [0x1f600] := by
  intro past step outcome around
  have hwhole : Text.Settled (around [0x1f600]) := by decide
  have hunits : Text.codeUnits 0x1f600 = [0xd83d, 0xde00] := by decide
  refine ⟨by decide, fun _ => rfl, rfl, fun stamp => ⟨?_, by decide⟩⟩
  have hsame : checkerObject stamp (around [0xd83d, 0xde00])
      = checkerObject stamp (around [0x1f600]) := by
    have htext := Text.jsonText_codeUnits (n := 0x1f600) (by decide) (by decide)
      (Text.points "failed to match type ") (Text.points " for value 5")
    rw [hunits] at htext
    simp only [checkerObject, checkerFields, Text.jsonObject, List.map_cons, List.map_nil, around,
      htext]
  rw [hsame]
  exact readMessage_checkerObject stamp hwhole

end Session

end NominalCheck
