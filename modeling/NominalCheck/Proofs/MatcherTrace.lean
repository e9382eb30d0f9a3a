import NominalCheck.Proofs.Agreement

/-!
# The trace of a check

What a check tells on its way is the run of the matcher: the entries that were tried, one after the
other, each as tested and then as failed, up to the first that accepts, which is tested only.  This
is said twice, of the events and of the records that a logger gets of them.  The records say it in
texts of two kinds: a value and the bare name of an entry are quoted, and an entry that has failed
stands there as it was given.

## Main definitions

* `bareName e`, `specOf e` — the name in the raw entry `e`, and the entry that it is read as.
* `refusedEvents v e` — what is told of an entry that does not accept `v`.
* `LogRecord` — what a logger gets of an event: its level, its logger and its text.
* `Outcome.told o`, `Outcome.records o` — the events of a traced step, and their records.
* `openingRecord`, `tryingRecord`, `testedRecord`, `failedRecord` — the four records of a check,
  written out from raw entries.
* `LogRecord.TellsFailure r` — the text of `r` begins as those about entries that have failed.

## Main results

* `parse_eq_specOf`, `printedEntries_specOf` — how raw entries are read, and shown.
* `trials_of_first`, `trials_of_none` — the events of trying raw entries.
* `Session.events_ask_of_answer` — what a question tells, where the classifier answers.
* `Session.trace_is_matcher_run` — **the records of a check are the run of the matcher**, and the
  number of failures among them tells how it ends.
-/

namespace NominalCheck

/-! ### Raw entries -/

/-- The name in a raw entry: its text without the closing marker, if there is one. -/
def bareName (e : String) : String :=
  if Marked e then String.ofList e.toList.dropLast else e

/-- The entry that a raw one is read as. -/
def specOf (e : String) : Entry := ⟨bareName e, decide (Marked e)⟩

/-- A raw entry is read as its bare name and whether it has a marker. -/
theorem parse_eq_specOf (e : String) : Entry.parse e = specOf e := by
  by_cases h : Marked e
  · rw [specOf, bareName, if_pos h, decide_eq_true h]
    obtain ⟨name, rfl⟩ := h
    have hl : (name ++ "?").toList = name.toList ++ ['?'] := String.toList_append
    rw [Entry.parse_append_marker, hl, List.dropLast_concat, String.ofList_toList]
  · rw [specOf, bareName, if_neg h, decide_eq_false h, Entry.parse_of_not_marked h]

theorem map_parse (es : List String) : es.map Entry.parse = es.map specOf :=
  List.map_congr_left fun e _ => parse_eq_specOf e

/-- The form in which the entry of a raw one is shown, by its two fields. -/
def specText (e : String) : String :=
  "TypeSpec(name=" ++ Text.quoted (bareName e) ++ ", optional="
    ++ (if Marked e then "True" else "False") ++ ")"

/-- The form in which the entries of raw ones are shown, as a tuple: one alone is followed by a
comma. -/
def specsText : List String → String
  | [e] => "(" ++ specText e ++ ",)"
  | es => "(" ++ ", ".intercalate (es.map specText) ++ ")"

theorem printed_specOf (e : String) : (specOf e).printed = specText e := by
  have hlead : "TypeSpec" ++ "(name=" = "TypeSpec(name=" := by decide
  have hflag : (if (specOf e).optional then "True" else "False")
      = if Marked e then "True" else "False" := by
    simp only [specOf, decide_eq_true_eq]
  unfold Entry.printed Entry.printedFields specText
  rw [hflag, ← hlead]
  simp only [specOf, String.append_assoc, -String.reduceAppend]

/-- The entries of raw ones are shown as such. -/
theorem printedEntries_specOf (es : List String) :
    printedEntries (es.map specOf) = specsText es := by
  have hshown : (es.map specOf).map Entry.printed = es.map specText := by
    rw [List.map_map]
    exact List.map_congr_left fun e _ => printed_specOf e
  rw [printedEntries, hshown]
  cases es with
  | nil => rfl
  | cons e es => cases es <;> rfl

/-- A raw entry is written as it was given. -/
theorem render_specOf (e : String) : (specOf e).render = e := by
  rw [← parse_eq_specOf, Entry.render_parse]

/-! ### Events -/

/-- The events of a step, if it is traced. -/
def Outcome.told (o : Outcome) : List Event := o.trace.getD []

/-- What is told of an entry that does not accept the value. -/
def refusedEvents (v : Value) (e : String) : List Event :=
  [.testing (bareName e) v, .failed (specOf e) v]

section

variable {v given : Value} {es : List String}

/-- If no entry accepts the value, all are tested and fail. -/
theorem trials_of_none (h : ∀ e ∈ es, ¬ Admits [e] v given) :
    trials v given (es.map Entry.parse) = es.flatMap (refusedEvents v) := by
  induction es with
  | nil => rfl
  | cons e es ih =>
    have he : (Entry.parse e).accepts v given = false := by
      rw [Entry.accepts_parse_eq, decide_eq_false (h e List.mem_cons_self)]
    rw [List.map_cons, trials_cons_of_not_accepts he,
      ih fun x hx => h x (List.mem_cons_of_mem e hx), parse_eq_specOf, List.flatMap_cons]
    rfl

/-- Those before the first that accepts are tested and fail, and that one is tested only. -/
theorem trials_of_first {k : Nat} (hk : k < es.length) (h : Admits [es[k]] v given)
    (hbefore : ∀ i (hi : i < k), ¬ Admits [es[i]] v given) :
    trials v given (es.map Entry.parse)
      = (es.take k).flatMap (refusedEvents v) ++ [.testing (bareName es[k]) v] := by
  -- the entries are taken off from the left, as the matcher tries them
  induction es generalizing k with
  | nil => cases hk
  | cons e es ih =>
    cases k with
    | zero =>
      have he : (Entry.parse e).accepts v given = true := by
        rw [Entry.accepts_parse_eq]
        exact decide_eq_true h
      rw [List.map_cons, trials_cons_of_accepts he, parse_eq_specOf]
      rfl
    | succ k =>
      have he : (Entry.parse e).accepts v given = false := by
        rw [Entry.accepts_parse_eq]
        exact decide_eq_false (hbefore 0 (Nat.succ_pos k))
      have hrest := ih (Nat.lt_of_succ_lt_succ hk) h fun i hi =>
        hbefore (i + 1) (Nat.succ_lt_succ hi)
      rw [List.map_cons, trials_cons_of_not_accepts he, hrest, parse_eq_specOf,
        List.take_succ_cons, List.flatMap_cons]
      rfl

end

/-! ### Records -/

/-- What a logger gets of an event. -/
structure LogRecord where
  /-- The level of the event. -/
  level : Level
  /-- The name of the logger. -/
  logger : String
  /-- The text. -/
  message : String
  deriving DecidableEq, Repr, Inhabited

/-- The record of an event. -/
def Event.record (e : Event) : LogRecord := ⟨e.level, e.logger, e.message⟩

/-- The records of a step, if it is traced. -/
def Outcome.records (o : Outcome) : List LogRecord := o.told.map Event.record

/-- A record of the checker. -/
def LogRecord.ofChecker (message : String) : LogRecord :=
  ⟨.debug, "type_check.checker", message⟩

/-- The record with which the demand on a descriptor begins. -/
def openingRecord (d v : Value) : LogRecord :=
  .ofChecker ("check(" ++ d.printed ++ ", " ++ v.printed ++ ")")

/-- The record of all parsed entries, before the first is tried. -/
def tryingRecord (es : List String) (v : Value) : LogRecord :=
  .ofChecker ("trying to match " ++ v.printed ++ " to any of " ++ specsText es)

/-- The record of an entry that is tried, by its bare name. -/
def testedRecord (v : Value) (e : String) : LogRecord :=
  .ofChecker ("testing " ++ Text.quoted (bareName e) ++ " type for value " ++ v.printed)

/-- The record of an entry that has failed, by its raw text. -/
def failedRecord (v : Value) (e : String) : LogRecord :=
  .ofChecker ("failed to match type " ++ e ++ " for value " ++ v.printed)

/-- The two records of an entry that does not accept the value. -/
def refusedRecords (v : Value) (e : String) : List LogRecord := [testedRecord v e, failedRecord v e]

theorem record_trying (es : List String) (v : Value) :
    (Event.trying v (es.map specOf)).record = tryingRecord es v :=
  congrArg (fun text => LogRecord.ofChecker
    ("trying to match " ++ v.printed ++ " to any of " ++ text)) (printedEntries_specOf es)

theorem record_failed (e : String) (v : Value) :
    (Event.failed (specOf e) v).record = failedRecord v e :=
  congrArg (fun text => LogRecord.ofChecker
    ("failed to match type " ++ text ++ " for value " ++ v.printed)) (render_specOf e)

theorem map_record_refused (v : Value) (es : List String) :
    (es.flatMap (refusedEvents v)).map Event.record = es.flatMap (refusedRecords v) := by
  have hrefused : (fun e => (refusedEvents v e).map Event.record) = refusedRecords v := by
    funext e
    rw [refusedEvents, List.map_cons, List.map_singleton, record_failed]
    rfl
  rw [List.map_flatMap, hrefused]

/-- The text of a record begins as those about entries that have failed. -/
def LogRecord.TellsFailure (r : LogRecord) : Prop :=
  "failed to match".toList <+: r.message.toList

instance : DecidablePred LogRecord.TellsFailure := fun r =>
  inferInstanceAs (Decidable (_ <+: r.message.toList))

/-- The number of failures that records tell of. -/
def failures (records : List LogRecord) : Nat :=
  records.countP fun r => decide r.TellsFailure

theorem failures_append (xs ys : List LogRecord) :
    failures (xs ++ ys) = failures xs + failures ys := List.countP_append

theorem failures_cons_of_tellsFailure {r : LogRecord} (h : r.TellsFailure) (rs : List LogRecord) :
    failures (r :: rs) = failures rs + 1 := List.countP_cons_of_pos (decide_eq_true h)

theorem failures_cons_of_not {r : LogRecord} (h : ¬ r.TellsFailure) (rs : List LogRecord) :
    failures (r :: rs) = failures rs := by
  refine List.countP_cons_of_neg ?_
  rw [decide_eq_false h]
  exact Bool.false_ne_true

/-- A text that begins with another letter tells of no failure. -/
theorem not_tellsFailure_of_lead {lead rest : String} {c : Char} {cs : List Char}
    (hlead : lead.toList = c :: cs) (hc : 'f' ≠ c) :
    ¬ (LogRecord.ofChecker (lead ++ rest)).TellsFailure := by
  intro h
  have hprefix : 'f' :: "ailed to match".toList <+: c :: (cs ++ rest.toList) := by
    rw [← List.cons_append, ← hlead, ← String.toList_append]
    exact h
  exact hc (List.cons_prefix_cons.mp hprefix).1

theorem not_tellsFailure_opening (d v : Value) : ¬ (openingRecord d v).TellsFailure := by
  rw [openingRecord, String.append_assoc, String.append_assoc, String.append_assoc]
  exact not_tellsFailure_of_lead rfl (by decide)

theorem not_tellsFailure_trying (es : List String) (v : Value) :
    ¬ (tryingRecord es v).TellsFailure := by
  rw [tryingRecord, String.append_assoc, String.append_assoc]
  exact not_tellsFailure_of_lead rfl (by decide)

theorem not_tellsFailure_tested (v : Value) (e : String) : ¬ (testedRecord v e).TellsFailure := by
  rw [testedRecord, String.append_assoc, String.append_assoc]
  exact not_tellsFailure_of_lead rfl (by decide)

theorem tellsFailure_failed (v : Value) (e : String) : (failedRecord v e).TellsFailure := by
  have htext : "failed to match type " = "failed to match" ++ " type " := by decide
  rw [failedRecord, htext, String.append_assoc, String.append_assoc, String.append_assoc]
  exact ⟨_, (String.toList_append).symm⟩

/-- Each refused entry is one failure. -/
theorem failures_refused (v : Value) (es : List String) :
    failures (es.flatMap (refusedRecords v)) = es.length := by
  induction es with
  | nil => rfl
  | cons e es ih =>
    rw [List.flatMap_cons, failures_append, ih, refusedRecords,
      failures_cons_of_not (not_tellsFailure_tested v e),
      failures_cons_of_tellsFailure (tellsFailure_failed v e), List.length_cons, Nat.add_comm]
    rfl

theorem failures_of_first {k : Nat} {es : List String} (hk : k < es.length) (v : Value)
    (e : String) :
    failures (tryingRecord es v :: ((es.take k).flatMap (refusedRecords v) ++ [testedRecord v e]))
      = k := by
  rw [failures_cons_of_not (not_tellsFailure_trying es v), failures_append, failures_refused,
    failures_cons_of_not (not_tellsFailure_tested v e),
    List.length_take_of_le (Nat.le_of_lt hk)]
  rfl

theorem failures_of_none (es : List String) (v : Value) :
    failures (tryingRecord es v :: es.flatMap (refusedRecords v)) = es.length := by
  rw [failures_cons_of_not (not_tellsFailure_trying es v), failures_refused]

/-! ### What a question tells -/

namespace Session

variable {s : Session} {t : Target} {q : Question} {c : Classifier} {es : List String} {f : Fault}

theorem events_ask_of_unreadable (hc : s.classifierOf t = .ok c) (ht : q.texts = .error f) :
    (s.ask t q).events = q.opening.events := by
  rw [ask_of_ok hc, Question.run_eq, ht, Run.ofExcept_error_bind, Question.opening_bind]
  exact List.append_nil _

/-- Where the classifier fails, the question has told how it begins, and what the classifier did. -/
theorem events_ask_of_fault (hc : s.classifierOf t = .ok c) (ht : q.texts = .ok es)
    (ha : (c.ask s.registry.ambient s.history q.value).outcome = .error f) :
    (s.ask t q).events
      = q.opening.events ++ (c.ask s.registry.ambient s.history q.value).events := by
  have hasked : ((s.checkerOf c).classify q.value).outcome = .error f := ha
  rw [ask_of_ok hc, Question.run_eq, ht, Run.ofExcept_ok_bind, Run.bind_of_error hasked,
    Question.opening_bind]
  rfl

/-- Where it answers, the matcher follows. -/
theorem events_ask_of_answer (hc : s.classifierOf t = .ok c) (ht : q.texts = .ok es)
    {given : Value} (ha : (c.ask s.registry.ambient s.history q.value).outcome = .ok given) :
    (s.ask t q).events
      = q.opening.events ++
        ((c.ask s.registry.ambient s.history q.value).events ++ q.trace es given) := by
  have hasked : ((s.checkerOf c).classify q.value).outcome = .ok given := ha
  rw [ask_of_ok hc, Question.run_eq, ht, Run.ofExcept_ok_bind, Run.bind_of_ok hasked,
    Question.opening_bind]
  rfl

/-- A classifier that fails without a word leaves nothing but the beginning, whether there is
something to read or not. -/
theorem events_ask_of_quiet_fault (hc : s.classifierOf t = .ok c)
    (ha : (c.ask s.registry.ambient s.history q.value).outcome = .error f)
    (hquiet : (c.ask s.registry.ambient s.history q.value).events = []) :
    (s.ask t q).events = q.opening.events := by
  cases ht : q.texts with
  | error g => exact events_ask_of_unreadable hc ht
  | ok es => rw [events_ask_of_fault hc ht ha, hquiet, List.append_nil]

/-- One that answers so leaves the matcher alone. -/
theorem events_ask_of_quiet_answer (hc : s.classifierOf t = .ok c) (ht : q.texts = .ok es)
    {given : Value} (ha : (c.ask s.registry.ambient s.history q.value).outcome = .ok given)
    (hquiet : (c.ask s.registry.ambient s.history q.value).events = []) :
    (s.ask t q).events = q.opening.events ++ q.trace es given := by
  rw [events_ask_of_answer hc ht ha, hquiet, List.nil_append]

/-- A demand tells that it begins, and then what the predicate tells. -/
theorem events_check (hc : s.classifierOf t = .ok c) (d v : Value) :
    (s.ask t (.check d v)).events = .check d v :: (s.ask t (.accepts d v)).events := by
  cases ht : d.entryTexts with
  | error f =>
    rw [events_ask_of_unreadable (q := .check d v) hc ht,
      events_ask_of_unreadable (q := .accepts d v) hc ht]
    rfl
  | ok es =>
    cases ha : (c.ask s.registry.ambient s.history v).outcome with
    | error f =>
      rw [events_ask_of_fault (q := .check d v) hc ht ha,
        events_ask_of_fault (q := .accepts d v) hc ht ha]
      rfl
    | ok given =>
      rw [events_ask_of_answer (q := .check d v) hc ht ha,
        events_ask_of_answer (q := .accepts d v) hc ht ha]
      rfl

/-- **The records of a check are the run of the matcher.**  Entries are tested and fail up to the
first that accepts, which is tested only, and none after it is told of; so the failures are as many
as the entries before that one, and as many as there are where the value is refused.  Nothing is
told, but that a demand begins, where there is nothing to try. -/
theorem trace_is_matcher_run [SettingsLibrary]
    (s : Session) (t : Target) (step : Step) {c : Classifier}
    (hc : s.classifierOf t = .ok c) (v : Value)
    (hquiet : (c.ask s.registry.ambient s.history v).events = []) :
    let traced (q : Question) : Outcome :=
      (s.step { step with action := .ask t q, traced := true }).1
    let told (q : Question) : List Event := (traced q).told
    let records (q : Question) : List LogRecord := (traced q).records
    let answer := (c.ask s.registry.ambient s.history v).outcome
    -- a demand against the predicate
    (∀ d, told (.check d v) = .check d v :: told (.accepts d v) ∧
      records (.check d v) = openingRecord d v :: records (.accepts d v) ∧
      failures (records (.check d v)) = failures (records (.accepts d v))) ∧
    -- what cannot be read, and a classifier that fails
    (∀ d f, d.entryTexts = .error f → told (.accepts d v) = [] ∧ records (.accepts d v) = []) ∧
    (∀ entry f, entry.entryText = .error f →
      records (.acceptsEntry entry v) = [] ∧ records (.assertEntry entry v) = []) ∧
    (∀ f, answer = .error f → ∀ x, records (.accepts x v) = [] ∧
      records (.acceptsEntry x v) = [] ∧ records (.assertEntry x v) = []) ∧
    -- a classifier that answers
    ∀ given, answer = .ok given →
      (∀ entry e, entry.entryText = .ok e →
        told (.acceptsEntry entry v) = [.testing (bareName e) v] ∧
          told (.assertEntry entry v) = [.testing (bareName e) v] ∧
          records (.acceptsEntry entry v) = [testedRecord v e] ∧
          records (.assertEntry entry v) = [testedRecord v e]) ∧
      ∀ d es, d.entryTexts = .ok es →
        (∀ k (hk : k < es.length), Admits [es[k]] v given →
          (∀ i (hi : i < k), ¬ Admits [es[i]] v given) →
          told (.accepts d v) = .trying v (es.map specOf) ::
              ((es.take k).flatMap (refusedEvents v) ++ [.testing (bareName es[k]) v]) ∧
            records (.accepts d v) = tryingRecord es v ::
              ((es.take k).flatMap (refusedRecords v) ++ [testedRecord v es[k]]) ∧
            failures (records (.accepts d v)) = k ∧
            (s.ask t (.accepts d v)).outcome = .ok (.truth true) ∧
            (s.ask t (.check d v)).outcome = .ok .done) ∧
        ((∀ e ∈ es, ¬ Admits [e] v given) →
          told (.accepts d v) = .trying v (es.map specOf) :: es.flatMap (refusedEvents v) ∧
            records (.accepts d v) = tryingRecord es v :: es.flatMap (refusedRecords v) ∧
            failures (records (.accepts d v)) = es.length ∧
            (s.ask t (.accepts d v)).outcome = .ok (.truth false) ∧
            (s.ask t (.check d v)).outcome
              = .error (.mismatch ("any of: " ++ ", ".intercalate es) given)) := by
  intro traced told records answer
  have htold : ∀ q, told q = (s.ask t q).events := fun _ => rfl
  have hrecords : ∀ q, records q = (told q).map Event.record := fun _ => rfl
  refine ⟨fun d => ?_, fun d f hd => ?_, fun entry f he => ?_, fun f ha x => ?_,
    fun given ha => ⟨fun entry e he => ?_, fun d es hd => ?_⟩⟩
  · have hcheck : told (.check d v) = .check d v :: told (.accepts d v) := events_check hc d v
    have hrecorded : records (.check d v) = openingRecord d v :: records (.accepts d v) := by
      rw [hrecords, hcheck, List.map_cons]
      rfl
    rw [hrecorded, failures_cons_of_not (not_tellsFailure_opening d v)]
    exact ⟨hcheck, rfl, rfl⟩
  · have hnone : told (.accepts d v) = [] := events_ask_of_unreadable (q := .accepts d v) hc hd
    rw [hrecords, hnone]
    exact ⟨rfl, rfl⟩
  · have ht : entry.entryText.map ([·]) = .error f := congrArg (Except.map ([·])) he
    rw [hrecords, hrecords, htold, htold,
      events_ask_of_unreadable (q := .acceptsEntry entry v) hc ht,
      events_ask_of_unreadable (q := .assertEntry entry v) hc ht]
    exact ⟨rfl, rfl⟩
  · rw [hrecords, hrecords, hrecords, htold, htold, htold,
      events_ask_of_quiet_fault (q := .accepts x v) hc ha hquiet,
      events_ask_of_quiet_fault (q := .acceptsEntry x v) hc ha hquiet,
      events_ask_of_quiet_fault (q := .assertEntry x v) hc ha hquiet]
    exact ⟨rfl, rfl, rfl⟩
  · have ht : entry.entryText.map ([·]) = .ok [e] := congrArg (Except.map ([·])) he
    have htested : Event.testing (Entry.parse e).name v = .testing (bareName e) v := by
      rw [parse_eq_specOf]
      rfl
    rw [hrecords, hrecords, htold, htold,
      events_ask_of_quiet_answer (q := .acceptsEntry entry v) hc ht ha hquiet,
      events_ask_of_quiet_answer (q := .assertEntry entry v) hc ht ha hquiet]
    change [Event.testing (Entry.parse e).name v] = _ ∧ [Event.testing (Entry.parse e).name v] = _ ∧
      [(Event.testing (Entry.parse e).name v).record] = _ ∧
      [(Event.testing (Entry.parse e).name v).record] = _
    rw [htested]
    exact ⟨rfl, rfl, rfl, rfl⟩
  · have hmatched : told (.accepts d v)
        = .trying v (es.map specOf) :: trials v given (es.map Entry.parse) := by
      rw [htold, events_ask_of_quiet_answer (q := .accepts d v) hc hd ha hquiet, ← map_parse]
      rfl
    have hverdict : (s.ask t (.accepts d v)).outcome = (judge es v given).told :=
      outcome_ask_of_answer (q := .accepts d v) hc hd ha
    have hraised : (s.ask t (.check d v)).outcome
        = (judge es v given).raised ("any of: " ++ ", ".intercalate es) :=
      outcome_ask_of_answer (q := .check d v) hc hd ha
    refine ⟨fun k hk h hbefore => ?_, fun h => ?_⟩
    · have hadmits : Admits es v given :=
        admits_iff_exists.mpr ⟨es[k], List.getElem_mem hk, h⟩
      rw [trials_of_first hk h hbefore] at hmatched
      have hrecorded : records (.accepts d v) = tryingRecord es v ::
          ((es.take k).flatMap (refusedRecords v) ++ [testedRecord v es[k]]) := by
        rw [hrecords, hmatched, List.map_cons, record_trying, List.map_append, map_record_refused]
        rfl
      rw [hrecorded, hverdict, hraised, judge_of_admits hadmits]
      exact ⟨hmatched, rfl, failures_of_first hk v es[k], rfl, rfl⟩
    · have hadmits : ¬ Admits es v given := by
        rw [admits_iff_exists]
        rintro ⟨e, he, ha⟩
        exact h e he ha
      rw [trials_of_none h] at hmatched
      have hrecorded : records (.accepts d v)
          = tryingRecord es v :: es.flatMap (refusedRecords v) := by
        rw [hrecords, hmatched, List.map_cons, record_trying, map_record_refused]
      rw [hrecorded, hverdict, hraised, judge_of_not_admits hadmits]
      exact ⟨hmatched, rfl, failures_of_none es v, rfl, rfl⟩

/-- Of three entries the first fails and the second accepts by its bare name, and of the third,
which would accept as well, nothing is told. -/
theorem second_of_three_accepts :
    let s : Session := {}
    let v : Value := .int 5
    let d : Value := .sequence .list [.text "str", .text "int?", .text "int"]
    (s.step { action := .ask .ambient (.check d v), traced := true }).1.records
        = [openingRecord d v, tryingRecord ["str", "int?", "int"] v, testedRecord v "str",
          failedRecord v "str", testedRecord v "int?"] ∧
      (tryingRecord ["str", "int?", "int"] v).message
        = "trying to match 5 to any of (TypeSpec(name='str', optional=False), "
          ++ "TypeSpec(name='int', optional=True), TypeSpec(name='int', optional=False))" ∧
      (testedRecord v "int?").message = "testing 'int' type for value 5" ∧
      (s.ask .ambient (.check d v)).outcome = .ok .done := by
  intro s v d
  obtain ⟨hcheck, -, -, -, hanswer⟩ :=
    trace_is_matcher_run s .ambient { action := .setUp .idle } (c := .native) rfl v rfl
  obtain ⟨hfirst, -⟩ := (hanswer (.text "int") rfl).2 d ["str", "int?", "int"] rfl
  obtain ⟨-, hrecords, -, -, hdone⟩ := hfirst 1 (by decide) (by decide) fun i hi => by
    obtain rfl : i = 0 := Nat.lt_one_iff.mp hi
    change ¬ Admits ["str"] (.int 5) (.text "int")
    decide
  refine ⟨(hcheck d).2.1.trans ?_, by decide +kernel, by decide, hdone⟩
  rw [hrecords]
  rfl

end Session

end NominalCheck
