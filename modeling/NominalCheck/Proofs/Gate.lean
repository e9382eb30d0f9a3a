import NominalCheck.Proofs.SettingsContract
import NominalCheck.Session

/-!
# The environment gate

The gate reads two variables and decides whether the trace goes on.  It never fails: what it can
not read it tells in a warning, and then it leaves the loggers alone, as it does where the trace is
not asked for.  So a trace that is on stays on until something else is configured.  Of the warning a
record is made if the loggers let it pass, as they do unless their level is raised above warnings.

## Main definitions

* `Environment.Gives env field b`, `Environment.Garbles env field` — the variable of the field
  spells `b`, or is there and spells nothing.

## Main results

* `Environment.readBool_considered_iff`, `Environment.garbles_iff` — what the settings make of a
  variable.
* `Session.gate_follows_environment` — **the gate is total and exact.**
* `Session.kelvin_variable_counts` — where names of variables and levels of loggers end.
-/

namespace NominalCheck

/-! ### Variables -/

namespace Environment

variable {env : Environment} {field : Field}

/-- The variable of the field spells a truth value. -/
def Gives (env : Environment) (field : Field) (b : Bool) : Prop :=
  ∃ text, env.find? field.variableName = some text ∧ Spells text b

/-- The variable of the field is there, but spells no truth value. -/
def Garbles (env : Environment) (field : Field) : Prop :=
  ∃ text, env.find? field.variableName = some text ∧ ∀ b, ¬ Spells text b

theorem Gives.not_garbles {b : Bool} (h : env.Gives field b) : ¬ env.Garbles field := by
  rintro ⟨text, hfind, hnone⟩
  obtain ⟨text', hfind', hspells⟩ := h
  cases hfind.symm.trans hfind'
  exact hnone b hspells

theorem not_garbles_iff :
    ¬ env.Garbles field ↔ env.find? field.variableName = none ∨ ∃ b, env.Gives field b := by
  simp only [Garbles, Gives]
  cases env.find? field.variableName with
  | none => simp
  | some text =>
    simp only [Option.some.injEq, exists_eq_left', reduceCtorEq, false_or,
      Classical.not_forall_not]

section

variable [SettingsLibrary]

/-- Without keywords the text of the variable is considered, or the switch is off. -/
theorem considered_nil (hlib : SettingsLibrary.Documented) : field.considered env []
    = ((env.find? field.variableName).map Value.text).getD (.bool false) := by
  rw [Field.considered_eq hlib (Keywords.wellNamed_nil _), List.lookup_nil, Option.none_or]

/-- The field is on exactly if its variable spells it so. -/
theorem readBool_considered_iff (hlib : SettingsLibrary.Documented) :
    SettingsLibrary.readBool (field.considered env []) = .ok true ↔ env.Gives field true := by
  rw [considered_nil hlib, Gives]
  cases env.find? field.variableName with
  | none =>
    rw [Option.map_none, Option.getD_none, hlib.readBool_bool]
    simp
  | some text =>
    rw [Option.map_some, Option.getD_some, hlib.readBool_text]
    simp

/-- The value of a field is refused exactly if its variable spells nothing. -/
theorem garbles_iff (hlib : SettingsLibrary.Documented) : env.Garbles field ↔
    ¬ ∃ b, SettingsLibrary.readBool (field.considered env []) = .ok b := by
  rw [considered_nil hlib, Garbles]
  cases env.find? field.variableName with
  | none =>
    rw [Option.map_none, Option.getD_none, hlib.readBool_bool]
    simp
  | some text =>
    rw [Option.map_some, Option.getD_some]
    simp only [hlib.readBool_text, Option.some.injEq, exists_eq_left', not_exists]

end

end Environment

namespace Settings

variable [SettingsLibrary] {env : Environment}

theorem resolve_nil_of_garbles (hlib : SettingsLibrary.Documented) {field : Field}
    (h : env.Garbles field) : ∃ report, resolve env [] = .error report := by
  cases hr : resolve env [] with
  | error report => exact ⟨report, rfl⟩
  | ok settings =>
    exact absurd ⟨_, (of_resolve_eq_ok hlib hr).2 field⟩ ((Environment.garbles_iff hlib).mp h)

theorem resolve_nil_of_not_garbles (hlib : SettingsLibrary.Documented)
    (h : ∀ field, ¬ env.Garbles field) :
    ∃ settings, resolve env [] = .ok settings ∧
      (settings.debug = true ↔ env.Gives .debug true) ∧
      (settings.logJson = true ↔ env.Gives .logJson true) := by
  have hread : ∀ field : Field, ∃ b, SettingsLibrary.readBool (field.considered env []) = .ok b :=
    fun field => not_not.mp (mt (Environment.garbles_iff hlib).mpr (h field))
  have hextras : declared.extras (gathered env []) = [] :=
    extras_gathered hlib (Keywords.wellNamed_nil _)
  obtain ⟨settings, hr⟩ := (exists_resolve_eq_ok_iff hlib).mpr ⟨hextras, hread⟩
  have hvalue : ∀ field : Field, settings.value field = true ↔ env.Gives field true := by
    intro field
    rw [← Environment.readBool_considered_iff hlib, (of_resolve_eq_ok hlib hr).2 field,
      Except.ok.injEq]
  exact ⟨settings, hr, hvalue .debug, hvalue .logJson⟩

/-- Keywords for both fields leave nothing to the environment. -/
theorem resolve_of_both (hlib : SettingsLibrary.Documented) (env : Environment)
    (debug logJson : Bool) :
    resolve env [(Field.debug.name, .bool debug), (Field.logJson.name, .bool logJson)]
      = .ok ⟨debug, logJson⟩ := by
  generalize hgiven : [(Field.debug.name, Value.bool debug), (Field.logJson.name, .bool logJson)]
    = keywords
  have hwell : Keywords.WellNamed declared keywords := by
    subst hgiven
    have hnodup : [Field.debug.name, Field.logJson.name].Nodup := by decide
    refine Keywords.wellNamed_of_fields hlib hnodup (List.forall_mem_cons.mpr ⟨⟨.debug, rfl⟩, ?_⟩)
    exact List.forall_mem_singleton.mpr ⟨.logJson, rfl⟩
  have hread : ∀ f : Field, SettingsLibrary.readBool (f.considered env keywords)
      = .ok ((Settings.mk debug logJson).value f) := by
    intro f
    have hlookup : keywords.lookup f.name = some (.bool ((Settings.mk debug logJson).value f)) := by
      subst hgiven
      cases f <;> rfl
    rw [Field.considered_eq hlib hwell, hlookup, Option.some_or, Option.getD_some,
      hlib.readBool_bool]
  have hextras : declared.extras (gathered env keywords) = [] := by
    rw [extras_gathered hlib hwell]
    subst hgiven
    rfl
  obtain ⟨settings, hr⟩ := (exists_resolve_eq_ok_iff hlib).mpr ⟨hextras, fun f => ⟨_, hread f⟩⟩
  have hvalue : ∀ f : Field, settings.value f = (Settings.mk debug logJson).value f := fun f =>
    Except.ok.inj (((of_resolve_eq_ok hlib hr).2 f).symm.trans (hread f))
  rw [hr]
  exact congrArg Except.ok (Settings.ext (hvalue .debug) (hvalue .logJson))

end Settings

theorem Logging.formatFor_eq_json_iff {json terminal : Bool} :
    formatFor json terminal = .json ↔ json = true := by
  cases json <;> simp [formatFor]

/-- Of the warning about settings a record is made where the loggers let warnings pass. -/
theorem Logging.filter_lets_ignoredSettings (l : Logging) (report : Report) :
    [Event.ignoredSettings report].filter l.lets
      = if l.effectiveLevel ≤ Level.warning.severity then [.ignoredSettings report] else [] := by
  have hlets : l.lets (.ignoredSettings report)
      = decide (l.effectiveLevel ≤ Level.warning.severity) := rfl
  rw [List.filter_cons, hlets, List.filter_nil]
  simp only [decide_eq_true_eq]

/-! ### The gate -/

theorem Session.obey_eq (s : Session) (settings : Settings) :
    s.obey settings = (settings.debug,
      if settings.debug then s.logging.configure true settings.logJson s.terminal
      else s.logging) := by
  rw [obey]
  cases settings.debug <;> rfl

namespace Session

variable [SettingsLibrary] {s : Session}

/-- A variable that can not be read is told of, and changes nothing. -/
theorem gate_of_garbles (hlib : SettingsLibrary.Documented) {field : Field}
    (h : s.environment.Garbles field) :
    ∃ report, Settings.resolve s.environment [] = .error report ∧
      s.gate = (false, s.logging, [.ignoredSettings report]) := by
  obtain ⟨report, hr⟩ := Settings.resolve_nil_of_garbles hlib h
  exact ⟨report, hr, by rw [gate, hr]⟩

/-- Variables that can be read are obeyed, and nothing is told of them. -/
theorem gate_of_not_garbles (hlib : SettingsLibrary.Documented)
    (h : ∀ field, ¬ s.environment.Garbles field) :
    ∃ settings, Settings.resolve s.environment [] = .ok settings ∧
      (settings.debug = true ↔ s.environment.Gives .debug true) ∧
      (settings.logJson = true ↔ s.environment.Gives .logJson true) ∧
      s.gate = ((s.obey settings).1, (s.obey settings).2, []) := by
  obtain ⟨settings, hr, hdebug, hjson⟩ := Settings.resolve_nil_of_not_garbles hlib h
  exact ⟨settings, hr, hdebug, hjson, by rw [gate, hr]⟩

theorem enabled_gate_iff (hlib : SettingsLibrary.Documented) :
    s.gate.1 = true ↔ s.environment.Gives .debug true ∧
      (s.environment.find? Field.logJson.variableName = none ∨
        ∃ b, s.environment.Gives .logJson b) := by
  by_cases h : ∃ field, s.environment.Garbles field
  · obtain ⟨field, hfield⟩ := h
    obtain ⟨report, -, hgate⟩ := gate_of_garbles hlib hfield
    rw [hgate]
    refine iff_of_false (by simp) ?_
    rintro ⟨hdebug, hjson⟩
    cases field with
    | debug => exact hdebug.not_garbles hfield
    | logJson => exact Environment.not_garbles_iff.mpr hjson hfield
  · have hread := not_exists.mp h
    obtain ⟨settings, -, hdebug, -, hgate⟩ := gate_of_not_garbles hlib hread
    rw [hgate, obey_eq, hdebug]
    exact (and_iff_left (Environment.not_garbles_iff.mp (hread .logJson))).symm

/-- A gate that switches the trace on installs one handler for it, in the format asked for. -/
theorem gate_of_enabled (hlib : SettingsLibrary.Documented) (h : s.gate.1 = true) :
    s.gate.2.2 = [] ∧ ∃ json, (json = true ↔ s.environment.Gives .logJson true) ∧
      s.gate.2.1 = s.logging.configure true json s.terminal := by
  have hread : ∀ field, ¬ s.environment.Garbles field := by
    intro field hfield
    obtain ⟨report, -, hgate⟩ := gate_of_garbles hlib hfield
    rw [hgate] at h
    cases h
  obtain ⟨settings, -, -, hjson, hgate⟩ := gate_of_not_garbles hlib hread
  rw [hgate, obey_eq] at h ⊢
  exact ⟨rfl, settings.logJson, hjson, if_pos h⟩

theorem gate_of_not_enabled (h : s.gate.1 = false) : s.gate.2.1 = s.logging := by
  rw [gate] at h ⊢
  cases hr : Settings.resolve s.environment [] with
  | error report => rfl
  | ok settings =>
    rw [hr] at h
    simp only [obey_eq] at h ⊢
    rw [h]
    rfl

/-- Settings that are handed over are obeyed, and nothing is told of them. -/
theorem setUp_gate_of_ok {keywords : List (String × Value)} {settings : Settings}
    (h : Settings.resolve s.environment keywords = .ok settings) :
    s.setUp (.gate (some keywords))
      = (.ok (.gated (s.obey settings).1 (s.obey settings).2), (s.obey settings).2, []) := by
  simp only [setUp, h]

/-- **The gate is total and exact.**  For every environment and every state of the loggers the gate
answers, and so does the loading of the library, which runs it.  The trace goes on exactly if its
own variable spells so and the other one can be read; else the loggers stay as they are.  One
warning is told exactly if a variable can not be read; a record is made of it exactly if the level
of the loggers, their own or else that of the root, is no higher than that of warnings.  Settings
that are handed over are obeyed, whatever the variables are. -/
theorem gate_follows_environment (hlib : SettingsLibrary.Documented) (s : Session) (step : Step) :
    let entered := s.enter step
    let env := entered.environment
    let enabled := entered.gate.1
    let events := entered.gate.2.2
    let gate := s.step { step with action := .setUp (.gate none) }
    let load := s.step { step with action := .setUp .load }
    gate.1.answer = .ok (.gated enabled gate.2.logging) ∧
    load.1.answer = .ok (.loaded load.2.logging) ∧ load.2 = gate.2 ∧
    (∀ outcome ∈ [gate.1, load.1],
      outcome.trace = (if step.traced then some events else none) ∧
      outcome.lines = if step.traced then [] else events.flatMap s.logging.lines) ∧
    -- the trace goes on
    (enabled = true ↔ env.Gives .debug true ∧
      (env.find? Field.logJson.variableName = none ∨ ∃ b, env.Gives .logJson b)) ∧
    (enabled = true → events = [] ∧ gate.2.logging.root = s.logging.root ∧
      ∃ format, gate.2.logging.package = ⟨Level.debug.severity, [format], false⟩ ∧
        (format = .json ↔ env.Gives .logJson true)) ∧
    -- or it does not
    (enabled = false → gate.2.logging = s.logging) ∧
    ((∃ field, env.Garbles field) → enabled = false ∧ ∃ report,
      Settings.resolve env [] = .error report ∧ events = [.ignoredSettings report] ∧
      (Event.ignoredSettings report).level = .warning ∧
      (Event.ignoredSettings report).logger = "type_check.config.logging" ∧
      ∀ outcome ∈ [gate.1, load.1],
        outcome.emitted = if step.traced = true ∨
            s.logging.effectiveLevel ≤ Level.warning.severity
          then [.ignoredSettings report] else []) ∧
    ((∀ field, ¬ env.Garbles field) →
      events = [] ∧ ∀ outcome ∈ [gate.1, load.1], outcome.emitted = []) ∧
    -- settings are handed over; any can be, in any environment
    (∀ debug logJson, Settings.resolve env
        [(Field.debug.name, .bool debug), (Field.logJson.name, .bool logJson)]
      = .ok ⟨debug, logJson⟩) ∧
    ∀ keywords settings, Settings.resolve env keywords = .ok settings →
      let given := s.step { step with action := .setUp (.gate (some keywords)) }
      given.1.answer = .ok (.gated settings.debug given.2.logging) ∧
      given.1.trace = (if step.traced then some [] else none) ∧ given.1.lines = [] ∧
      given.1.emitted = [] ∧
      given.2.logging = if settings.debug
        then s.logging.configure true settings.logJson entered.terminal else s.logging := by
  intro entered env enabled events gate load
  have hemitted : ∀ outcome ∈ [gate.1, load.1],
      outcome.emitted = if step.traced then events else events.filter s.logging.lets :=
    List.forall_mem_cons.mpr ⟨rfl, List.forall_mem_singleton.mpr rfl⟩
  refine ⟨rfl, rfl, rfl, List.forall_mem_cons.mpr ⟨⟨rfl, rfl⟩, List.forall_mem_singleton.mpr
    ⟨rfl, rfl⟩⟩, enabled_gate_iff hlib, fun h => ?_, gate_of_not_enabled, fun ⟨field, h⟩ => ?_,
    fun h => ?_, Settings.resolve_of_both hlib env, fun keywords settings h => ?_⟩
  · obtain ⟨hquiet, json, hjson, hlogging⟩ := gate_of_enabled hlib h
    have hlogging : gate.2.logging = s.logging.configure true json entered.terminal := hlogging
    rw [hlogging]
    exact ⟨hquiet, rfl, _, rfl, Logging.formatFor_eq_json_iff.trans hjson⟩
  · obtain ⟨report, hr, hgate⟩ := gate_of_garbles hlib h
    have hevents : events = [.ignoredSettings report] := congrArg (·.2.2) hgate
    refine ⟨congrArg Prod.fst hgate, report, hr, hevents, rfl, rfl, fun outcome ho => ?_⟩
    rw [hemitted outcome ho, hevents, Logging.filter_lets_ignoredSettings]
    cases step.traced <;> simp
  · obtain ⟨settings, -, -, -, hgate⟩ := gate_of_not_garbles hlib h
    have hevents : events = [] := congrArg (·.2.2) hgate
    refine ⟨hevents, fun outcome ho => ?_⟩
    rw [hemitted outcome ho, hevents, List.filter_nil, ite_self]
  · intro given
    have hset := setUp_gate_of_ok (s := entered) h
    have hanswer : given.1.answer = (entered.setUp (.gate (some keywords))).1 := rfl
    have htrace : given.1.trace
        = if step.traced then some (entered.setUp (.gate (some keywords))).2.2 else none := rfl
    have hlines : given.1.lines = if step.traced then []
        else (entered.setUp (.gate (some keywords))).2.2.flatMap s.logging.lines := rfl
    have hrecords : given.1.emitted = if step.traced
        then (entered.setUp (.gate (some keywords))).2.2
        else (entered.setUp (.gate (some keywords))).2.2.filter s.logging.lets := rfl
    have hlogging : given.2.logging = (entered.setUp (.gate (some keywords))).2.1 := rfl
    rw [hanswer, htrace, hlines, hrecords, hlogging, hset, obey_eq]
    exact ⟨rfl, rfl, ite_self [], ite_self [], rfl⟩

end Session

/-- A trace that was switched on is not switched off by a variable that can not be read: the warning
about it is the one line that is written. -/
theorem Session.gate_with_garbled_format :
    let s := (({} : Session).run [{ action := .setUp (.configure true true) }]).2
    let step : Step := {
      action := .setUp .load
      environment := some [("TYPE_CHECK_DEBUG", "On"), ("TYPE_CHECK_LOG_JSON", "zz")] }
    (s.enter step).environment.Gives .debug true ∧ (s.enter step).environment.Garbles .logJson ∧
      (s.step step).1.answer = .ok (.loaded s.logging) ∧
      s.logging.package = ⟨10, [.json], false⟩ ∧ (s.step step).1.emitted.length = 1 ∧
      (s.step step).1.lines.length = 1 := by
  intro s step
  have hdebug : (s.enter step).environment.Gives .debug true := ⟨"On", rfl, "on", by decide⟩
  have hjson : (s.enter step).environment.Garbles .logJson := by
    refine ⟨"zz", rfl, fun b hb => ?_⟩
    rw [← spelledSwitch?_eq_some_iff, show spelledSwitch? "zz" = none by decide] at hb
    cases hb
  have hstep : { step with action := .setUp .load } = step := rfl
  obtain ⟨-, hload, hsame, hlines, -, -, hoff, hwarn, -⟩ :=
    gate_follows_environment SettingsLibrary.standard_documented s step
  obtain ⟨hoff', report, -, hevents, -, -, hrecords⟩ := hwarn ⟨_, hjson⟩
  rw [hsame, hoff hoff', hstep] at hload
  rw [hstep] at hlines hrecords
  refine ⟨hdebug, hjson, hload, rfl, ?_, ?_⟩
  · rw [hrecords _ (List.mem_cons_of_mem _ List.mem_cons_self)]
    rfl
  · rw [(hlines _ (List.mem_cons_of_mem _ List.mem_cons_self)).2, hevents]
    rfl

/-- Where names of variables and levels of loggers end.  A variable whose name has the Kelvin sign
for its letter switches the trace on, though it is not the one meant in any letter case of ASCII.
And where the level of the package's logger is above warnings, no record is made of a variable that
can not be read. -/
theorem Session.kelvin_variable_counts :
    (let env : Environment := [("TYPE_CHEC\u212a_DEBUG", "1")]
     let s : Session := { environment := env }
     let outcome := (s.step { action := .setUp (.gate none) }).1
     (∀ p ∈ env, p.1.toList.map Char.toLower ≠ "TYPE_CHECK_DEBUG".toList.map Char.toLower) ∧
      ∃ logging, outcome.answer = .ok (.gated true logging)) ∧
    (let env : Environment := [("TYPE_CHECK_DEBUG", "zz")]
     let s : Session := { environment := env, logging := { package := { level := 40 } } }
     let outcome := (s.step { action := .setUp (.gate none) }).1
     env.Garbles .debug ∧ outcome.answer = .ok (.gated false s.logging) ∧
      outcome.emitted = []) := by
  have hnothing : ∀ b, ¬ Spells "zz" b := by
    intro b hb
    rw [← spelledSwitch?_eq_some_iff, show spelledSwitch? "zz" = none by decide] at hb
    cases hb
  exact ⟨⟨by decide, _, rfl⟩, ⟨"zz", rfl, hnothing⟩, rfl, rfl⟩

end NominalCheck
