import Mathlib.Logic.ExistsUnique
import NominalCheck.Proofs.SettingsContract

/-!
# How settings are resolved

Each of the two fields is settled on its own.  Its keyword is considered, if there is one; else the
text of its variable; else it is off.  Of several spellings of a variable the last one in the
environment counts, that is the one that was first set last.  All is well if the library reads what
is considered for either field as a truth value, and every keyword is for a field.  Else there is
one report, which tells of the fields first, and of the other keywords then.

This is so with any library for settings that does what is written about it.  Some keywords are
options: they say how the environment is read, and are left out here.

## Main definitions

* `Environment.Tells env name text` — the last spelling of the variable `name` has the text `text`.
* `Field.Considers f env keywords v` — the value `v` is considered for the field `f`.
* `Field.Objects f v ps` — the problems `ps` are what is wrong with the value `v` for the field `f`.
* `Field.inputs f env keywords` — all that is given for the field `f`.
* `Field.problemsIn f outcome` — what an outcome tells of the field `f`.

## Main results

* `Field.considers_iff` — which value is considered.
* `Field.problemsIn_resolve` — an outcome tells of each field what is wrong with its value.
* `Settings.fields_are_settled_apart` — **settings are resolved field by field, and all or none.**
* `Settings.options_and_spellings_count` — where the rules for names end.
-/

namespace NominalCheck

/-! ### Names -/

/-- Under a name that occurs once stands its value. -/
theorem Keywords.lookup_eq_some_iff {keywords : Keywords} {name : String} {v : Value}
    (h : (keywords.map (·.1)).Nodup) : keywords.lookup name = some v ↔ (name, v) ∈ keywords := by
  induction keywords with
  | nil => simp
  | cons p keywords ih =>
    obtain ⟨other, w⟩ := p
    rw [List.map_cons, List.nodup_cons] at h
    rw [List.lookup_cons, List.mem_cons, Prod.mk.injEq]
    by_cases hname : name = other
    · subst hname
      have hnot : (name, v) ∉ keywords := fun hmem =>
        h.1 (List.mem_map.mpr ⟨_, hmem, rfl⟩)
      rw [beq_self_eq_true]
      change some w = some v ↔ _
      rw [Option.some.injEq, or_iff_left hnot, eq_comm]
      exact (and_iff_right rfl).symm
    · rw [beq_eq_false_iff_ne.mpr hname, or_iff_right fun hp => hname hp.1]
      exact ih h.2

theorem Keywords.lookup_eq_none_iff {keywords : Keywords} {name : String} :
    keywords.lookup name = none ↔ name ∉ keywords.map (·.1) := by
  rw [List.lookup_eq_none_iff, List.mem_map]
  constructor
  · rintro h ⟨p, hp, rfl⟩
    exact bne_iff_ne.mp (h p hp) rfl
  · intro h p hp
    rw [bne_iff_ne]
    rintro rfl
    exact h ⟨p, hp, rfl⟩

namespace Environment

/-- Of the variables with the letters of a name the last one has the text. -/
def Tells (env : Environment) (name text : String) : Prop :=
  ∃ before spelling after, env = before ++ (spelling, text) :: after ∧
    Text.sameLetters spelling name = true ∧ ∀ p ∈ after, Text.sameLetters p.1 name = false

variable {env env' : Environment} {name text : String}

theorem find?_eq_some_iff : env.find? name = some text ↔ env.Tells name text := by
  rw [find?, Option.map_eq_some_iff]
  constructor
  · rintro ⟨⟨spelling, t⟩, hfind, rfl⟩
    obtain ⟨hsame, later, earlier, hsplit, hlater⟩ := List.find?_eq_some_iff_append.mp hfind
    refine ⟨earlier.reverse, spelling, later.reverse, ?_, hsame, fun p hp => ?_⟩
    · have hrev := congrArg List.reverse hsplit
      simpa using hrev
    · simpa using hlater p (List.mem_reverse.mp hp)
  · rintro ⟨before, spelling, after, rfl, hsame, hafter⟩
    refine ⟨(spelling, text), List.find?_eq_some_iff_append.mpr ?_, rfl⟩
    refine ⟨hsame, after.reverse, before.reverse, by simp, fun p hp => ?_⟩
    simp [hafter p (List.mem_reverse.mp hp)]

theorem find?_eq_none_iff :
    env.find? name = none ↔ ∀ p ∈ env, Text.sameLetters p.1 name = false := by
  simp [find?, List.find?_eq_none]

/-- Only the spellings of a variable matter for it. -/
theorem find?_eq_getLast?_filter (env : Environment) (name : String) :
    env.find? name = ((env.filter fun p => Text.sameLetters p.1 name).getLast?).map (·.2) := by
  rw [find?, List.getLast?_filter]

end Environment

namespace Field

variable {f g : Field} {env env' : Environment} {keywords keywords' : List (String × Value)}
  {v : Value}

theorem name_inj : g.name = f.name ↔ g = f := by
  cases g <;> cases f <;> decide

/-! ### What is considered -/

/-- The value that is considered for a field. -/
inductive Considers (f : Field) (env : Environment) (keywords : List (String × Value)) :
    Value → Prop
  /-- Its keyword, whatever its variable is. -/
  | byKeyword {v : Value} (h : (f.name, v) ∈ keywords) : Considers f env keywords v
  /-- The text of its variable, if there is no keyword. -/
  | byVariable {text : String} (hk : f.name ∉ keywords.map (·.1))
      (h : env.Tells f.variableName text) : Considers f env keywords (.text text)
  /-- Off, if there is neither. -/
  | byDefault (hk : f.name ∉ keywords.map (·.1))
      (h : ∀ p ∈ env, Text.sameLetters p.1 f.variableName = false) :
      Considers f env keywords (.bool false)

/-! ### What is given for it -/

/-- All that is given for a field: what is under its name, and its variable in all spellings. -/
def inputs (f : Field) (env : Environment) (keywords : List (String × Value)) :
    List (String × Value) × Environment :=
  (keywords.filter fun p => p.1 = f.name,
    env.filter fun p => Text.sameLetters p.1 f.variableName)

/-- Nothing else bears on what is considered. -/
theorem Considers.of_inputs_eq (hc : f.Considers env keywords v)
    (h : f.inputs env keywords = f.inputs env' keywords') : f.Considers env' keywords' v := by
  obtain ⟨hkeywords, henv⟩ := Prod.mk.inj h
  have hmem : ∀ w, (f.name, w) ∈ keywords ↔ (f.name, w) ∈ keywords' := by
    intro w
    have hboth := Iff.of_eq (congrArg ((f.name, w) ∈ ·) hkeywords)
    simpa [List.mem_filter] using hboth
  have hnames : f.name ∈ keywords.map (·.1) ↔ f.name ∈ keywords'.map (·.1) := by
    simp only [List.mem_map, Prod.exists, exists_and_right, exists_eq_right, hmem]
  have hfind : env.find? f.variableName = env'.find? f.variableName := by
    rw [Environment.find?_eq_getLast?_filter, Environment.find?_eq_getLast?_filter, henv]
  cases hc with
  | byKeyword hv => exact .byKeyword ((hmem _).mp hv)
  | byVariable hk ht =>
    refine .byVariable (mt hnames.mpr hk) (Environment.find?_eq_some_iff.mp ?_)
    rw [← hfind]
    exact Environment.find?_eq_some_iff.mpr ht
  | byDefault hk ht =>
    refine .byDefault (mt hnames.mpr hk) (Environment.find?_eq_none_iff.mp ?_)
    rw [← hfind]
    exact Environment.find?_eq_none_iff.mpr ht

theorem considers_congr (h : f.inputs env keywords = f.inputs env' keywords') :
    f.Considers env keywords v ↔ f.Considers env' keywords' v :=
  ⟨fun hc => hc.of_inputs_eq h, fun hc => hc.of_inputs_eq h.symm⟩

/-- What an outcome tells of a field. -/
def problemsIn (f : Field) : Except Report Settings → List Problem
  | .ok _ => []
  | .error report => report.problems.filter fun p => p.location = f.name

/-- What is told of other keywords is told of no field. -/
theorem filter_extras (f : Field) (values : Keywords) :
    ((Settings.declared.extras values).map fun p => (⟨.extraForbidden, p.1, p.2⟩ : Problem)).filter
      (fun p => p.location = f.name) = [] := by
  rw [List.filter_eq_nil_iff]
  intro p hp
  obtain ⟨q, hq, rfl⟩ := List.mem_map.mp hp
  have hother := of_decide_eq_true (List.mem_filter.mp hq).2
  rw [decide_eq_true_eq]
  intro hname
  rw [show q.1 = f.name from hname] at hother
  exact hother (SettingsClass.mem_names f.declared_mem)

section

variable [SettingsLibrary]

/-- The value that is considered for a field is the one that the library is given for it. -/
theorem considers_iff (hlib : SettingsLibrary.Documented)
    (h : Keywords.WellNamed Settings.declared keywords) :
    f.Considers env keywords v ↔ f.considered env keywords = v := by
  rw [considered_eq hlib h]
  cases hk : keywords.lookup f.name with
  | some w =>
    have hw : (f.name, w) ∈ keywords := (Keywords.lookup_eq_some_iff h.nodup).mp hk
    rw [Option.some_or, Option.getD_some]
    constructor
    · intro hc
      cases hc with
      | byKeyword hv =>
        exact Option.some.inj (hk.symm.trans ((Keywords.lookup_eq_some_iff h.nodup).mpr hv))
      | byVariable hnone _ => exact absurd (List.mem_map_of_mem hw) hnone
      | byDefault hnone _ => exact absurd (List.mem_map_of_mem hw) hnone
    · rintro rfl
      exact .byKeyword hw
  | none =>
    have hnone : f.name ∉ keywords.map (·.1) := Keywords.lookup_eq_none_iff.mp hk
    rw [Option.none_or]
    constructor
    · intro hc
      cases hc with
      | byKeyword hv => exact absurd (List.mem_map_of_mem hv) hnone
      | byVariable _ ht =>
        rw [Environment.find?_eq_some_iff.mpr ht]
        rfl
      | byDefault _ ht =>
        rw [Environment.find?_eq_none_iff.mpr ht]
        rfl
    · rintro rfl
      cases ht : env.find? f.variableName with
      | some text => exact .byVariable hnone (Environment.find?_eq_some_iff.mp ht)
      | none => exact .byDefault hnone (Environment.find?_eq_none_iff.mp ht)

theorem considered_congr (hlib : SettingsLibrary.Documented)
    (hw : Keywords.WellNamed Settings.declared keywords)
    (hw' : Keywords.WellNamed Settings.declared keywords')
    (h : f.inputs env keywords = f.inputs env' keywords') :
    f.considered env keywords = f.considered env' keywords' :=
  (considers_iff hlib hw).mp ((considers_congr h).mpr ((considers_iff hlib hw').mpr rfl))

/-! ### What is wrong with it -/

/-- What is wrong with the value that is considered for a field. -/
inductive Objects (f : Field) (v : Value) : List Problem → Prop
  /-- Nothing, if it is read as a truth value. -/
  | nothing {b : Bool} (h : SettingsLibrary.readBool v = .ok b) : Objects f v []
  /-- What the library complains of, if it is not. -/
  | complaint {c : Complaint} (h : SettingsLibrary.readBool v = .error c) :
      Objects f v [⟨c, f.name, v⟩]

theorem objects_problems (f : Field) (env : Environment) (keywords : List (String × Value)) :
    f.Objects (f.considered env keywords) (f.problems env keywords) := by
  have hproblems : f.problems env keywords
      = f.declared.problems SettingsLibrary.readBool (Settings.gathered env keywords) := rfl
  have hconsidered : f.declared.considered (Settings.gathered env keywords)
      = f.considered env keywords := rfl
  rw [hproblems, DeclaredSwitch.problems, hconsidered]
  cases h : SettingsLibrary.readBool (f.considered env keywords) with
  | ok b => exact .nothing h
  | error c => exact .complaint h

theorem Objects.congr {ps ps' : List Problem} (h : f.Objects v ps) (h' : f.Objects v ps') :
    ps = ps' := by
  cases h with
  | nothing h =>
    cases h' with
    | nothing _ => rfl
    | complaint h' => cases h.symm.trans h'
  | complaint h =>
    cases h' with
    | nothing h' => cases h.symm.trans h'
    | complaint h' =>
      cases h.symm.trans h'
      rfl

theorem problems_congr (h : f.considered env keywords = f.considered env' keywords') :
    f.problems env keywords = f.problems env' keywords' := by
  have hobjects := objects_problems f env keywords
  rw [h] at hobjects
  exact hobjects.congr (objects_problems f env' keywords')

/-- Nothing is wrong with what is read as a truth value, and with nothing else. -/
theorem problems_eq_nil_iff : f.problems env keywords = [] ↔
    ∃ b, SettingsLibrary.readBool (f.considered env keywords) = .ok b := by
  have hobjects := objects_problems f env keywords
  constructor
  · intro hnil
    rw [hnil] at hobjects
    cases hobjects with
    | nothing h => exact ⟨_, h⟩
  · rintro ⟨b, h⟩
    exact hobjects.congr (.nothing h)

theorem Objects.location_of_mem {ps : List Problem} (h : f.Objects v ps) {p : Problem}
    (hp : p ∈ ps) : p.location = f.name := by
  cases h with
  | nothing _ => cases hp
  | complaint _ => rw [List.mem_singleton.mp hp]

/-- The problems of a field are told of that field. -/
theorem filter_problems (f g : Field) (env : Environment) (keywords : List (String × Value)) :
    (g.problems env keywords).filter (fun p => p.location = f.name)
      = if g = f then g.problems env keywords else [] := by
  have hlocation : ∀ p ∈ g.problems env keywords, p.location = g.name := fun p hp =>
    (objects_problems g env keywords).location_of_mem hp
  by_cases hg : g = f
  · rw [if_pos hg, List.filter_eq_self]
    intro p hp
    rw [hlocation p hp, hg]
    exact decide_eq_true rfl
  · rw [if_neg hg, List.filter_eq_nil_iff]
    intro p hp
    rw [hlocation p hp, decide_eq_true_eq, name_inj]
    exact hg

/-- An outcome tells of each field what is wrong with its value, and nothing else. -/
theorem problemsIn_resolve (hlib : SettingsLibrary.Documented) (f : Field) :
    f.problemsIn (Settings.resolve env keywords) = f.problems env keywords := by
  cases hr : Settings.resolve env keywords with
  | ok settings =>
    exact (problems_eq_nil_iff.mpr ⟨_, (Settings.of_resolve_eq_ok hlib hr).2 f⟩).symm
  | error report =>
    rw [problemsIn, (Settings.of_resolve_eq_error hlib hr).1, List.filter_append,
      List.filter_append, filter_problems, filter_problems, filter_extras, List.append_nil]
    cases f <;> simp

end

end Field

/-! ### Outcomes -/

namespace Settings

section

variable [SettingsLibrary] {env env' : Environment} {keywords keywords' : List (String × Value)}
  {report : Report}

/-- The keywords for no field are those whose names have no field's letters. -/
theorem extras_of_wellNamed (h : Keywords.WellNamed declared keywords) :
    declared.extras keywords = keywords.filter fun p => !declared.isName p.1 := by
  refine List.filter_congr fun p hp => ?_
  by_cases hname : p.1 ∈ declared.names
  · rw [SettingsClass.isName_of_mem_names hname]
    exact decide_eq_false (not_not.mpr hname)
  · rw [Bool.eq_false_iff.mpr (mt (h.spelled p hp) hname)]
    exact decide_eq_true hname

theorem extras_eq_nil_iff (h : Keywords.WellNamed declared keywords) :
    declared.extras keywords = [] ↔ ∀ p ∈ keywords, declared.isName p.1 = true := by
  simp [extras_of_wellNamed h]

/-- What is refused is refused in one report, which counts what it lists. -/
theorem report_of_resolve_eq_error (hlib : SettingsLibrary.Documented)
    (h : Keywords.WellNamed declared keywords) (hr : resolve env keywords = .error report) :
    report.problems = Field.debug.problems env keywords ++ Field.logJson.problems env keywords ++
        (keywords.filter fun p => !declared.isName p.1).map
          (fun p => ⟨.extraForbidden, p.1, p.2⟩) ∧
      ∃ rest, report.text = toString report.problems.length
        ++ " validation error" ++ (if report.problems.length = 1 then "" else "s")
        ++ " for " ++ declared.title ++ "\n" ++ rest := by
  obtain ⟨hproblems, -, rest, htext⟩ := of_resolve_eq_error hlib hr
  refine ⟨?_, rest, ?_⟩
  · rw [hproblems, extras_gathered hlib h, extras_of_wellNamed h]
  · rw [htext, Report.headline]

/-- The same keywords come to the same where the variables of the fields are the same. -/
theorem resolve_congr (hlib : SettingsLibrary.Documented)
    (h : Keywords.WellNamed declared keywords)
    (hinputs : ∀ f : Field, f.inputs env keywords = f.inputs env' keywords) :
    resolve env keywords = resolve env' keywords := by
  have hfind : ∀ f : Field, env.find? f.variableName = env'.find? f.variableName := by
    intro f
    rw [Environment.find?_eq_getLast?_filter, Environment.find?_eq_getLast?_filter,
      (Prod.mk.inj (hinputs f)).2]
  have hextras : declared.extras (gathered env keywords)
      = declared.extras (gathered env' keywords) :=
    (extras_gathered hlib h).trans (extras_gathered hlib h).symm
  rw [resolve_eq, resolve_eq]
  refine congrArg (Except.map ofNames) (hlib.build_congr isPlain_declared (fun d hd => ?_) hextras)
  obtain ⟨f, rfl⟩ := mem_switches_iff.mp hd
  rw [gathered, gathered, Assignments.ofList_of_nodup h.nodup,
    hlib.lookup_gather isPlain_declared h env f.declared_mem,
    hlib.lookup_gather isPlain_declared h env' f.declared_mem,
    Environment.find?_variable, Environment.find?_variable, hfind f]

/-- **Settings are resolved field by field, and all or none.**  For each field one value is
considered.  If both are read as truth values, and there is no keyword for anything else, these are
the settings; else there is one report, which lists the problems of the fields in order, and then
the other keywords.  A truth value, a whole number, a text or a byte string is read as what it
denotes.  What a field comes to depends on what is given for it alone. -/
theorem fields_are_settled_apart (hlib : SettingsLibrary.Documented)
    (h : Keywords.WellNamed declared keywords) (env : Environment) :
    (∀ f : Field, ∃! v, f.Considers env keywords v) ∧
    -- all
    ((∃ settings, resolve env keywords = .ok settings) ↔
      (∀ (f : Field) v, f.Considers env keywords v → ∃ b, SettingsLibrary.readBool v = .ok b) ∧
        ∀ p ∈ keywords, declared.isName p.1 = true) ∧
    (∀ settings, resolve env keywords = .ok settings →
      ∀ (f : Field) v, f.Considers env keywords v →
        SettingsLibrary.readBool v = .ok (settings.value f)) ∧
    -- or none
    (∀ report, resolve env keywords = .error report →
      (Fault.invalid report).kind = "ValidationError" ∧
      (∃ debug logJson ofDebug ofLogJson,
        Field.debug.Considers env keywords debug ∧ Field.debug.Objects debug ofDebug ∧
        Field.logJson.Considers env keywords logJson ∧ Field.logJson.Objects logJson ofLogJson ∧
        report.problems = ofDebug ++ ofLogJson ++
          (keywords.filter fun p => !declared.isName p.1).map
            fun p => ⟨.extraForbidden, p.1, p.2⟩) ∧
      ∃ rest, (Fault.invalid report).message = toString report.problems.length
        ++ " validation error" ++ (if report.problems.length = 1 then "" else "s")
        ++ " for " ++ declared.title ++ "\n" ++ rest) ∧
    -- what is written of a value is so
    (∀ (f : Field) v, f.Considers env keywords v → v.IsDocumented →
      (f.problemsIn (resolve env keywords) = [] ↔ ∃ b, v.Denotes b) ∧
      ∀ settings, resolve env keywords = .ok settings → v.Denotes (settings.value f)) ∧
    -- the other field does not matter
    (∀ (f : Field) env' keywords', Keywords.WellNamed declared keywords' →
      f.inputs env keywords = f.inputs env' keywords' →
      (∀ v, f.Considers env keywords v ↔ f.Considers env' keywords' v) ∧
      f.problemsIn (resolve env keywords) = f.problemsIn (resolve env' keywords') ∧
      ∀ settings settings', resolve env keywords = .ok settings →
        resolve env' keywords' = .ok settings' → settings.value f = settings'.value f) ∧
    -- nor do other variables
    ∀ env', (∀ f : Field, f.inputs env keywords = f.inputs env' keywords) →
      resolve env keywords = resolve env' keywords := by
  have hconsidered : ∀ f : Field, f.Considers env keywords (f.considered env keywords) := fun f =>
    (Field.considers_iff hlib h).mpr rfl
  have hvalue : ∀ {f : Field} {v}, f.Considers env keywords v → v = f.considered env keywords :=
    fun hv => ((Field.considers_iff hlib h).mp hv).symm
  refine ⟨fun f => ⟨_, hconsidered f, fun v hv => hvalue hv⟩, ?_, fun settings hr f v hv => ?_,
    fun report hr => ?_, fun f v hv hdoc => ?_, fun f env' keywords' h' hinputs => ?_,
    fun env' => resolve_congr hlib h⟩
  · rw [exists_resolve_eq_ok_iff hlib, extras_gathered hlib h, extras_eq_nil_iff h, and_comm]
    refine and_congr_left fun _ => ⟨fun hall f v hv => ?_, fun hall f => hall f _ (hconsidered f)⟩
    rw [hvalue hv]
    exact hall f
  · rw [hvalue hv]
    exact (of_resolve_eq_ok hlib hr).2 f
  · obtain ⟨hproblems, rest, htext⟩ := report_of_resolve_eq_error hlib h hr
    exact ⟨rfl, ⟨_, _, _, _, hconsidered .debug, Field.objects_problems .debug env keywords,
      hconsidered .logJson, Field.objects_problems .logJson env keywords, hproblems⟩, rest, htext⟩
  · have hread := hlib.readBool_iff hdoc
    rw [Field.problemsIn_resolve hlib, Field.problems_eq_nil_iff, ← hvalue hv]
    refine ⟨exists_congr hread, fun settings hr => (hread _).mp ?_⟩
    rw [hvalue hv]
    exact (of_resolve_eq_ok hlib hr).2 f
  · have hsame : f.considered env keywords = f.considered env' keywords' :=
      Field.considered_congr hlib h h' hinputs
    refine ⟨fun v => Field.considers_congr hinputs, ?_, fun settings settings' hr hr' => ?_⟩
    · rw [Field.problemsIn_resolve hlib, Field.problemsIn_resolve hlib, Field.problems_congr hsame]
    · have hread := (of_resolve_eq_ok hlib hr).2 f
      rw [hsame, (of_resolve_eq_ok hlib hr').2 f] at hread
      exact (Except.ok.inj hread).symm

end

/-- A variable that spells nothing and a keyword for nothing are told of together.  The other field
has a keyword, and comes to the same as without the two. -/
theorem garbled_variable_and_unknown_keyword :
    let env : Environment :=
      [("Type_Check_Debug", "Yes"), ("TYPE_CHECK_DEBUG", "zz"), ("TYPE_CHECK_LOG_JSON", "bad")]
    let keywords : List (String × Value) := [("level", .text "high"), ("log_json", .int 1)]
    let report : Report := .of declared.title
      [⟨.boolParsing, "debug", .text "zz"⟩, ⟨.extraForbidden, "level", .text "high"⟩]
    let env' : Environment := env ++ [("TYPE_CHECK_debug", "on")]
    let keywords' : List (String × Value) := [("log_json", .int 1)]
    Keywords.WellNamed declared keywords ∧ Keywords.WellNamed declared keywords' ∧
      Field.debug.Considers env keywords (.text "zz") ∧
      Field.logJson.Considers env keywords (.int 1) ∧
      resolve env keywords = .error report ∧
      (∃ rest, (Fault.invalid report).message
        = toString 2 ++ " validation error" ++ "s" ++ " for " ++ declared.title ++ "\n" ++ rest) ∧
      resolve env' keywords' = .ok ⟨true, true⟩ ∧
      Field.logJson.problemsIn (.error report) = [] := by
  intro env keywords report env' keywords'
  have hw : Keywords.WellNamed declared keywords := by
    refine ⟨by decide, fun p hp hname => ?_, by decide⟩
    simp only [keywords, List.mem_cons, List.not_mem_nil, or_false] at hp
    rcases hp with rfl | rfl
    · cases hname
    · decide
  have hw' : Keywords.WellNamed declared keywords' := by
    refine ⟨by decide, fun p hp _ => ?_, by decide⟩
    rw [List.mem_singleton.mp hp]
    decide
  have hdebug : Field.debug.Considers env keywords (.text "zz") :=
    .byVariable (by decide) ⟨[("Type_Check_Debug", "Yes")], _, _, rfl, by decide, by decide⟩
  have hjson : Field.logJson.Considers env keywords (.int 1) :=
    .byKeyword (List.mem_cons_of_mem _ (List.mem_singleton.mpr rfl))
  have hr : resolve env keywords = .error report := by
    unfold env keywords report
    rfl
  have hr' : resolve env' keywords' = .ok ⟨true, true⟩ := by
    unfold env' keywords' env
    rfl
  obtain ⟨-, -, -, hreport, -, hapart, -⟩ :=
    fields_are_settled_apart SettingsLibrary.standard_documented hw env
  obtain ⟨-, -, rest, htext⟩ := hreport report hr
  have hinputs : Field.logJson.inputs env keywords = Field.logJson.inputs env' keywords' := by
    unfold env' keywords' env keywords
    rfl
  obtain ⟨-, hsame, -⟩ := hapart .logJson env' keywords' hw' hinputs
  rw [hr, hr'] at hsame
  exact ⟨hw, hw', hdebug, hjson, hr, ⟨rest, htext⟩, hr', hsame⟩

/-- Where the rules for names end.  An option is a keyword for no field, and yet it is let in; here
it keeps an empty text from being considered, which is read as nothing.  The Kelvin sign is a letter
of a variable, though it is none of another case.  A spelling that is set again keeps its place, so
that the one that was set last does not count. -/
theorem options_and_spellings_count :
    (let env : Environment := [("TYPE_CHECK_DEBUG", ""), ("TYPE_CHECK_LOG_JSON", "1")]
     let keywords : List (String × Value) := [("_env_ignore_empty", .bool true)]
     (keywords.map (·.1)).Nodup ∧ (∀ p ∈ keywords, declared.isName p.1 = false) ∧
      Field.debug.Considers env keywords (.text "") ∧
      (∀ b, SettingsLibrary.readBool (.text "") ≠ .ok b) ∧
      resolve env keywords = .ok ⟨false, true⟩) ∧
    (let env : Environment := [("TYPE_CHEC\u212a_DEBUG", "1")]
     (∀ p ∈ env, p.1.toList.map Char.toLower ≠ "TYPE_CHECK_DEBUG".toList.map Char.toLower) ∧
      resolve env [] = .ok ⟨true, false⟩) ∧
    (let env : Environment := Assignments.ofList
      [("TYPE_CHECK_DEBUG", "1"), ("type_check_debug", "0"), ("TYPE_CHECK_DEBUG", "zz")]
     (∀ b, SettingsLibrary.readBool (.text "zz") ≠ .ok b) ∧
      resolve env [] = .ok ⟨false, false⟩) := by
  have hnothing : ∀ s, spelledSwitch? s = none →
      ∀ b, SettingsLibrary.readBool (.text s) ≠ .ok b := by
    intro s hs b
    change (Value.text s).toSwitch ≠ _
    rw [Value.toSwitch_text, hs]
    intro hb
    cases hb
  refine ⟨⟨by decide, by decide, ?_, hnothing "" (by decide), rfl⟩, ⟨by decide, rfl⟩,
    hnothing "zz" (by decide), rfl⟩
  exact .byVariable (by decide) ⟨[], "TYPE_CHECK_DEBUG", _, rfl, by decide, by decide⟩

end Settings

end NominalCheck
