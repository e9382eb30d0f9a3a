import Mathlib.Data.List.Nodup
import NominalCheck.Proofs.Spelling
import NominalCheck.Settings.Standard

/-!
# What the library for settings promises

The library that builds settings is a parameter, and here is what is written about it, for any class
of settings: keywords come before variables, and variables before defaults; a variable is found in
any letter case; every value is read by itself, as a truth value; and what is refused is refused in
one report, which tells of the switches in order, then of the keywords that are for none, and begins
with their number.  How a value is read is left open, but for truth values, whole numbers, texts and
byte strings.

The promise is about plain names, and about keywords that are no options and bear the name of a
switch only as it is declared.  The standard library keeps it.

## Main definitions

* `SettingsClass.IsPlain cls` — the names are ASCII, and no two are alike but for letter case.
* `Keywords.WellNamed cls keywords` — no name occurs twice, is an option, or is a switch's but for
  letter case.
* `Value.IsDocumented v` — it is written what the value `v` is read as.
* `SettingsLibrary.Documented` — the promise.
* `Field.considered f env keywords` — the value that is considered for a switch of the trace.

## Main results

* `SettingsLibrary.standard_documented` — the standard library keeps the promise.
* `SettingsLibrary.readBool_standard_iff` — it reads what a value denotes, for values of every kind.
* `Field.considered_eq` — of the keyword, the variable and the default, which is considered.
* `Settings.exists_resolve_eq_ok_iff`, `Settings.of_resolve_eq_ok`, `Settings.of_resolve_eq_error` —
  how the values considered decide the settings.
-/

namespace NominalCheck

/-- The names of the class are in ASCII, and no two of them are alike but for letter case. -/
structure SettingsClass.IsPlain (cls : SettingsClass) : Prop where
  /-- The names of variables are in ASCII. -/
  ascii : ∀ d ∈ cls.switches, ∀ c ∈ (cls.lead ++ d.name).toList, c.toNat < 128
  /-- No two switches have the same letters. -/
  apart : (cls.switches.map fun d => Text.lowered d.name).Nodup

/-- Keywords with distinct names, where a name with the letters of a switch's is that name, and none
is an option. -/
structure Keywords.WellNamed [SettingsLibrary] (cls : SettingsClass) (keywords : Keywords) :
    Prop where
  /-- No name occurs twice. -/
  nodup : (keywords.map (·.1)).Nodup
  /-- A switch is named in its own letter case. -/
  spelled : ∀ p ∈ keywords, cls.isName p.1 = true → p.1 ∈ cls.names
  /-- No option is given. -/
  noOption : ∀ p ∈ keywords, SettingsLibrary.isOption p.1 = false

/-- The values of which it is written what they are read as. -/
inductive Value.IsDocumented : Value → Prop
  /-- A truth value. -/
  | bool (b : Bool) : IsDocumented (.bool b)
  /-- A whole number. -/
  | int (i : Int) : IsDocumented (.int i)
  /-- A text. -/
  | text (s : String) : IsDocumented (.text s)
  /-- A byte string. -/
  | bytes (data : List UInt8) : IsDocumented (.bytes .bytes data)

/-- What is written about a library for settings. -/
structure SettingsLibrary.Documented [SettingsLibrary] : Prop where
  /-- An option has a leading underscore. -/
  underscore_of_isOption {name : String} (h : isOption name = true) : name.toList.head? = some '_'
  /-- A keyword comes before a variable, which is found in any letter case. -/
  lookup_gather {cls : SettingsClass} (hcls : cls.IsPlain) {keywords : Keywords}
      (hk : Keywords.WellNamed cls keywords) (env : Environment) {d : DeclaredSwitch}
      (hd : d ∈ cls.switches) :
    (gather cls env keywords).lookup d.name
      = (keywords.lookup d.name).or ((env.find? (cls.lead ++ d.name)).map .text)
  /-- A keyword that is for no switch is handed on, and no variable is. -/
  extras_gather {cls : SettingsClass} (hcls : cls.IsPlain) {keywords : Keywords}
      (hk : Keywords.WellNamed cls keywords) (env : Environment) :
    cls.extras (gather cls env keywords) = cls.extras keywords
  /-- What is built depends on the value of each switch, and on those for none. -/
  build_congr {cls : SettingsClass} (hcls : cls.IsPlain) {values values' : Keywords}
      (h : ∀ d ∈ cls.switches, values.lookup d.name = values'.lookup d.name)
      (hextras : cls.extras values = cls.extras values') : build cls values = build cls values'
  /-- Where nothing is wrong, each switch is what its value is read as. -/
  of_build_ok {cls : SettingsClass} (hcls : cls.IsPlain) {values : Keywords}
      {switch : String → Bool} (h : build cls values = .ok switch) :
    cls.extras values = [] ∧
      ∀ d ∈ cls.switches, readBool (d.considered values) = .ok (switch d.name)
  /-- Else all that is wrong is told in one report, which begins with their number. -/
  of_build_error {cls : SettingsClass} (hcls : cls.IsPlain) {values : Keywords} {report : Report}
      (h : build cls values = .error report) :
    report.problems = cls.problems readBool values ∧ report.problems ≠ [] ∧
      ∃ rest, report.text = Report.headline cls.title report.problems.length ++ "\n" ++ rest
  /-- A value is read as what it denotes, and refused if it denotes nothing. -/
  readBool_iff {v : Value} (hv : v.IsDocumented) (b : Bool) : readBool v = .ok b ↔ v.Denotes b

namespace SettingsLibrary.Documented

variable [SettingsLibrary]

/-- A truth value is read as itself. -/
theorem readBool_bool (hlib : Documented) (b : Bool) : readBool (.bool b) = .ok b :=
  (hlib.readBool_iff (.bool b) b).mpr ⟨.truth b, .bool, rfl⟩

/-- A text is read as what it spells, and refused if it spells nothing. -/
theorem readBool_text (hlib : Documented) (s : String) (b : Bool) :
    readBool (.text s) = .ok b ↔ Spells s b :=
  (hlib.readBool_iff (.text s) b).trans (Value.denotes_iff_of_bears .text)

end SettingsLibrary.Documented

/-! ### The standard library -/

/-- A report that tells of something begins with its headline. -/
theorem Report.text_of (title : String) {problems : List Problem} (h : problems ≠ []) :
    ∃ rest, (Report.of title problems).text
      = headline title problems.length ++ "\n" ++ rest := by
  obtain ⟨p, ps, rfl⟩ := List.exists_cons_of_ne_nil h
  rw [of, List.flatMap_cons, Problem.lines, List.cons_append, String.intercalate_cons_cons]
  exact ⟨_, rfl⟩

namespace SettingsClass

variable {cls : SettingsClass} {d e : DeclaredSwitch} {env : Environment}
  {keywords values values' : Keywords} {v : Value}

theorem IsPlain.eq_of_sameLetters (h : cls.IsPlain) (hd : d ∈ cls.switches)
    (he : e ∈ cls.switches) (hsame : Text.sameLetters d.name e.name = true) : d = e :=
  List.inj_on_of_nodup_map h.apart hd he (beq_iff_eq.mp hsame)

theorem IsPlain.nodup_names (h : cls.IsPlain) : cls.names.Nodup := by
  have hlowered : (cls.names.map Text.lowered).Nodup := by
    rw [names, List.map_map]
    exact h.apart
  exact hlowered.of_map _

theorem isName_iff {name : String} :
    cls.isName name = true ↔ ∃ d ∈ cls.switches, Text.sameLetters name d.name = true :=
  List.any_eq_true

theorem mem_names : d ∈ cls.switches → d.name ∈ cls.names := List.mem_map_of_mem

theorem isName_of_mem_names {name : String} (h : name ∈ cls.names) : cls.isName name = true := by
  obtain ⟨d, hd, rfl⟩ := List.mem_map.mp h
  exact isName_iff.mpr ⟨d, hd, Text.sameLetters_self d.name⟩

/-- A keyword with the letters of a switch bears its name. -/
theorem IsPlain.sameLetters_iff [SettingsLibrary] (h : cls.IsPlain)
    (hk : Keywords.WellNamed cls keywords) (hd : d ∈ cls.switches) {p : String × Value}
    (hp : p ∈ keywords) : Text.sameLetters p.1 d.name = true ↔ p.1 = d.name := by
  refine ⟨fun hsame => ?_, fun hname => hname ▸ Text.sameLetters_self _⟩
  obtain ⟨e, he, hname⟩ := List.mem_map.mp (hk.spelled p hp (isName_iff.mpr ⟨d, hd, hsame⟩))
  rw [← hname] at hsame ⊢
  rw [h.eq_of_sameLetters he hd hsame]

/-- Where only the name itself has its letters, the first of its spellings is what stands under
it. -/
theorem keyword?_eq_lookup
    (h : ∀ p ∈ keywords, Text.sameLetters p.1 d.name = true ↔ p.1 = d.name) :
    d.keyword? keywords = keywords.lookup d.name := by
  rw [DeclaredSwitch.keyword?]
  induction keywords with
  | nil => rfl
  | cons p keywords ih =>
    obtain ⟨name, v⟩ := p
    rw [List.forall_mem_cons] at h
    rw [List.find?_cons, List.lookup_cons]
    by_cases hname : name = d.name
    · rw [h.1.mpr hname, hname, beq_self_eq_true]
      rfl
    · have hother : Text.sameLetters name d.name = false :=
        Bool.eq_false_iff.mpr (mt h.1.mp hname)
      rw [hother, beq_eq_false_iff_ne.mpr (Ne.symm hname)]
      exact ih h.2

/-- Without options a variable is found under the start of its name and that of its switch. -/
theorem gathered?_eq (hcls : cls.IsPlain) (hk : Keywords.WellNamed cls keywords)
    (hd : d ∈ cls.switches) (env : Environment) : cls.gathered? env keywords d
      = (keywords.lookup d.name).or ((env.find? (cls.lead ++ d.name)).map .text) := by
  have hoptions : Options.ofKeywords cls.lead keywords = { lead := cls.lead } := by
    refine Options.ofKeywords_of_notMem cls.lead fun name hname => ?_
    rw [List.lookup_eq_none_iff]
    intro p hp
    rw [bne_iff_ne]
    rintro rfl
    have hoption : isOption p.1 = true := by
      rw [isOption, List.contains_iff_mem.mpr hname, Bool.true_or]
    have hnone : isOption p.1 = false := hk.noOption p hp
    rw [hnone] at hoption
    cases hoption
  rw [gathered?, hoptions, Options.read?_default,
    keyword?_eq_lookup fun p hp => hcls.sameLetters_iff hk hd hp]

theorem name_of_mem_gatheredPair {p : String × Value} (h : p ∈ cls.gatheredPair env keywords d) :
    p.1 = d.name := by
  rw [gatheredPair, Option.mem_toList] at h
  obtain ⟨v, -, rfl⟩ := Option.map_eq_some_iff.mp h
  rfl

theorem lookup_gatheredPair : (cls.gatheredPair env keywords d).lookup d.name
    = cls.gathered? env keywords d := by
  rw [gatheredPair]
  cases cls.gathered? env keywords d with
  | none => rfl
  | some v => exact List.lookup_cons_self

/-- Values that bear other names are not found under this one. -/
theorem lookup_eq_none_of_forall_ne {name : String} (h : ∀ p ∈ values, p.1 ≠ name) :
    values.lookup name = none :=
  List.lookup_eq_none_iff.mpr fun p hp => bne_iff_ne.mpr (Ne.symm (h p hp))

/-- Of the values gathered for switches of distinct names, each is found under its own. -/
theorem lookup_flatMap_gatheredPair {switches : List DeclaredSwitch}
    (hnames : (switches.map (·.name)).Nodup) (hd : d ∈ switches) :
    (switches.flatMap (cls.gatheredPair env keywords)).lookup d.name
      = cls.gathered? env keywords d := by
  induction switches with
  | nil => cases hd
  | cons e switches ih =>
    rw [List.map_cons, List.nodup_cons] at hnames
    rw [List.flatMap_cons, List.lookup_append]
    rcases List.mem_cons.mp hd with rfl | hd
    · have hothers : (switches.flatMap (cls.gatheredPair env keywords)).lookup d.name = none := by
        refine lookup_eq_none_of_forall_ne fun p hp hname => hnames.1 ?_
        obtain ⟨e, he, hpe⟩ := List.mem_flatMap.mp hp
        rw [← hname, name_of_mem_gatheredPair hpe]
        exact List.mem_map_of_mem he
      rw [lookup_gatheredPair, hothers, Option.or_none]
    · have hhead : (cls.gatheredPair env keywords e).lookup d.name = none := by
        refine lookup_eq_none_of_forall_ne fun p hp hname => hnames.1 ?_
        rw [← name_of_mem_gatheredPair hp, hname]
        exact List.mem_map_of_mem hd
      rw [hhead, Option.none_or, ih hnames.2 hd]

/-- The standard library finds a keyword before a variable. -/
theorem lookup_gather (hcls : cls.IsPlain) (hk : Keywords.WellNamed cls keywords)
    (hd : d ∈ cls.switches) (env : Environment) : (cls.gather env keywords).lookup d.name
      = (keywords.lookup d.name).or ((env.find? (cls.lead ++ d.name)).map .text) := by
  have hothers : (keywords.filter fun p => !cls.isName p.1 && !isOption p.1).lookup d.name
      = none := by
    refine lookup_eq_none_of_forall_ne fun p hp hname => ?_
    have hkept := (List.mem_filter.mp hp).2
    rw [hname, isName_of_mem_names (mem_names hd)] at hkept
    cases hkept
  rw [gather, List.lookup_append, hothers, Option.or_none,
    lookup_flatMap_gatheredPair hcls.nodup_names hd, gathered?_eq hcls hk hd]

/-- The standard library hands on what is for no switch. -/
theorem extras_gather (hk : Keywords.WellNamed cls keywords) (env : Environment) :
    cls.extras (cls.gather env keywords) = cls.extras keywords := by
  have hnone : cls.extras (cls.switches.flatMap (cls.gatheredPair env keywords)) = [] := by
    refine List.filter_eq_nil_iff.mpr fun p hp => ?_
    obtain ⟨d, hd, hpd⟩ := List.mem_flatMap.mp hp
    rw [decide_eq_true_eq, not_not, name_of_mem_gatheredPair hpd]
    exact mem_names hd
  rw [gather, extras, List.filter_append, ← extras, hnone, List.nil_append, List.filter_filter]
  refine List.filter_congr fun p hp => ?_
  have hoption : isOption p.1 = false := hk.noOption p hp
  rw [hoption, Bool.not_false, Bool.and_true]
  by_cases hname : p.1 ∈ cls.names
  · rw [decide_eq_false (not_not.mpr hname), Bool.false_and]
  · rw [decide_eq_true hname, Bool.eq_false_iff.mpr (mt (hk.spelled p hp) hname)]
    rfl

/-! ### Reading -/

theorem problems_eq_nil_iff {read : Value → Except Complaint Bool} :
    cls.problems read values = [] ↔
      cls.extras values = [] ∧ ∀ d ∈ cls.switches, ∃ b, read (d.considered values) = .ok b := by
  have hswitch : ∀ d : DeclaredSwitch, d.problems read values = [] ↔
      ∃ b, read (d.considered values) = .ok b := by
    intro d
    rw [DeclaredSwitch.problems]
    cases read (d.considered values) <;> simp
  rw [problems, List.append_eq_nil_iff, List.flatMap_eq_nil_iff, List.map_eq_nil_iff, and_comm]
  simp only [hswitch]

/-- The standard library reads each switch from its value. -/
theorem isOn_eq_of_ok (hcls : cls.IsPlain) (hd : d ∈ cls.switches) {b : Bool}
    (h : (d.considered values).toSwitch = .ok b) : cls.isOn values d.name = b := by
  rw [Bool.eq_iff_iff, isOn, List.any_eq_true]
  simp only [Bool.and_eq_true, beq_iff_eq]
  constructor
  · rintro ⟨e, he, hname, hon⟩
    obtain rfl := List.inj_on_of_nodup_map hcls.nodup_names he hd hname
    rw [h] at hon
    exact Option.some.inj hon
  · rintro rfl
    exact ⟨d, hd, rfl, by rw [h]; rfl⟩

/-- The standard library looks at nothing but the values of the switches and those for none. -/
theorem build_congr (h : ∀ d ∈ cls.switches, values.lookup d.name = values'.lookup d.name)
    (hextras : cls.extras values = cls.extras values') : cls.build values = cls.build values' := by
  have hconsidered : ∀ d ∈ cls.switches, d.considered values = d.considered values' := by
    intro d hd
    rw [DeclaredSwitch.considered, DeclaredSwitch.considered, h d hd]
  have hproblems : cls.problems Value.toSwitch values = cls.problems Value.toSwitch values' := by
    rw [problems, problems, hextras]
    refine congrArg (· ++ _) (List.flatMap_congr fun d hd => ?_)
    rw [DeclaredSwitch.problems, DeclaredSwitch.problems, hconsidered d hd]
  have hon : cls.isOn values = cls.isOn values' := by
    funext name
    rw [isOn, isOn, Bool.eq_iff_iff, List.any_eq_true, List.any_eq_true]
    refine exists_congr fun d => and_congr_right fun hd => ?_
    rw [hconsidered d hd]
  rw [build, build, hproblems, hon]

theorem build_of_ok {switch : String → Bool} (h : cls.build values = .ok switch) :
    cls.problems Value.toSwitch values = [] ∧ switch = cls.isOn values := by
  rw [build] at h
  split at h
  · next hnil =>
    cases h
    exact ⟨hnil, rfl⟩
  · cases h

theorem build_of_error {report : Report} (h : cls.build values = .error report) :
    cls.problems Value.toSwitch values ≠ [] ∧
      report = .of cls.title (cls.problems Value.toSwitch values) := by
  rw [build] at h
  split at h
  · cases h
  · next hne =>
    cases h
    exact ⟨hne, rfl⟩

end SettingsClass

/-- The standard library reads a value as what it denotes. -/
theorem SettingsLibrary.readBool_standard_iff {v : Value} {b : Bool} :
    standard.readBool v = .ok b ↔ v.Denotes b :=
  Value.toSwitch_eq_ok_iff

/-- The standard library keeps the promise. -/
theorem SettingsLibrary.standard_documented : SettingsLibrary.standard.Documented where
  underscore_of_isOption {name} h := by
    have hnames : ∀ name ∈ readingOptions ++ sourceOptions, name.toList.head? = some '_' := by
      decide
    refine hnames name (List.mem_append.mpr ?_)
    have hor : (readingOptions.contains name || sourceOptions.contains name) = true := h
    rw [Bool.or_eq_true, List.contains_iff_mem, List.contains_iff_mem] at hor
    exact hor
  lookup_gather hcls _ hk env _ hd := SettingsClass.lookup_gather hcls hk hd env
  extras_gather _ _ hk env := SettingsClass.extras_gather hk env
  build_congr _ _ _ h hextras := SettingsClass.build_congr h hextras
  of_build_ok {cls} hcls values switch h := by
    obtain ⟨hnil, rfl⟩ := SettingsClass.build_of_ok h
    obtain ⟨hextras, hread⟩ := SettingsClass.problems_eq_nil_iff.mp hnil
    refine ⟨hextras, fun d hd => ?_⟩
    obtain ⟨b, hb⟩ := hread d hd
    rw [SettingsClass.isOn_eq_of_ok hcls hd hb]
    exact hb
  of_build_error {cls} _ values report h := by
    obtain ⟨hne, rfl⟩ := SettingsClass.build_of_error h
    exact ⟨rfl, hne, Report.text_of cls.title hne⟩
  readBool_iff _ _ := SettingsLibrary.readBool_standard_iff

/-! ### The settings of the trace -/

theorem Settings.isPlain_declared : declared.IsPlain where
  ascii := by
    have hall : (declared.switches.all fun d =>
        (declared.lead ++ d.name).toList.all fun c => c.toNat < 128) = true := by decide
    intro d hd c hc
    exact of_decide_eq_true (List.all_eq_true.mp (List.all_eq_true.mp hall d hd) c hc)
  apart := by decide

theorem Field.declared_mem (f : Field) : f.declared ∈ Settings.declared.switches := by
  cases f <;> decide

theorem Settings.mem_switches_iff {d : DeclaredSwitch} :
    d ∈ declared.switches ↔ ∃ f : Field, f.declared = d := by
  refine ⟨fun h => ?_, fun ⟨f, hf⟩ => hf ▸ f.declared_mem⟩
  rcases List.mem_cons.mp h with rfl | h
  · exact ⟨.debug, rfl⟩
  · exact ⟨.logJson, (List.mem_singleton.mp h).symm⟩

/-- The name of the variable for a switch. -/
def Field.variableName : Field → String
  | .debug => "TYPE_CHECK_DEBUG"
  | .logJson => "TYPE_CHECK_LOG_JSON"

/-- Names with the same letters are names of one variable. -/
theorem Environment.find?_congr {env : Environment} {name name' : String}
    (h : Text.lowered name = Text.lowered name') : env.find? name = env.find? name' := by
  simp only [find?, Text.sameLetters, h]

theorem Environment.find?_variable (env : Environment) (f : Field) :
    env.find? (Settings.declared.lead ++ f.declared.name) = env.find? f.variableName := by
  refine find?_congr ?_
  cases f <;> decide

section

variable [SettingsLibrary] {f : Field} {env : Environment} {keywords : List (String × Value)}
  {settings : Settings} {report : Report}

theorem Keywords.wellNamed_nil (cls : SettingsClass) : Keywords.WellNamed cls [] :=
  ⟨List.nodup_nil, List.forall_mem_nil _, List.forall_mem_nil _⟩

/-- Keywords for switches of the trace are well named if no name occurs twice. -/
theorem Keywords.wellNamed_of_fields (hlib : SettingsLibrary.Documented)
    (hnodup : (keywords.map (·.1)).Nodup) (h : ∀ p ∈ keywords, ∃ f : Field, p.1 = f.name) :
    Keywords.WellNamed Settings.declared keywords := by
  refine ⟨hnodup, fun p hp _ => ?_, fun p hp => Bool.eq_false_iff.mpr fun hoption => ?_⟩
  · obtain ⟨f, hf⟩ := h p hp
    rw [hf]
    exact SettingsClass.mem_names f.declared_mem
  · obtain ⟨f, hf⟩ := h p hp
    have hunderscore := hlib.underscore_of_isOption hoption
    rw [hf] at hunderscore
    revert hunderscore
    cases f <;> decide

/-- The values gathered for the settings. -/
def Settings.gathered (env : Environment) (keywords : List (String × Value)) : Keywords :=
  SettingsLibrary.gather declared env (Assignments.ofList keywords)

/-- The value that is considered for a switch of the trace. -/
def Field.considered (f : Field) (env : Environment) (keywords : List (String × Value)) : Value :=
  f.declared.considered (Settings.gathered env keywords)

/-- What is wrong with the value considered. -/
def Field.problems (f : Field) (env : Environment) (keywords : List (String × Value)) :
    List Problem :=
  f.declared.problems SettingsLibrary.readBool (Settings.gathered env keywords)

/-- A keyword is considered before a variable, and a variable before the default. -/
theorem Field.considered_eq (hlib : SettingsLibrary.Documented)
    (hk : Keywords.WellNamed Settings.declared keywords) :
    f.considered env keywords
      = ((keywords.lookup f.name).or ((env.find? f.variableName).map .text)).getD
        (.bool false) := by
  have hdefault : f.declared.default = false := by cases f <;> rfl
  rw [considered, DeclaredSwitch.considered, Settings.gathered,
    Assignments.ofList_of_nodup hk.nodup,
    hlib.lookup_gather Settings.isPlain_declared hk env f.declared_mem,
    Environment.find?_variable, hdefault]
  rfl

namespace Settings

theorem extras_gathered (hlib : SettingsLibrary.Documented)
    (hk : Keywords.WellNamed declared keywords) :
    declared.extras (gathered env keywords) = declared.extras keywords := by
  rw [gathered, Assignments.ofList_of_nodup hk.nodup,
    hlib.extras_gather isPlain_declared hk env]

theorem resolve_eq (env : Environment) (keywords : List (String × Value)) :
    resolve env keywords
      = (SettingsLibrary.build declared (gathered env keywords)).map ofNames := rfl

/-- Where there are settings, they are what the values considered are read as. -/
theorem of_resolve_eq_ok (hlib : SettingsLibrary.Documented)
    (h : resolve env keywords = .ok settings) :
    declared.extras (gathered env keywords) = [] ∧
      ∀ f : Field,
        SettingsLibrary.readBool (f.considered env keywords) = .ok (settings.value f) := by
  rw [resolve_eq] at h
  cases hb : SettingsLibrary.build declared (gathered env keywords) with
  | error report =>
    rw [hb] at h
    cases h
  | ok switch =>
    rw [hb] at h
    cases h
    obtain ⟨hextras, hread⟩ := hlib.of_build_ok isPlain_declared hb
    refine ⟨hextras, fun f => (hread _ f.declared_mem).trans ?_⟩
    cases f <;> rfl

/-- Where there are none, the report tells all that is wrong with them. -/
theorem of_resolve_eq_error (hlib : SettingsLibrary.Documented)
    (h : resolve env keywords = .error report) :
    report.problems = Field.debug.problems env keywords ++ Field.logJson.problems env keywords
        ++ (declared.extras (gathered env keywords)).map (fun p => ⟨.extraForbidden, p.1, p.2⟩) ∧
      report.problems ≠ [] ∧
      ∃ rest, report.text
        = Report.headline declared.title report.problems.length ++ "\n" ++ rest := by
  rw [resolve_eq] at h
  cases hb : SettingsLibrary.build declared (gathered env keywords) with
  | ok switch =>
    rw [hb] at h
    cases h
  | error report' =>
    rw [hb] at h
    cases h
    obtain ⟨hproblems, hne, htext⟩ := hlib.of_build_error isPlain_declared hb
    refine ⟨hproblems.trans ?_, hne, htext⟩
    rw [SettingsClass.problems]
    refine congrArg (· ++ _) ?_
    exact congrArg (_ ++ ·) (List.append_nil _)

/-- There are settings exactly if every value considered is read and there are no others. -/
theorem exists_resolve_eq_ok_iff (hlib : SettingsLibrary.Documented) :
    (∃ settings, resolve env keywords = .ok settings) ↔
      declared.extras (gathered env keywords) = [] ∧
        ∀ f : Field, ∃ b, SettingsLibrary.readBool (f.considered env keywords) = .ok b := by
  constructor
  · rintro ⟨settings, h⟩
    obtain ⟨hextras, hread⟩ := of_resolve_eq_ok hlib h
    exact ⟨hextras, fun f => ⟨_, hread f⟩⟩
  · rintro ⟨hextras, hread⟩
    rw [resolve_eq]
    cases hb : SettingsLibrary.build declared (gathered env keywords) with
    | ok switch => exact ⟨ofNames switch, rfl⟩
    | error report =>
      -- nothing is wrong, and a report would tell of something
      obtain ⟨hproblems, hne, -⟩ := hlib.of_build_error isPlain_declared hb
      have hnil : declared.problems SettingsLibrary.readBool (gathered env keywords) = [] := by
        refine SettingsClass.problems_eq_nil_iff.mpr ⟨hextras, fun d hd => ?_⟩
        obtain ⟨f, rfl⟩ := mem_switches_iff.mp hd
        exact hread f
      exact absurd (hproblems.trans hnil) hne

end Settings

end

end NominalCheck
