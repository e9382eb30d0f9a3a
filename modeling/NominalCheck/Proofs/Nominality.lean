import Mathlib.Data.List.Forall2
import NominalCheck.Proofs.Agreement
import NominalCheck.Proofs.Custody

/-!
# Values are checked by name alone

A check looks at a value through the name of its exact type and through whether it is the absence
value.  So a value may be exchanged for any other that agrees in these two, however it differs in
its contents, in what it derives from or in whether it counts as true: the answers, the calls and
the states of a session are the same.  A classifier could look closer, and the ones that do are
left out here.

Whether a value is absent has nothing to do with names.  A type that is called like that of the
absence value gets no special treatment, and neither does an answer of that text.

## Main definitions

* `Value.Alike v w` — `v` and `w` have one type name, and both are absent or neither is.
* `Classifier.IsNominal c` — `c` looks at no more of a value.
* `Action.Alike`, `Step.Alike` — the same up to an exchange of the value that is checked.

## Main results

* `Session.act_of_alike` — actions that are alike have one answer, make the same calls and leave one
  state.
* `Session.run_of_alike` — so do several steps, one after the other.
* `Session.checks_are_nominal` — **values that are alike cannot be told apart**, and an optional
  entry accepts by name or by absence.
-/

namespace NominalCheck

/-! ### Values that are alike -/

/-- Two values have one type name, and both are absent or neither is. -/
structure Value.Alike (v w : Value) : Prop where
  /-- The names of their types are the same. -/
  typeName : v.typeName = w.typeName
  /-- Both are absent, or neither is. -/
  isAbsent : v.isAbsent = w.isAbsent

instance (v w : Value) : Decidable (v.Alike w) :=
  decidable_of_iff (v.typeName = w.typeName ∧ v.isAbsent = w.isAbsent)
    ⟨fun h => ⟨h.1, h.2⟩, fun h => ⟨h.typeName, h.isAbsent⟩⟩

/-- A rule looks at nothing of a value but its type name and its absence. All rules are such, but
for the functions that tell apart what is alike. -/
def Rule.IsNominal : Rule → Prop
  | .function answer => ∀ n v w, Value.Alike v w → answer n w = answer n v
  | _ => True

/-- A classifier looks at nothing of a value but its type name and its absence.  Of those that are
given as they are, the ones that tell apart what is alike are left out. -/
def Classifier.IsNominal : Classifier → Prop
  | .value f answer => ∀ v w, Value.Alike v w → f.apply answer w = f.apply answer v
  | .ruled _ rule => rule.IsNominal
  | _ => True

section

variable {v w : Value}

theorem Value.Alike.eq_none_iff (h : v.Alike w) : w = .none ↔ v = .none := by
  rw [← w.isAbsent_iff, ← v.isAbsent_iff, h.isAbsent]

theorem Entry.accepts_of_alike (h : v.Alike w) (e : Entry) (given : Value) :
    e.accepts w given = e.accepts v given := by
  rw [Entry.accepts, Entry.accepts, h.isAbsent]

theorem admits_of_alike (h : v.Alike w) (es : List String) (given : Value) :
    Admits es w given ↔ Admits es v given := by
  rw [Admits, Admits, h.eq_none_iff]

theorem judge_of_alike (h : v.Alike w) (es : List String) (given : Value) :
    judge es w given = judge es v given := by
  simp only [judge, admits_of_alike h]

/-! ### What classifiers answer -/

theorem Rule.answer_of_alike (h : v.Alike w) {rule : Rule} (hrule : rule.IsNominal) (n : Nat) :
    rule.answer n w = rule.answer n v := by
  cases rule with
  | function answer => rw [Rule.answer, Rule.answer, hrule n v w h]
  | rename names => rw [Rule.answer, Rule.answer, h.typeName]
  | prefixed lead => rw [Rule.answer, Rule.answer, h.typeName]
  | _ => rfl

namespace Classifier

variable {c ambient : Classifier}

theorem isNominal_native : native.IsNominal := trivial

theorem askAmbient_of_alike (h : v.Alike w) (hc : c.IsNominal) (history : List Handle) :
    c.askAmbient history w = c.askAmbient history v := by
  cases c with
  | native => rw [askAmbient, askAmbient, h.typeName]
  | value f answer => rw [askAmbient, askAmbient, hc v w h]
  | ruled handle rule => rw [askAmbient, askAmbient, Rule.answer_of_alike h hc]
  | nested handle descriptor => rfl

/-- A nested classifier tells of the value, so that the events of the two may differ. -/
theorem outcome_ask_of_alike (h : v.Alike w) (hc : c.IsNominal) (hambient : ambient.IsNominal)
    (history : List Handle) :
    (c.ask ambient history w).outcome = (c.ask ambient history v).outcome := by
  cases c with
  | nested handle descriptor =>
    have hmatching : ∀ es given, (matching es w given).outcome = (matching es v given).outcome := by
      intro es given
      simp only [matching, Entry.accepts_of_alike h]
    simp only [ask, Run.outcome_bind, askAmbient_of_alike h hambient, hmatching]
  | _ => exact congrArg Run.outcome (askAmbient_of_alike h hc history)

theorem calls_ask_of_alike (h : v.Alike w) (hambient : ambient.IsNominal)
    (history : List Handle) :
    (c.ask ambient history w).calls = (c.ask ambient history v).calls := by
  rw [calls_ask, calls_ask]
  cases c with
  | nested handle descriptor =>
    simp only [innerCalls, askAmbient_of_alike h hambient]
  | _ => rfl

end Classifier

end

/-! ### What is asked about them -/

/-- The same question about another value. -/
def Question.withValue (q : Question) (w : Value) : Question :=
  match q with
  | .check descriptor _ => .check descriptor w
  | .accepts descriptor _ => .accepts descriptor w
  | .assertEntry entry _ => .assertEntry entry w
  | .acceptsEntry entry _ => .acceptsEntry entry w
  | .classify _ => .classify w

namespace Question

@[simp] theorem texts_withValue (q : Question) (w : Value) : (q.withValue w).texts = q.texts := by
  cases q <;> rfl

@[simp] theorem value_withValue (q : Question) (w : Value) : (q.withValue w).value = w := by
  cases q <;> rfl

theorem conclude_withValue (q : Question) {w : Value} (h : q.value.Alike w) (es : List String)
    (given : Value) : (q.withValue w).conclude es given = q.conclude es given := by
  cases q with
  | classify v => rfl
  | check descriptor v => exact congrArg (Verdict.raised _) (judge_of_alike h es given)
  | accepts descriptor v => exact congrArg Verdict.told (judge_of_alike h es given)
  | assertEntry entry v => exact congrArg (Verdict.raised _) (judge_of_alike h es given)
  | acceptsEntry entry v => exact congrArg Verdict.told (judge_of_alike h es given)

end Question

/-- Two actions are the same, up to an exchange of the value that they are about for one that is
alike. -/
inductive Action.Alike : Action → Action → Prop
  /-- Nothing is exchanged. -/
  | same (a : Action) : Alike a a
  /-- The value that a question is about is exchanged. -/
  | asked (t : Target) {q : Question} {w : Value} (h : q.value.Alike w) :
      Alike (.ask t q) (.ask t (q.withValue w))
  /-- So is the one whose type name is asked for. -/
  | typeName {v w : Value} (h : v.Alike w) : Alike (.inquire (.typeName v)) (.inquire (.typeName w))
  /-- And the one that may be absent. -/
  | isAbsent {v w : Value} (h : v.Alike w) : Alike (.inquire (.isAbsent v)) (.inquire (.isAbsent w))

/-- Two steps do what is alike and bring the same along. -/
structure Step.Alike (x y : Step) : Prop where
  /-- Their actions are alike. -/
  action : x.action.Alike y.action
  /-- They bring the same variables. -/
  environment : y.environment = x.environment
  /-- They tell the same about the terminal. -/
  terminal : y.terminal = x.terminal

theorem Step.Alike.refl (x : Step) : x.Alike x := ⟨.same x.action, rfl, rfl⟩

namespace Session

variable {s : Session}

/-- A target whose classifier is nominal does not tell values apart that are alike. -/
theorem ask_of_alike {t : Target} (hc : ∀ c, s.classifierOf t = .ok c → c.IsNominal)
    (hambient : s.registry.ambient.IsNominal) {q : Question} {w : Value} (h : q.value.Alike w) :
    (s.ask t (q.withValue w)).outcome = (s.ask t q).outcome ∧
      (s.ask t (q.withValue w)).calls = (s.ask t q).calls := by
  cases hct : s.classifierOf t with
  | error f =>
    rw [ask_of_missing hct, ask_of_missing hct]
    exact ⟨rfl, rfl⟩
  | ok c =>
    have ht := q.texts_withValue w
    cases htexts : q.texts with
    | error f =>
      obtain ⟨ho, hcalls⟩ := ask_of_unreadable hct htexts
      obtain ⟨ho', hcalls'⟩ := ask_of_unreadable hct (ht.trans htexts)
      exact ⟨ho'.trans ho.symm, hcalls'.trans hcalls.symm⟩
    | ok es =>
      have hconclude : (q.withValue w).conclude es = q.conclude es :=
        funext (q.conclude_withValue h es)
      rw [outcome_ask_of_ok hct htexts, outcome_ask_of_ok hct (ht.trans htexts),
        calls_ask_of_ok hct htexts, calls_ask_of_ok hct (ht.trans htexts), q.value_withValue,
        Classifier.outcome_ask_of_alike h (hc c hct) hambient,
        Classifier.calls_ask_of_alike h hambient, hconclude]
      exact ⟨rfl, rfl⟩

/-- Actions that are alike have one answer, make the same calls and leave one state. -/
theorem act_of_alike [SettingsLibrary]
    (hs : s.registry.All Classifier.IsNominal) {a b : Action} (h : a.Alike b)
    (hgiven : ∀ c ∈ a.given?, c.IsNominal) :
    (s.act b).1.outcome = (s.act a).1.outcome ∧ (s.act b).1.calls = (s.act a).1.calls ∧
      (s.act b).2 = (s.act a).2 := by
  cases h with
  | same => exact ⟨rfl, rfl, rfl⟩
  | asked t h =>
    have hc : ∀ c, s.classifierOf t = .ok c → c.IsNominal := fun c hct =>
      all_classifierOf hs (fun d ht _ => hgiven d (by rw [ht]; rfl)) hct
    obtain ⟨ho, hcalls⟩ := ask_of_alike hc hs.ambient h
    exact ⟨ho, hcalls,
      congrArg (fun calls => { s with history := s.history ++ calls }) hcalls⟩
  | typeName h =>
    exact ⟨congrArg (fun name => Except.ok (Reply.text name)) h.typeName.symm, rfl, rfl⟩
  | isAbsent h =>
    exact ⟨congrArg (fun b => Except.ok (Reply.truth b)) h.isAbsent.symm, rfl, rfl⟩

theorem step_of_alike [SettingsLibrary]
    (hs : s.registry.All Classifier.IsNominal) {x y : Step} (h : x.Alike y)
    (hgiven : ∀ c ∈ x.action.given?, c.IsNominal) :
    (s.step y).1.answer = (s.step x).1.answer ∧ (s.step y).1.calls = (s.step x).1.calls ∧
      (s.step y).2 = (s.step x).2 := by
  have henter : s.enter y = s.enter x := by rw [enter, enter, h.environment, h.terminal]
  obtain ⟨ho, hc, hnext⟩ := act_of_alike (s := s.enter x) hs h.action hgiven
  simp only [step, henter]
  exact ⟨ho, hc, hnext⟩

/-- Steps that are alike have the same answers, make the same calls and leave one state. -/
theorem run_of_alike [SettingsLibrary]
    (hs : s.registry.All Classifier.IsNominal) {xs ys : List Step}
    (h : List.Forall₂ Step.Alike xs ys)
    (hgiven : ∀ x ∈ xs, ∀ c ∈ x.action.given?, c.IsNominal) :
    (s.run ys).1.map (fun o => (o.answer, o.calls))
        = (s.run xs).1.map (fun o => (o.answer, o.calls)) ∧
      (s.run ys).2 = (s.run xs).2 := by
  -- the two first steps lead to one state, and from there to the same
  induction h generalizing s with
  | nil => exact ⟨rfl, rfl⟩
  | @cons x y xs ys hxy _ ih =>
    obtain ⟨ha, hc, hnext⟩ := step_of_alike hs hxy (hgiven x List.mem_cons_self)
    have hall : (s.step x).2.registry.All Classifier.IsNominal :=
      all_step Classifier.isNominal_native hs fun c hx _ => hgiven x List.mem_cons_self c hx
    obtain ⟨hout, hlast⟩ := ih hall fun z hz => hgiven z (List.mem_cons_of_mem x hz)
    rw [run_cons, run_cons, List.map_cons, List.map_cons, hnext, ha, hc, hout]
    exact ⟨rfl, hlast⟩

end Session

/-! ### Names and absence -/

variable {v given : Value} {es : List String}

/-- A value that is there is admitted by its name alone. -/
theorem admits_iff_of_ne_none (hv : v ≠ .none) :
    Admits es v given ↔ ∃ e ∈ es, given.equals (Entry.parse e).name = true := by
  have habsent : v.isAbsent = false := by
    rw [← Bool.not_eq_true, v.isAbsent_iff]
    exact hv
  rw [admits_iff_exists]
  refine exists_congr fun e => and_congr_right fun _ => ?_
  rw [← Entry.accepts_parse_iff, Entry.accepts, habsent, Bool.and_false, Bool.or_false]

/-- The absence value is admitted by an optional entry, whatever its name. -/
theorem admits_none {e : String} (he : e ∈ es) (hm : Marked e) (given : Value) :
    Admits es .none given :=
  Or.inr (Or.inr ⟨rfl, e, he, hm⟩)

namespace Session

/-- **Values that are alike cannot be told apart.**  Exchanging the values that are checked for
others of the same type names, absent where they are, leaves all answers, calls and states of a
session as they were.  A value that is there is accepted by its name alone, also by an optional
entry and also where a name is that of the absence value's type; the absence value is accepted by
every optional entry, whatever the classifier calls it. -/
theorem checks_are_nominal [SettingsLibrary] (s : Session) :
    (s.registry.All Classifier.IsNominal → ∀ xs ys, List.Forall₂ Step.Alike xs ys →
      (∀ x ∈ xs, ∀ c ∈ x.action.given?, c.IsNominal) →
      (s.run ys).1.map (fun o => (o.answer, o.calls))
          = (s.run xs).1.map (fun o => (o.answer, o.calls)) ∧
        ∀ n, (s.run (ys.take n)).2 = (s.run (xs.take n)).2) ∧
    ∀ t c v given, s.classifierOf t = .ok c →
      (c.ask s.registry.ambient s.history v).outcome = .ok given →
      -- a value that is there
      (v ≠ .none →
        (∀ entry name, entry.text? = some (name ++ "?") →
          (s.ask t (.acceptsEntry entry v)).outcome
              = .ok (.truth (given.equals name)) ∧
            ((s.ask t (.assertEntry entry v)).outcome = .ok .done ↔ given.equals name = true)) ∧
        ∀ d es, d.entryTexts = .ok es →
          (s.ask t (.accepts d v)).outcome
              = .ok (.truth (es.any fun e => given.equals (Entry.parse e).name)) ∧
            ((s.ask t (.check d v)).outcome = .ok .done ↔
              ∃ e ∈ es, given.equals (Entry.parse e).name = true)) ∧
      -- the absence value
      (v = .none → ∀ d es, d.entryTexts = .ok es → (∃ e ∈ es, Marked e) →
        (s.ask t (.accepts d v)).outcome = .ok (.truth true) ∧
          (s.ask t (.check d v)).outcome = .ok .done) := by
  refine ⟨fun hs xs ys h hgiven => ⟨(run_of_alike hs h hgiven).1, fun n => ?_⟩,
    fun t c v given hc ha => ⟨fun hv => ⟨fun entry name he => ?_, fun d es hd => ?_⟩, ?_⟩⟩
  · exact (run_of_alike hs (List.forall₂_take n h) fun x hx => hgiven x (List.mem_of_mem_take hx)).2
  · obtain ⟨htold, hraised⟩ := entry_outcomes hc ha he
    have hname : Admits [name ++ "?"] v given ↔ given.equals name = true := by
      simp only [admits_iff_of_ne_none hv, List.mem_singleton, exists_eq_left,
        Entry.parse_append_marker]
    have hone : decide (Admits [name ++ "?"] v given) = given.equals name := by
      rw [Bool.eq_iff_iff, decide_eq_true_eq, hname]
    rw [htold, hraised, hone]
    exact ⟨rfl, hname⟩
  · obtain ⟨htold, hraised⟩ := descriptor_outcomes hc ha hd
    have hany : decide (Admits es v given)
        = es.any fun e => given.equals (Entry.parse e).name := by
      rw [Bool.eq_iff_iff, decide_eq_true_eq, List.any_eq_true, admits_iff_of_ne_none hv]
    rw [htold, hraised, hany]
    exact ⟨rfl, admits_iff_of_ne_none hv⟩
  · rintro rfl d es hd ⟨e, he, hm⟩
    obtain ⟨htold, hraised⟩ := descriptor_outcomes hc ha hd
    have hadmits : Admits es .none given := admits_none he hm _
    rw [htold, decide_eq_true hadmits]
    exact ⟨rfl, hraised.mpr hadmits⟩

/-- A true value, and an empty one of a user's type that has the name of the type of truth values:
under a shared classifier that answers in turn both are refused first and accepted then.  A value
of a user's type with the name of the absence value's type is refused by an optional entry. -/
theorem namesakes_are_not_told_apart :
    let c : Classifier := .ruled (.named "turns") (.sequence [.text "str", .text "bool"])
    let namesake : Value := .subclass "bool" (.sequence .list [])
    let ask (v : Value) : Step := { action := .ask .ambient (.accepts (.text "bool?") v) }
    let xs : List Step := [{ action := .edit (.setAmbient c) }, ask (.bool true), ask (.bool true)]
    let ys : List Step := [{ action := .edit (.setAmbient c) }, ask namesake, ask (.bool false)]
    let s : Session := {}
    (s.run ys).1.map (fun o => (o.answer, o.calls))
        = (s.run xs).1.map (fun o => (o.answer, o.calls)) ∧
      (s.run ys).2 = (s.run xs).2 ∧
      (s.ask .ambient (.acceptsEntry (.text "int?") (.subclass "NoneType" (.text "")))).outcome
        = .ok (.truth false) ∧
      (s.ask .ambient (.check (.text "int?") .none)).outcome = .ok .done := by
  intro c namesake ask xs ys s
  have hs : s.registry.All Classifier.IsNominal := Registry.All.initial Classifier.isNominal_native
  have halike : ∀ {v w : Value}, v.Alike w → (ask v).Alike (ask w) := fun h =>
    ⟨.asked .ambient (q := .accepts (.text "bool?") _) h, rfl, rfl⟩
  have hsteps : List.Forall₂ Step.Alike xs ys :=
    .cons (.refl _) (.cons (halike ⟨rfl, rfl⟩) (.cons (halike ⟨rfl, rfl⟩) .nil))
  have hgiven : ∀ x ∈ xs, ∀ d ∈ x.action.given?, d.IsNominal := by
    intro x hx d hd
    simp only [xs, List.mem_cons, List.not_mem_nil, or_false] at hx
    rcases hx with rfl | rfl | rfl <;> cases hd
    exact trivial
  obtain ⟨hrun, hname⟩ := checks_are_nominal s
  obtain ⟨hout, hstates⟩ := hrun hs xs ys hsteps hgiven
  have hpresent := (hname .ambient .native (.subclass "NoneType" (.text "")) (.text "NoneType")
    rfl rfl).1 (fun h => nomatch h)
  have habsent := (hname .ambient .native .none (.text "NoneType") rfl rfl).2 rfl (.text "int?")
    ["int?"] rfl ⟨"int?", List.mem_cons_self, "int", rfl⟩
  exact ⟨hout, hstates 3, (hpresent.1 (.text "int?") "int" rfl).1, habsent.2⟩

end Session

end NominalCheck
