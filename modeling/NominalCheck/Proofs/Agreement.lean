import Mathlib.Logic.ExistsUnique
import NominalCheck.Proofs.Questions

/-!
# The forms of a check agree

A value is put to a descriptor or to a single entry, and the answer is told as a truth value or
raised as a fault.  These are four ways of saying one verdict: the state after them is the same,
and so is the verdict, so that no form accepts what another one refuses.

## Main definitions

* `Session.verdict` — the verdict of a target on a value, from what is read.
* `Session.Fails` — why there is none.

## Main results

* `Session.forms_agree` — **the four forms say one verdict**, and a list says the disjunction of its
  entries.
-/

namespace NominalCheck

namespace Session

/-- The verdict of a target on a value, from the entry texts as far as they are read. -/
def verdict (s : Session) (t : Target) (texts : Except Fault (List String)) (v : Value) : Verdict :=
  match s.classifierOf t with
  | .error f => .failed f
  | .ok c => match texts with
    | .error f => .failed f
    | .ok es => match (c.ask s.registry.ambient s.history v).outcome with
      | .error f => .failed f
      | .ok given => judge es v given

/-- Why a target fails on a value: there is no such target, there is nothing to read, or the
classifier fails. -/
def Fails (s : Session) (t : Target) (texts : Except Fault (List String)) (v : Value) (f : Fault) :
    Prop :=
  s.classifierOf t = .error f ∨ ∃ c, s.classifierOf t = .ok c ∧
    (texts = .error f ∨ ∃ es, texts = .ok es ∧
      (c.ask s.registry.ambient s.history v).outcome = .error f)

variable {s : Session} {t : Target} {v : Value} {c : Classifier} {es : List String}

theorem verdict_of_missing {f : Fault} (hc : s.classifierOf t = .error f)
    (texts : Except Fault (List String)) : s.verdict t texts v = .failed f := by
  rw [verdict, hc]

theorem verdict_of_unreadable (hc : s.classifierOf t = .ok c) (f : Fault) :
    s.verdict t (.error f) v = .failed f := by
  rw [verdict, hc]

theorem verdict_of_fault (hc : s.classifierOf t = .ok c) {f : Fault}
    (ha : (c.ask s.registry.ambient s.history v).outcome = .error f) :
    s.verdict t (.ok es) v = .failed f := by
  rw [verdict, hc]
  dsimp only
  rw [ha]

theorem verdict_of_answer (hc : s.classifierOf t = .ok c) {given : Value}
    (ha : (c.ask s.registry.ambient s.history v).outcome = .ok given) :
    s.verdict t (.ok es) v = judge es v given := by
  rw [verdict, hc]
  dsimp only
  rw [ha]

theorem fails_of_verdict {texts : Except Fault (List String)} {f : Fault}
    (h : s.verdict t texts v = .failed f) : s.Fails t texts v f := by
  cases hc : s.classifierOf t with
  | error g =>
    rw [verdict_of_missing hc] at h
    cases h
    exact Or.inl hc
  | ok c =>
    refine Or.inr ⟨c, hc, ?_⟩
    cases texts with
    | error g =>
      rw [verdict_of_unreadable hc] at h
      cases h
      exact Or.inl rfl
    | ok es =>
      refine Or.inr ⟨es, rfl, ?_⟩
      cases ha : (c.ask s.registry.ambient s.history v).outcome with
      | error g =>
        rw [verdict_of_fault hc ha] at h
        cases h
        rfl
      | ok given =>
        rw [verdict_of_answer hc ha, judge] at h
        split at h <;> cases h

/-- What a target is asked is its verdict, in the form that the question has. -/
theorem outcome_ask {q : Question} {form : Verdict → Except Fault Reply}
    (hfail : ∀ f, form (.failed f) = .error f)
    (hform : ∀ es given, q.texts = .ok es → q.conclude es given = form (judge es q.value given)) :
    (s.ask t q).outcome = form (s.verdict t q.texts q.value) := by
  cases hc : s.classifierOf t with
  | error f =>
    rw [ask_of_missing hc, verdict_of_missing hc, hfail]
    rfl
  | ok c =>
    cases ht : q.texts with
    | error f => rw [(ask_of_unreadable hc ht).1, verdict_of_unreadable hc, hfail]
    | ok es =>
      rw [outcome_ask_of_ok hc ht]
      cases ha : (c.ask s.registry.ambient s.history q.value).outcome with
      | error f =>
        rw [verdict_of_fault hc ha, hfail]
        rfl
      | ok given =>
        rw [verdict_of_answer hc ha]
        exact hform es given ht

theorem outcome_accepts (d : Value) :
    (s.ask t (.accepts d v)).outcome = (s.verdict t d.entryTexts v).told :=
  outcome_ask (q := .accepts d v) (fun _ => rfl) fun _ _ _ => rfl

theorem outcome_check {d : Value} {expected : String}
    (h : ∀ es, d.entryTexts = .ok es → "any of: " ++ ", ".intercalate es = expected) :
    (s.ask t (.check d v)).outcome = (s.verdict t d.entryTexts v).raised expected :=
  outcome_ask (q := .check d v) (fun _ => rfl) fun es given hes => by rw [← h es hes]; rfl

theorem outcome_acceptsEntry {entry : Value} {e : String} (he : entry.entryText = .ok e) :
    (s.ask t (.acceptsEntry entry v)).outcome = (s.verdict t (.ok [e]) v).told := by
  have ht : (Question.acceptsEntry entry v).texts = .ok [e] := by rw [Question.texts, he]; rfl
  rw [← ht]
  exact outcome_ask (q := .acceptsEntry entry v) (fun _ => rfl) fun _ _ _ => rfl

theorem outcome_assertEntry {entry : Value} {e : String} (he : entry.entryText = .ok e) :
    (s.ask t (.assertEntry entry v)).outcome = (s.verdict t (.ok [e]) v).raised e := by
  have ht : (Question.assertEntry entry v).texts = .ok [e] := by rw [Question.texts, he]; rfl
  rw [← ht]
  refine outcome_ask (q := .assertEntry entry v) (fun _ => rfl) fun es given hes => ?_
  rw [ht] at hes
  cases hes
  rfl

/-- Questions that read the same and are about one value make the same calls. -/
theorem calls_ask_congr {q q' : Question} (ht : q.texts = q'.texts) (hv : q.value = q'.value) :
    (s.ask t q).calls = (s.ask t q').calls := by
  cases hc : s.classifierOf t with
  | error f => rw [ask_of_missing hc, ask_of_missing hc]
  | ok c =>
    cases h : q.texts with
    | error f => rw [(ask_of_unreadable hc h).2, (ask_of_unreadable hc (ht ▸ h)).2]
    | ok es => rw [calls_ask_of_ok hc h, calls_ask_of_ok hc (ht ▸ h), hv]

/-- They leave the same state. -/
theorem act_ask_congr [SettingsLibrary]
    {q q' : Question} (ht : q.texts = q'.texts) (hv : q.value = q'.value) :
    (s.act (.ask t q)).2 = (s.act (.ask t q')).2 :=
  congrArg (fun calls => { s with history := s.history ++ calls }) (calls_ask_congr ht hv)

/-! ### Descriptors that are made of texts -/

theorem textsOf_of_texts {l : List Value} (h : ∀ entry ∈ l, entry.text?.isSome) :
    textsOf l = .ok (l.filterMap Value.text?) := by
  induction l with
  | nil => rfl
  | cons entry l ih =>
    obtain ⟨e, he⟩ := Option.isSome_iff_exists.mp (h entry List.mem_cons_self)
    rw [textsOf, he, ih fun x hx => h x (List.mem_cons_of_mem entry hx),
      List.filterMap_cons_some he]
    rfl

theorem entryTexts_list {l : List Value} (h : ∀ entry ∈ l, entry.text?.isSome) :
    (Value.sequence .list l).entryTexts = .ok (l.filterMap Value.text?) := textsOf_of_texts h

theorem entryTexts_of_text? {entry : Value} {e : String} (he : entry.text? = some e) :
    entry.entryTexts = .ok [e] := by
  unfold Value.entryTexts
  rw [he]

theorem entryText_of_text? {entry : Value} {e : String} (he : entry.text? = some e) :
    entry.entryText = .ok e := by
  rw [Value.entryText, Value.spelled?_of_text? he]

theorem entryTexts_singleton {entry : Value} {e : String} (he : entry.text? = some e) :
    (Value.sequence .list [entry]).entryTexts = .ok [e] := by
  have hl : ∀ x ∈ [entry], x.text?.isSome := by
    intro x hx
    rw [List.mem_singleton.mp hx, he]
    rfl
  rw [entryTexts_list hl, List.filterMap_cons_some he, List.filterMap_nil]

/-- Whether a single entry admits a value, where it is a text. -/
def admitsAlone (v given entry : Value) : Bool :=
  entry.text?.any fun e => Admits [e] v given

theorem admits_filterMap_iff {l : List Value} {given : Value} :
    Admits (l.filterMap Value.text?) v given ↔ l.any (admitsAlone v given) = true := by
  rw [admits_iff_exists, List.any_eq_true]
  simp only [List.mem_filterMap, admitsAlone, Option.any_eq_true, decide_eq_true_eq]
  constructor
  · rintro ⟨e, ⟨entry, hl, he⟩, ha⟩
    exact ⟨entry, hl, e, he, ha⟩
  · rintro ⟨entry, hl, e, he, ha⟩
    exact ⟨e, ⟨entry, hl, he⟩, ha⟩

/-! ### The forms -/

/-- The two forms on a descriptor. -/
theorem descriptor_forms_agree (s : Session) (t : Target) (d v : Value) :
    ∃! w : Verdict, (s.ask t (.accepts d v)).outcome = w.told ∧
      (∃ expected, (s.ask t (.check d v)).outcome = w.raised expected) ∧
      ∀ f, w = .failed f → s.Fails t d.entryTexts v f := by
  -- the expected text is that of the entries, and any text where there are none to be read
  have hex : ∃ expected, ∀ es, d.entryTexts = .ok es →
      "any of: " ++ ", ".intercalate es = expected := by
    cases d.entryTexts with
    | error f => exact ⟨"", fun es h => nomatch h⟩
    | ok es => exact ⟨_, fun es' h => by cases h; rfl⟩
  obtain ⟨expected, hexp⟩ := hex
  have hcheck := outcome_check (s := s) (t := t) (v := v) hexp
  refine ⟨s.verdict t d.entryTexts v,
    ⟨outcome_accepts d, ⟨expected, hcheck⟩, fun f => fails_of_verdict⟩, ?_⟩
  rintro w ⟨htold, ⟨x, hraised⟩, -⟩
  have hw : w.told = (s.verdict t d.entryTexts v).told := htold.symm.trans (outcome_accepts d)
  exact Verdict.eq_of_told_of_raised hw (hraised.symm.trans hcheck)

/-- The forms on a single entry, alone or in a list. -/
theorem entry_forms_agree (s : Session) (t : Target) (v : Value) {entry : Value} {e : String}
    (he : entry.text? = some e) :
    ∃! w : Verdict, (s.ask t (.acceptsEntry entry v)).outcome = w.told ∧
      (s.ask t (.assertEntry entry v)).outcome = w.raised e ∧
      (s.ask t (.accepts entry v)).outcome = w.told ∧
      (s.ask t (.check entry v)).outcome = w.raised ("any of: " ++ e) ∧
      (s.ask t (.check (.sequence .list [entry]) v)).outcome = w.raised ("any of: " ++ e) ∧
      ∀ f, w = .failed f → s.Fails t (.ok [e]) v f := by
  have hentry := entryText_of_text? he
  have halone := entryTexts_of_text? he
  have hlist := entryTexts_singleton he
  have hexp : ∀ d : Value, d.entryTexts = .ok [e] → ∀ es, d.entryTexts = .ok es →
      "any of: " ++ ", ".intercalate es = "any of: " ++ e := by
    intro d hd es hes
    rw [hd] at hes
    cases hes
    rfl
  have htold := outcome_acceptsEntry (s := s) (t := t) (v := v) hentry
  have hraised := outcome_assertEntry (s := s) (t := t) (v := v) hentry
  refine ⟨s.verdict t (.ok [e]) v, ⟨htold, hraised, ?_, ?_, ?_, fun f => fails_of_verdict⟩, ?_⟩
  · rw [outcome_accepts, halone]
  · rw [outcome_check (hexp _ halone), halone]
  · rw [outcome_check (hexp _ hlist), hlist]
  · rintro w ⟨h, h', -⟩
    exact Verdict.eq_of_told_of_raised (h.symm.trans htold) (h'.symm.trans hraised)

theorem act_entry_forms [SettingsLibrary]
    (s : Session) (t : Target) (v : Value) {entry : Value} {e : String}
    (he : entry.text? = some e) {q : Question}
    (hq : q ∈ [Question.acceptsEntry entry v, .check entry v, .check (.sequence .list [entry]) v,
      .accepts entry v]) :
    (s.act (.ask t q)).2 = (s.act (.ask t (.assertEntry entry v))).2 := by
  have hentry : entry.entryText.map ([·]) = .ok [e] := by rw [entryText_of_text? he]; rfl
  have hlist := entryTexts_singleton he
  simp only [List.mem_cons, List.not_mem_nil, or_false] at hq
  rcases hq with rfl | rfl | rfl | rfl
  · exact act_ask_congr rfl rfl
  · exact act_ask_congr ((entryTexts_of_text? he).trans hentry.symm) rfl
  · exact act_ask_congr (hlist.trans hentry.symm) rfl
  · exact act_ask_congr ((entryTexts_of_text? he).trans hentry.symm) rfl

/-- The two forms on a descriptor, where the classifier has answered. -/
theorem descriptor_outcomes {given : Value} (hc : s.classifierOf t = .ok c)
    (ha : (c.ask s.registry.ambient s.history v).outcome = .ok given) {d : Value}
    (hd : d.entryTexts = .ok es) :
    (s.ask t (.accepts d v)).outcome = .ok (.truth (decide (Admits es v given))) ∧
      ((s.ask t (.check d v)).outcome = .ok .done ↔ Admits es v given) := by
  rw [outcome_ask_of_answer (q := .accepts d v) hc hd ha,
    outcome_ask_of_answer (q := .check d v) hc hd ha, Question.conclude, Question.conclude,
    told_judge, raised_judge_eq_ok_iff]
  exact ⟨rfl, and_iff_left rfl⟩

/-- The two forms on a single entry. -/
theorem entry_outcomes {given : Value} (hc : s.classifierOf t = .ok c)
    (ha : (c.ask s.registry.ambient s.history v).outcome = .ok given) {entry : Value} {e : String}
    (he : entry.text? = some e) :
    (s.ask t (.acceptsEntry entry v)).outcome
        = .ok (.truth (decide (Admits [e] v given))) ∧
      ((s.ask t (.assertEntry entry v)).outcome = .ok .done ↔ Admits [e] v given) := by
  have htexts : entry.entryText.map ([·]) = .ok [e] :=
    congrArg (Except.map ([·])) (entryText_of_text? he)
  rw [outcome_ask_of_answer (q := .acceptsEntry entry v) hc htexts ha,
    outcome_ask_of_answer (q := .assertEntry entry v) hc htexts ha, Question.conclude,
    Question.conclude, told_judge, raised_judge_eq_ok_iff]
  exact ⟨rfl, and_iff_left rfl⟩

theorem outcome_acceptsEntry_of_answer {given entry : Value} (hc : s.classifierOf t = .ok c)
    (ha : (c.ask s.registry.ambient s.history v).outcome = .ok given) (he : entry.text?.isSome) :
    (s.ask t (.acceptsEntry entry v)).outcome = .ok (.truth (admitsAlone v given entry)) := by
  obtain ⟨e, he⟩ := Option.isSome_iff_exists.mp he
  rw [outcome_acceptsEntry (entryText_of_text? he), verdict_of_answer hc ha, told_judge,
    admitsAlone, he, Option.any_some]

/-- A list accepts what one of its entries accepts alone. -/
theorem outcome_accepts_list {given : Value} {l : List Value} (hc : s.classifierOf t = .ok c)
    (ha : (c.ask s.registry.ambient s.history v).outcome = .ok given)
    (hl : ∀ entry ∈ l, entry.text?.isSome) :
    (s.ask t (.accepts (.sequence .list l) v)).outcome
      = .ok (.truth (l.any (admitsAlone v given))) := by
  rw [outcome_accepts, entryTexts_list hl, verdict_of_answer hc ha, told_judge]
  refine congrArg (fun b => Except.ok (Reply.truth b)) ?_
  rw [Bool.eq_iff_iff, decide_eq_true_eq, admits_filterMap_iff]

/-- **The four forms say one verdict.**  On a descriptor as on a single entry they leave the same
state, and a mismatch that is raised is the only difference from the answer no.  Where the
classifier answers the same at each call, a list says the disjunction of its entries, so that their
order and repetition change nothing. -/
theorem forms_agree [SettingsLibrary] (s : Session) (t : Target) (v : Value) :
    -- on any descriptor
    (∀ d, (s.act (.ask t (.check d v))).2 = (s.act (.ask t (.accepts d v))).2 ∧
      ∃! w : Verdict, (s.ask t (.accepts d v)).outcome = w.told ∧
        (∃ expected, (s.ask t (.check d v)).outcome = w.raised expected) ∧
        ∀ f, w = .failed f → s.Fails t d.entryTexts v f) ∧
    -- on a single entry
    (∀ entry e, entry.text? = some e →
      (∀ q ∈ [Question.acceptsEntry entry v, .check entry v, .check (.sequence .list [entry]) v,
          .accepts entry v],
        (s.act (.ask t q)).2 = (s.act (.ask t (.assertEntry entry v))).2) ∧
      ∃! w : Verdict, (s.ask t (.acceptsEntry entry v)).outcome = w.told ∧
        (s.ask t (.assertEntry entry v)).outcome = w.raised e ∧
        (s.ask t (.accepts entry v)).outcome = w.told ∧
        (s.ask t (.check entry v)).outcome = w.raised ("any of: " ++ e) ∧
        (s.ask t (.check (.sequence .list [entry]) v)).outcome = w.raised ("any of: " ++ e) ∧
        ∀ f, w = .failed f → s.Fails t (.ok [e]) v f) ∧
    -- on a list of entries
    (∀ c given, s.classifierOf t = .ok c →
      (∀ history, (c.ask s.registry.ambient history v).outcome = .ok given) →
      ∃ alone : Value → Bool,
        (∀ entry, entry.text?.isSome → ∀ s' : Session, s'.registry = s.registry →
          (s'.ask t (.acceptsEntry entry v)).outcome = .ok (.truth (alone entry))) ∧
        ∀ l : List Value, (∀ entry ∈ l, entry.text?.isSome) →
          (s.ask t (.accepts (.sequence .list l) v)).outcome = .ok (.truth (l.any alone)) ∧
          ∀ l' : List Value, (∀ entry, entry ∈ l' ↔ entry ∈ l) →
            (s.ask t (.accepts (.sequence .list l') v)).outcome
              = (s.ask t (.accepts (.sequence .list l) v)).outcome) := by
  refine ⟨fun d => ⟨act_ask_congr rfl rfl, descriptor_forms_agree s t d v⟩,
    fun entry e he => ⟨fun q hq => act_entry_forms s t v he hq, entry_forms_agree s t v he⟩, ?_⟩
  intro c given hc hgiven
  refine ⟨admitsAlone v given, fun entry he s' hs => ?_, fun l hl => ?_⟩
  · have hc' : s'.classifierOf t = .ok c := by
      rw [← hc]
      cases t <;> simp only [classifierOf, hs]
    exact outcome_acceptsEntry_of_answer hc' (by rw [hs]; exact hgiven _) he
  · have houtcome := outcome_accepts_list hc (hgiven _) hl
    refine ⟨houtcome, fun l' hmem => ?_⟩
    have hl' : ∀ entry ∈ l', entry.text?.isSome := fun entry h => hl entry ((hmem entry).mp h)
    have hany : l'.any (admitsAlone v given) = l.any (admitsAlone v given) := by
      rw [Bool.eq_iff_iff, List.any_eq_true, List.any_eq_true]
      simp only [hmem]
    rw [houtcome, outcome_accepts_list hc (hgiven _) hl', hany]

/-- A list with an entry twice: an absent value passes by the marked entry alone, so the list
accepts it, and so does the list in another order without the repetition. -/
theorem list_accepts_by_marked_entry :
    let c : Classifier := .ruled (.inline 0) (.const (.text "NoneType"))
    let s : Session := {}
    let l : List Value := [.text "str", .text "int?", .text "str"]
    let l' : List Value := [.text "int?", .text "str"]
    (s.ask (.fresh c) (.acceptsEntry (.text "int?") .none)).outcome = .ok (.truth true) ∧
      (s.ask (.fresh c) (.accepts (.sequence .list l) .none)).outcome = .ok (.truth true) ∧
      (s.ask (.fresh c) (.accepts (.sequence .list l') .none)).outcome = .ok (.truth true) := by
  intro c s l l'
  obtain ⟨alone, halone, hlist⟩ :=
    (forms_agree s (.fresh c) .none).2.2 c (.text "NoneType") rfl fun _ => rfl
  have hmarked := halone (.text "int?") rfl s rfl
  have hverdict : (s.ask (.fresh c) (.acceptsEntry (.text "int?") .none)).outcome
      = .ok (.truth true) := rfl
  have htrue : alone (.text "int?") = true :=
    Reply.truth.inj (Except.ok.inj (hmarked.symm.trans hverdict))
  obtain ⟨hl, hreorder⟩ := hlist l (by decide)
  have hany : l.any alone = true :=
    List.any_eq_true.mpr ⟨.text "int?", List.mem_cons_of_mem _ List.mem_cons_self, htrue⟩
  have hl' := hreorder l' fun entry => by
    simp only [l, l', List.mem_cons, List.not_mem_nil, or_false]
    grind
  rw [hany] at hl
  exact ⟨hverdict, hl, hl'.trans hl⟩

end Session

end NominalCheck
