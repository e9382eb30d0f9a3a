import NominalCheck.Proofs.Custody

/-!
# Classifiers that ask in turn

A nested classifier answers with the verdict of another check, the process-wide one of the moment.
A question to it is therefore two runs, one within the other, on one history of calls.  The inner
run is taken for granted here, as the run of a question that anybody could have asked, and the outer
one is told from it: its failure is the failure of both, and from its verdict the outer question
goes on as under a constant classifier.

## Main definitions

* `Session.during` — a session while a classifier is at work.
* `Session.innerCheck` — the check that a nested classifier runs.
* `Session.Echoes` — a question is answered by way of an inner run.

## Main results

* `Classifier.ask_nested` — a nested classifier notes its call, runs the check, and tells the
  verdict.
* `Session.echoes_innerCheck` — a question to it is answered by way of that check.
* `Session.nested_question_echoes_inner_check` — **it is answered by the inner check alone**, under
  the process-wide classifier in force when it is asked.
-/

namespace NominalCheck

/-! ### The inner run -/

/-- A classifier that asks no other answers alike in every place. -/
theorem Classifier.ask_of_isDirect {c : Classifier} (hc : c.IsDirect) (ambient : Classifier)
    (history : List Handle) (v : Value) :
    c.ask ambient history v = c.askAmbient history v := by
  cases c with
  | nested h d => exact hc.elim
  | _ => rfl

/-- A classifier does not count the calls of another. -/
theorem Classifier.askAmbient_concat_of_ne {c : Classifier} (hc : c.IsDirect) {h : Handle}
    (hne : c.handle? ≠ some h) (history : List Handle) (v : Value) :
    c.askAmbient (history ++ [h]) v = c.askAmbient history v := by
  cases c with
  | ruled g rule =>
    have hgh : ¬ h = g := fun hgh => hne (congrArg some hgh.symm)
    simp [askAmbient, List.count_append, hgh]
  | nested g d => exact hc.elim
  | _ => rfl

/-- A nested classifier notes its call, runs the check of the process-wide checker, and tells the
verdict. -/
theorem Classifier.ask_nested {c : Classifier} (hc : c.IsDirect) (h : Handle) (d : Value)
    (history : List Handle) (v : Value) :
    (Classifier.nested h d).ask c history v =
      Run.call h >>= fun _ =>
        Checker.accepts { classifier := c, ambient := c, history := history ++ [h] } d v >>=
          fun b => pure (verdict b) := by
  have hclassify : c.askAmbient (history ++ [h]) v = c.ask c (history ++ [h]) v :=
    (ask_of_isDirect hc c _ v).symm
  simp only [Classifier.ask, Checker.accepts, Checker.classify, bind_assoc, hclassify]

namespace Session

variable {s : Session} {t : Target} {q : Question} {h : Handle} {d : Value} {es : List String}

/-- The session while a classifier is at work: its call is noted, and its answer is not there. -/
def during (s : Session) (h : Handle) : Session :=
  { s with history := s.history ++ [h] }

/-- The check that a nested classifier runs: the process-wide predicate, while it is at work. -/
def innerCheck (s : Session) (h : Handle) (d v : Value) : Run Reply :=
  (s.during h).ask .ambient (.accepts d v)

/-- The question `q`, which reads `es`, is answered by way of the run `inner`. -/
structure Echoes (s : Session) (t : Target) (q : Question) (es : List String) (h : Handle)
    (inner : Run Reply) : Prop where
  /-- The target's classifier is called, and then what the inner run calls. -/
  calls : (s.ask t q).calls = h :: inner.calls
  /-- A failure of the inner run is the failure of both, and nothing is told after it. -/
  fails : ∀ f, inner.outcome = .error f →
    (s.ask t q).outcome = .error f ∧ (s.ask t q).events = q.opening.events ++ inner.events
  /-- From its verdict the question goes on as under the constant classifier of the verdict, in
  whatever session that is asked; the inner events are one block behind the opening. -/
  answers : ∀ b, inner.outcome = .ok (.truth b) → ∀ (s₀ : Session) (g : Handle),
    let plain := s₀.ask (.fresh (.ruled g (.const (Classifier.verdict b)))) q
    let after := q.trace es (Classifier.verdict b)
    (s.ask t q).outcome = plain.outcome ∧
      plain.events = q.opening.events ++ after ∧
      (s.ask t q).events = q.opening.events ++ inner.events ++ after

theorem ask_fresh_const (s₀ : Session) (g : Handle) (answer : Value) (hq : q.texts = .ok es) :
    s₀.ask (.fresh (.ruled g (.const answer))) q =
      { outcome := q.conclude es answer, calls := [g],
        events := q.opening.events ++ q.trace es answer } := by
  have hc : s₀.classifierOf (.fresh (.ruled g (.const answer))) = .ok (.ruled g (.const answer)) :=
    vetConfig_of_isCallable rfl
  rw [ask_of_ok hc, Question.run_eq, hq, Run.ofExcept_ok_bind]
  cases q <;> rfl

/-- A question to a nested classifier, once it is read: the check comes in the place of the answer,
and its verdict is concluded from. -/
theorem ask_nested (ht : s.classifierOf t = .ok (.nested h d)) (hc : s.registry.ambient.IsDirect)
    (hq : q.texts = .ok es) :
    s.ask t q = q.opening >>= fun _ => Run.call h >>= fun _ =>
      ((s.during h).checkerOf s.registry.ambient).accepts d q.value >>= fun b =>
        q.finish es (Classifier.verdict b) := by
  have hclassify : (s.checkerOf (.nested h d)).classify q.value = Run.call h >>= fun _ =>
      ((s.during h).checkerOf s.registry.ambient).accepts d q.value >>= fun b =>
        pure (Classifier.verdict b) :=
    Classifier.ask_nested hc h d s.history q.value
  rw [ask_of_ok ht, Question.run_eq, hq, Run.ofExcept_ok_bind, hclassify]
  simp only [bind_assoc, pure_bind]

theorem echoes_innerCheck (ht : s.classifierOf t = .ok (.nested h d))
    (hc : s.registry.ambient.IsDirect) (hq : q.texts = .ok es) :
    s.Echoes t q es h (s.innerCheck h d q.value) := by
  have hask := ask_nested ht hc hq
  have hinner : s.innerCheck h d q.value =
      ((s.during h).checkerOf s.registry.ambient).accepts d q.value >>= fun b =>
        pure (Reply.truth b) := rfl
  rw [hinner]
  -- what follows looks at the inner run as a whole, and never into it
  generalize ((s.during h).checkerOf s.registry.ambient).accepts d q.value = r at hask
  cases hr : r.outcome with
  | error f =>
    have houter : s.ask t q =
        { outcome := .error f, calls := h :: r.calls,
          events := q.opening.events ++ r.events } := by
      rw [hask, Question.opening_bind, Run.bind_of_error hr]
      rfl
    rw [Run.bind_of_error hr]
    constructor
    case calls => rw [houter]
    case fails =>
      rintro g ⟨⟩
      rw [houter]
      exact ⟨rfl, rfl⟩
    case answers =>
      intro b hb
      cases hb
  | ok b =>
    have houter : s.ask t q =
        { outcome := q.conclude es (Classifier.verdict b), calls := h :: r.calls,
          events := q.opening.events ++ (r.events ++ q.trace es (Classifier.verdict b)) } := by
      rw [hask, Question.opening_bind, Run.bind_of_ok hr, Run.bind_of_ok rfl]
      simp [Run.call, Question.finish]
    have hverdict : (r >>= fun b => pure (Reply.truth b)) =
        { outcome := .ok (.truth b), calls := r.calls, events := r.events } := by
      rw [Run.bind_of_ok hr, Run.pure_eq, List.append_nil, List.append_nil]
    rw [hverdict]
    constructor
    case calls => rw [houter]
    case fails =>
      intro f hf
      cases hf
    case answers =>
      rintro b' ⟨⟩ s₀ g
      rw [ask_fresh_const s₀ g _ hq, houter]
      exact ⟨rfl, rfl, (List.append_assoc _ _ _).symm⟩

/-! ### What the inner check comes to -/

theorem innerCheck_of_unreadable {f : Fault} (hd : d.entryTexts = .error f) (v : Value) :
    (s.innerCheck h d v).outcome = .error f ∧ (s.innerCheck h d v).calls = [] :=
  ask_of_unreadable (c := s.registry.ambient) (q := .accepts d v) rfl hd

/-- An inner check that can read its descriptor asks the process-wide classifier once, and fails
with it or tells whether its answer is admitted. -/
theorem innerCheck_of_ok (hc : s.registry.ambient.IsDirect) (hd : d.entryTexts = .ok es)
    (v : Value) :
    let answer := s.registry.ambient.askAmbient (s.history ++ [h]) v
    (s.innerCheck h d v).calls = s.registry.ambient.handle?.toList ∧
      (∀ f, answer.outcome = .error f → (s.innerCheck h d v).outcome = .error f) ∧
      ∀ given, answer.outcome = .ok given →
        (s.innerCheck h d v).outcome = .ok (.truth (decide (Admits es v given))) := by
  intro answer
  have hcalls := calls_ask_of_ok (s := s.during h) (c := s.registry.ambient) (t := .ambient)
    (q := .accepts d v) rfl hd
  have houtcome := outcome_ask_of_ok (s := s.during h) (c := s.registry.ambient) (t := .ambient)
    (q := .accepts d v) rfl hd
  rw [Classifier.calls_ask, Classifier.innerCalls_of_isDirect hc, List.append_nil] at hcalls
  change _ = (s.registry.ambient.ask s.registry.ambient (s.history ++ [h]) v).outcome >>= _
    at houtcome
  rw [Classifier.ask_of_isDirect hc] at houtcome
  refine ⟨hcalls, fun f hf => houtcome.trans ?_, fun given hg => houtcome.trans ?_⟩
  · rw [hf]
    rfl
  · rw [hg]
    exact told_judge es v given

theorem innerCheck_of_ne (hc : s.registry.ambient.IsDirect)
    (hne : s.registry.ambient.handle? ≠ some h) (v : Value) :
    s.innerCheck h d v = s.ask .ambient (.accepts d v) := by
  have hanswer : s.registry.ambient.ask s.registry.ambient (s.history ++ [h]) v =
      s.registry.ambient.ask s.registry.ambient s.history v := by
    rw [Classifier.ask_of_isDirect hc, Classifier.ask_of_isDirect hc]
    exact Classifier.askAmbient_concat_of_ne hc hne s.history v
  rw [innerCheck, ask_of_ok (c := s.registry.ambient) rfl, ask_of_ok (c := s.registry.ambient) rfl]
  exact Question.run_congr hanswer

/-! ### Replacing the process-wide classifier -/

/-- Who holds a nested classifier is not the process, and keeps it when the process gets another. -/
theorem classifierOf_of_replaced (ht : s.classifierOf t = .ok (.nested h d))
    (hc : s.registry.ambient.IsDirect) {s' : Session} {c' : Classifier}
    (hs' : s'.registry = { s.registry with ambient := c' }) :
    s'.classifierOf t = .ok (.nested h d) := by
  cases t with
  | ambient =>
    have hambient : s.registry.ambient = .nested h d := Except.ok.inj ht
    rw [hambient] at hc
    exact hc.elim
  | stored id =>
    -- who is stored stands in the other part of the registry
    change s'.registry.fetch id = _
    rw [hs']
    exact ht
  | fresh c => exact ht

theorem registry_run_ask_setAmbient [SettingsLibrary]
    (s : Session) (t : Target) (q : Question) {c' : Classifier}
    (hc' : c'.isCallable = true) (first swap : Step) :
    (s.run [{ first with action := .ask t q },
      { swap with action := .edit (.setAmbient c') }]).2.registry
        = { s.registry with ambient := c' } := by
  have hedit : s.registry.edit (.setAmbient c') =
      .ok (none, { s.registry with ambient := c' }) := by
    rw [Registry.edit, vet_of_isCallable hc']
    rfl
  rw [run_cons, run_cons, run_nil, state_step]
  -- the question that comes first leaves the registry as it is
  have hfirst : (s.step { first with action := .ask t q }).2.registry = s.registry := rfl
  generalize (s.step { first with action := .ask t q }).2 = s₁ at hfirst
  have hentered : (s₁.enter { swap with action := .edit (.setAmbient c') }).registry.edit
      (.setAmbient c') = .ok (none, { s.registry with ambient := c' }) := by
    rw [← hedit, ← hfirst]
    rfl
  rw [act_edit_of_ok hentered]

/-- **A question to a nested classifier is answered by the inner check alone.**  Where the question
cannot be read there is no inner check.  Else there is one, it is the process-wide predicate as
anybody could ask it, and what follows is its failure or goes on from its verdict.  After the
process has got another classifier, the same question is answered by way of that. -/
theorem nested_question_echoes_inner_check [SettingsLibrary]
    (ht : s.classifierOf t = .ok (.nested h d))
    (hc : s.registry.ambient.IsDirect) (q : Question) :
    (∀ f, q.texts = .error f →
      (s.ask t q).outcome = .error f ∧ (s.ask t q).calls = [] ∧
        (s.ask t q).events = q.opening.events ∧ (s.act (.ask t q)).2 = s) ∧
    (∀ es, q.texts = .ok es → s.Echoes t q es h (s.innerCheck h d q.value)) ∧
    (let inner := s.innerCheck h d q.value
      let answer := s.registry.ambient.askAmbient (s.history ++ [h]) q.value
      (s.registry.ambient.handle? ≠ some h → inner = s.ask .ambient (.accepts d q.value)) ∧
      (∀ f, d.entryTexts = .error f → inner.outcome = .error f ∧ inner.calls = []) ∧
      ∀ es, d.entryTexts = .ok es →
        inner.calls = s.registry.ambient.handle?.toList ∧
        (∀ f, answer.outcome = .error f → inner.outcome = .error f) ∧
        ∀ given, answer.outcome = .ok given →
          inner.outcome = .ok (.truth (decide (Admits es q.value given)))) ∧
    ∀ (c' : Classifier) (first swap : Step), c'.isCallable = true → c'.IsDirect →
      let s₂ := (s.run [{ first with action := .ask t q },
        { swap with action := .edit (.setAmbient c') }]).2
      s₂.classifierOf t = .ok (.nested h d) ∧ s₂.registry.ambient = c' ∧
      ∀ es, q.texts = .ok es →
        s₂.Echoes t q es h ((s₂.during h).ask (.fresh c') (.accepts d q.value)) := by
  refine ⟨fun f hq => ?_, fun es hq => echoes_innerCheck ht hc hq,
    ⟨fun hne => innerCheck_of_ne hc hne _, fun f hd => innerCheck_of_unreadable hd _,
      fun es hd => innerCheck_of_ok hc hd _⟩, ?_⟩
  · have hask : s.ask t q =
        { outcome := .error f, calls := [], events := q.opening.events ++ [] } := by
      rw [ask_of_ok ht, Question.run_eq, hq, Run.ofExcept_error_bind, Question.opening_bind]
      rfl
    rw [act, hask, List.append_nil, List.append_nil]
    exact ⟨rfl, rfl, rfl, rfl⟩
  · intro c' first swap hcallable hdirect s₂
    have hregistry : s₂.registry = { s.registry with ambient := c' } :=
      registry_run_ask_setAmbient s t q hcallable first swap
    have ht₂ : s₂.classifierOf t = .ok (.nested h d) := classifierOf_of_replaced ht hc hregistry
    have hambient : s₂.registry.ambient = c' := by rw [hregistry]
    refine ⟨ht₂, hambient, fun es hq => ?_⟩
    have hfresh : (s₂.during h).ask (.fresh c') (.accepts d q.value)
        = s₂.innerCheck h d q.value := by
      have hc₂ : (s₂.during h).classifierOf .ambient = .ok c' := congrArg Except.ok hambient
      have hnew : (s₂.during h).classifierOf (.fresh c') = .ok c' :=
        vetConfig_of_isCallable hcallable
      rw [innerCheck, ask_of_ok hc₂, ask_of_ok hnew]
    rw [hfresh]
    exact echoes_innerCheck ht₂ (hambient ▸ hdirect) hq

/-- A check that passes by one answer of a sequence, and fails by the same demand once the process
has a classifier that knows only texts. -/
theorem nested_check_before_and_after :
    let names : Classifier := .ruled (.named "names") (.sequence [.text "int", .text "float"])
    let texts : Classifier := .ruled (.named "texts") (.const (.text "str"))
    let s := (({} : Session).run [
      { action := .edit (.setAmbient names) },
      { action := .edit (.create "k" (some (.nested (.named "asks") (.text "int")))) }]).2
    let q : Question := .check (.text "yes") (.int 5)
    let s₂ := (s.run [
      { action := .ask (.stored "k") q },
      { action := .edit (.setAmbient texts) }]).2
    s.classifierOf (.stored "k") = .ok (.nested (.named "asks") (.text "int")) ∧
      s.registry.ambient.IsDirect ∧ texts.isCallable = true ∧ texts.IsDirect ∧
      (s.ask (.stored "k") q).outcome = .ok .done ∧
      (s.ask (.stored "k") q).calls = [.named "asks", .named "names"] ∧
      (s₂.ask (.stored "k") q).outcome = .error (.mismatch "any of: yes" (.text "no")) := by
  intro names texts s q s₂
  have ht : s.classifierOf (.stored "k") = .ok (.nested (.named "asks") (.text "int")) := rfl
  have hc : s.registry.ambient.IsDirect := trivial
  have hq : q.texts = .ok ["yes"] := rfl
  have hcallable : texts.isCallable = true := rfl
  have hdirect : texts.IsDirect := trivial
  obtain ⟨-, hreads, ⟨-, -, hinner⟩, hswap⟩ := nested_question_echoes_inner_check ht hc q
  obtain ⟨hcalls, -, hgiven⟩ := hinner ["int"] rfl
  have hyes := hgiven (.text "int") rfl
  have hno : ((s₂.during (.named "asks")).ask (.fresh texts)
      (.accepts (.text "int") (.int 5))).outcome = .ok (.truth false) := rfl
  have hfirst := hreads _ hq
  have hsecond := (hswap texts { action := .setUp .idle } { action := .setUp .idle } hcallable
    hdirect).2.2 _ hq
  refine ⟨ht, hc, hcallable, hdirect, ?_, ?_, ?_⟩
  · exact (hfirst.answers true hyes {} (.inline 0)).1
  · rw [hfirst.calls, hcalls]
    rfl
  · exact (hsecond.answers false hno {} (.inline 0)).1

end Session

end NominalCheck
