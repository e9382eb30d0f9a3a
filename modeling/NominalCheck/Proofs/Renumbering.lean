import Mathlib.Data.List.Count
import NominalCheck.Proofs.Custody

/-!
# Where a classifier is written down

A classifier without a name is told from others by the place where it is written down.  When steps
are put into a session, the classifiers behind them stand at other places; and since a place is
only ever compared with other places, the session goes on as before, with the new places for the
old ones.

## Main definitions

* `Handle.renumber f` — the handle after the places have changed by `f`; so also for classifiers,
  registries, actions, replies and runs.
* `Session.renumber f` — the session after that.

## Main results

* `Session.ask_renumber` — a question to a renumbered session has the same outcome.
* `Session.act_renumber` — **an action does in a renumbered session what it does in the session.**
-/

namespace NominalCheck

/-! ### Other places -/

/-- The handle of a classifier whose place has changed; a name stays. -/
def Handle.renumber (f : Nat → Nat) : Handle → Handle
  | .named name => .named name
  | .inline place => .inline (f place)

/-- The classifier with the handle that it has at its new place. -/
def Classifier.renumber (f : Nat → Nat) : Classifier → Classifier
  | .ruled handle rule => .ruled (handle.renumber f) rule
  | .nested handle descriptor => .nested (handle.renumber f) descriptor
  | c => c

/-- The run, with the calls told by their new handles. -/
def Run.renumber {α : Type} (f : Nat → Nat) (r : Run α) : Run α :=
  { r with calls := r.calls.map (Handle.renumber f) }

def Checker.renumber (f : Nat → Nat) (k : Checker) : Checker where
  classifier := k.classifier.renumber f
  ambient := k.ambient.renumber f
  history := k.history.map (Handle.renumber f)

def Registry.renumber (f : Nat → Nat) (r : Registry) : Registry where
  ambient := r.ambient.renumber f
  checkers := r.checkers.map fun p => (p.1, p.2.renumber f)

def Target.renumber (f : Nat → Nat) : Target → Target
  | .fresh c => .fresh (c.renumber f)
  | t => t

def Edit.renumber (f : Nat → Nat) : Edit → Edit
  | .setAmbient c => .setAmbient (c.renumber f)
  | .create id c => .create id (c.map (Classifier.renumber f))
  | .derive base id c => .derive base id (c.renumber f)
  | .assignConfig id c => .assignConfig id (c.renumber f)
  | e => e

def Action.renumber (f : Nat → Nat) : Action → Action
  | .ask t q => .ask (t.renumber f) q
  | .edit e => .edit (e.renumber f)
  | a => a

def Step.renumber (f : Nat → Nat) (step : Step) : Step :=
  { step with action := step.action.renumber f }

def Reply.renumber (f : Nat → Nat) : Reply → Reply
  | .classifier c => .classifier (c.renumber f)
  | r => r

/-- The session in which all handles are the new ones. -/
def Session.renumber (f : Nat → Nat) (s : Session) : Session :=
  { s with
    registry := s.registry.renumber f
    history := s.history.map (Handle.renumber f) }

variable {f : Nat → Nat}

theorem Handle.renumber_injective (hf : f.Injective) : (Handle.renumber f).Injective := by
  intro h h' heq
  cases h with
  | named name =>
    cases h' with
    | named name' => simpa [renumber] using heq
    | inline place' => cases heq
  | inline place =>
    cases h' with
    | named name' => cases heq
    | inline place' =>
      have hplace : f place = f place' := by simpa [renumber] using heq
      rw [hf hplace]

/-! ### What does not show the place -/

namespace Classifier

@[simp] theorem isCallable_renumber (c : Classifier) :
    (c.renumber f).isCallable = c.isCallable := by
  cases c <;> rfl

@[simp] theorem typeName_renumber (c : Classifier) : (c.renumber f).typeName = c.typeName := by
  cases c <;> rfl

@[simp] theorem toValue_renumber (c : Classifier) : (c.renumber f).toValue = c.toValue := by
  cases c <;> rfl

@[simp] theorem label_renumber (c : Classifier) : (c.renumber f).label = c.label := by
  cases c with
  | ruled handle rule => cases handle <;> rfl
  | nested handle descriptor => cases handle <;> rfl
  | _ => rfl

end Classifier

/-! ### Computations whose parts are mapped -/

section Mapped

variable {α β γ δ : Type} {x : Except Fault α}

/-- A computation composed of mapped parts is the mapped computation. -/
theorem map_bind_eq_map {g : α → β} {h : α → Except Fault γ} {h' : β → Except Fault δ} {k : γ → δ}
    (hk : ∀ a, h' (g a) = (h a).map k) : (x.map g >>= h') = (x >>= h).map k := by
  cases x with
  | error e => rfl
  | ok a => exact hk a

/-- What maps no answer of the last part maps no answer. -/
theorem bind_map_eq_self {h : α → Except Fault β} {k : β → β} (hk : ∀ a, (h a).map k = h a) :
    (x >>= h).map k = x >>= h := by
  cases x with
  | error e => rfl
  | ok a => exact hk a

theorem map_map_eq_self {g : α → β} {k : β → β} (hk : ∀ a, k (g a) = g a) :
    (x.map g).map k = x.map g := by
  cases x with
  | error e => rfl
  | ok a => exact congrArg Except.ok (hk a)

end Mapped

/-! ### Asking -/

namespace Run

variable {α β : Type}

theorem renumber_bind (r : Run α) (g : α → Run β) :
    (r >>= g).renumber f = r.renumber f >>= fun a => (g a).renumber f := by
  cases h : r.outcome with
  | error e =>
    have h' : (r.renumber f).outcome = .error e := h
    rw [bind_of_error h, bind_of_error h']
    rfl
  | ok a =>
    have h' : (r.renumber f).outcome = .ok a := h
    rw [bind_of_ok h, bind_of_ok h']
    simp only [renumber, List.map_append]

theorem renumber_ofExcept (x : Except Fault α) : (ofExcept x).renumber f = ofExcept x := rfl

end Run

namespace Classifier

/-- The count of the earlier calls is all that a rule reads of them. -/
theorem askAmbient_renumber (hf : f.Injective) (c : Classifier) (history : List Handle)
    (v : Value) :
    (c.renumber f).askAmbient (history.map (Handle.renumber f)) v
      = (c.askAmbient history v).renumber f := by
  cases c with
  | native => rfl
  | value g => rfl
  | ruled handle rule =>
    have hcount := List.count_map_of_injective history _ (Handle.renumber_injective hf) handle
    simp only [renumber, askAmbient, Run.renumber_bind, hcount]
    rfl
  | nested handle descriptor =>
    simp only [renumber, askAmbient, Run.renumber_bind]
    rfl

theorem ask_renumber (hf : f.Injective) (c ambient : Classifier) (history : List Handle)
    (v : Value) :
    (c.renumber f).ask (ambient.renumber f) (history.map (Handle.renumber f)) v
      = (c.ask ambient history v).renumber f := by
  cases c with
  | native => rfl
  | value g => rfl
  | ruled handle rule => exact askAmbient_renumber hf (.ruled handle rule) history v
  | nested handle descriptor =>
    -- the inner check sees the call that has led to it
    have hinner := askAmbient_renumber hf ambient (history ++ [handle]) v
    rw [List.map_append, List.map_singleton] at hinner
    change (nested (handle.renumber f) descriptor).ask _ _ v = _
    simp only [ask, Run.renumber_bind, hinner]
    rfl

end Classifier

theorem Question.run_renumber (hf : f.Injective) (q : Question) (k : Checker) :
    q.run (k.renumber f) = (q.run k).renumber f := by
  have hopening : q.opening.renumber f = q.opening := by cases q <;> rfl
  have hask : (k.renumber f).classify q.value = (k.classify q.value).renumber f :=
    Classifier.ask_renumber hf k.classifier k.ambient k.history q.value
  rw [run_eq, run_eq]
  simp only [Run.renumber_bind, hopening, Run.renumber_ofExcept, hask]
  rfl

/-! ### Registries -/

namespace Registry

theorem find?_renumber (r : Registry) (id : String) :
    (r.renumber f).find? id = (r.find? id).map (Classifier.renumber f) := by
  have hlookup : ∀ l : List (String × Classifier),
      (l.map fun p => (p.1, p.2.renumber f)).lookup id
        = (l.lookup id).map (Classifier.renumber f) := by
    intro l
    induction l with
    | nil => rfl
    | cons p l ih =>
      rw [List.map_cons, List.lookup_cons, List.lookup_cons, ih]
      cases id == p.1 <;> rfl
  exact hlookup r.checkers

theorem fetch_renumber (r : Registry) (id : String) :
    (r.renumber f).fetch id = (r.fetch id).map (Classifier.renumber f) := by
  rw [fetch, fetch, find?_renumber]
  cases r.find? id <;> rfl

theorem store_renumber (r : Registry) (id : String) (c : Classifier) :
    (r.renumber f).store id (c.renumber f) = (r.store id c).renumber f := by
  simp only [store, renumber, List.map_cons, List.filter_map]
  rfl

end Registry

theorem vet_renumber (c : Classifier) :
    vet (c.renumber f) = (vet c).map (Classifier.renumber f) := by
  by_cases h : c.isCallable <;> simp [vet, h, Except.map]

theorem vetConfig_renumber (c : Classifier) :
    vetConfig (c.renumber f) = (vetConfig c).map (Classifier.renumber f) := by
  by_cases h : c.isCallable <;> simp [vetConfig, configReport, h, Except.map]

/-- An edit reads no handle. -/
theorem Registry.edit_renumber (r : Registry) (e : Edit) :
    (r.renumber f).edit (e.renumber f)
      = (r.edit e).map fun p => (p.1.map (Classifier.renumber f), p.2.renumber f) := by
  cases e with
  | setAmbient c =>
    simp only [Edit.renumber, edit, vet_renumber]
    exact map_bind_eq_map fun _ => rfl
  | resetAmbient => rfl
  | create id c =>
    have hc : (c.map (Classifier.renumber f)).getD .native = (c.getD .native).renumber f := by
      cases c <;> rfl
    simp only [Edit.renumber, edit, hc, vetConfig_renumber]
    refine map_bind_eq_map fun d => ?_
    rw [store_renumber]
    rfl
  | derive base id c =>
    simp only [Edit.renumber, edit, fetch_renumber, vet_renumber]
    refine map_bind_eq_map fun _ => map_bind_eq_map fun d => ?_
    rw [store_renumber]
    rfl
  | copyConfig target source =>
    simp only [Edit.renumber, edit, fetch_renumber]
    refine map_bind_eq_map fun c => map_bind_eq_map fun _ => ?_
    rw [store_renumber]
    rfl
  | assignConfig id c =>
    simp only [Edit.renumber, edit, fetch_renumber, configReport, Classifier.toValue_renumber]
    exact map_bind_eq_map fun _ => rfl
  | showAmbient => rfl
  | showChecker id =>
    simp only [Edit.renumber, edit, fetch_renumber]
    exact map_bind_eq_map fun _ => rfl

/-! ### Sessions -/

/-- No inquiry is answered with a classifier. -/
theorem Inquiry.answer_renumber (i : Inquiry) :
    i.answer.map (Reply.renumber f) = i.answer := by
  cases i with
  | parseEntry v => exact map_map_eq_self fun _ => rfl
  | entryTexts d => exact map_map_eq_self fun _ => rfl
  | entries d => exact map_map_eq_self fun _ => rfl
  | buildEntry fields => exact bind_map_eq_self fun _ => map_map_eq_self fun _ => rfl
  | compareEntries a b =>
    exact bind_map_eq_self fun _ => bind_map_eq_self fun _ => bind_map_eq_self fun _ => rfl
  | _ => rfl

/-- No question is, either. -/
theorem Question.conclude_renumber (q : Question) (es : List String) (given : Value) :
    (q.conclude es given).map (Reply.renumber f) = q.conclude es given := by
  have htold : ∀ w : Verdict, w.told.map (Reply.renumber f) = w.told := by
    intro w
    cases w <;> rfl
  have hraised : ∀ (w : Verdict) (expected : String),
      (w.raised expected).map (Reply.renumber f) = w.raised expected := by
    intro w expected
    cases w <;> rfl
  cases q with
  | check d v => exact hraised _ _
  | accepts d v => exact htold _
  | assertEntry e v => exact hraised _ _
  | acceptsEntry e v => exact htold _
  | classify v => rfl

namespace Session

variable (s : Session)

theorem classifierOf_renumber (t : Target) :
    (s.renumber f).classifierOf (t.renumber f)
      = (s.classifierOf t).map (Classifier.renumber f) := by
  cases t with
  | ambient => rfl
  | stored id => exact Registry.fetch_renumber s.registry id
  | fresh c => exact vetConfig_renumber c

/-- A question to a renumbered session has the same outcome. -/
theorem ask_renumber (hf : f.Injective) (t : Target) (q : Question) :
    (s.renumber f).ask (t.renumber f) q = (s.ask t q).renumber f := by
  rw [ask, ask, classifierOf_renumber, Run.ofExcept_map_bind, Run.renumber_bind,
    Run.renumber_ofExcept]
  refine congrArg (Run.ofExcept (s.classifierOf t) >>= ·) (funext fun c => ?_)
  exact q.run_renumber hf (s.checkerOf c)

theorem outcome_ask_map_renumber (t : Target) (q : Question) :
    (s.ask t q).outcome.map (Reply.renumber f) = (s.ask t q).outcome := by
  cases hc : s.classifierOf t with
  | error g => rw [ask_of_missing hc]; rfl
  | ok c =>
    cases ht : q.texts with
    | error g => rw [(ask_of_unreadable hc ht).1]; rfl
    | ok es =>
      rw [outcome_ask_of_ok hc ht]
      exact bind_map_eq_self fun given => q.conclude_renumber es given

variable [SettingsLibrary]

/-- Nor is any set-up. -/
theorem setUp_map_renumber (u : Setup) :
    (s.setUp u).1.map (Reply.renumber f) = (s.setUp u).1 := by
  cases u with
  | settings keywords assignment =>
    simp only [setUp]
    split <;> try rfl
    split <;> rfl
  | compareSettings a b => simp only [setUp]; split <;> rfl
  | gate keywords =>
    cases keywords with
    | none => rfl
    | some keywords => simp only [setUp]; split <;> rfl
  | _ => rfl

/-- **An action does in a renumbered session what it does in the session**: it gives the same
outcome with the same events, makes the same calls by their new handles, and leaves the renumbered
state. -/
theorem act_renumber (hf : f.Injective) (a : Action) :
    ((s.renumber f).act (a.renumber f)).1.outcome = (s.act a).1.outcome.map (Reply.renumber f) ∧
      ((s.renumber f).act (a.renumber f)).1.calls
        = (s.act a).1.calls.map (Handle.renumber f) ∧
      ((s.renumber f).act (a.renumber f)).1.events = (s.act a).1.events ∧
      ((s.renumber f).act (a.renumber f)).2 = (s.act a).2.renumber f := by
  cases a with
  | inquire i => exact ⟨i.answer_renumber.symm, rfl, rfl, rfl⟩
  | ask t q =>
    have hask := s.ask_renumber hf t q
    simp only [Action.renumber, act, hask]
    refine ⟨(s.outcome_ask_map_renumber t q).symm, rfl, rfl, ?_⟩
    simp only [renumber, Run.renumber, List.map_append]
  | edit e =>
    have hedit : (s.renumber f).registry.edit (e.renumber f) = _ := s.registry.edit_renumber e
    simp only [Action.renumber]
    cases he : s.registry.edit e with
    | error g =>
      rw [he] at hedit
      rw [act_edit_of_error he, act_edit_of_error hedit]
      exact ⟨rfl, rfl, rfl, rfl⟩
    | ok p =>
      rw [he] at hedit
      rw [act_edit_of_ok he, act_edit_of_ok hedit]
      refine ⟨?_, rfl, rfl, rfl⟩
      cases p.1 <;> rfl
  | setUp u => exact ⟨(s.setUp_map_renumber u).symm, rfl, rfl, rfl⟩

theorem state_step_renumber (hf : f.Injective) (step : Step) :
    ((s.renumber f).step (step.renumber f)).2 = (s.step step).2.renumber f :=
  ((s.enter step).act_renumber hf step.action).2.2.2

/-- The renumbered steps of a run lead to the renumbered session. -/
theorem state_run_renumber (hf : f.Injective) (steps : List Step) :
    ((s.renumber f).run (steps.map (Step.renumber f))).2 = (s.run steps).2.renumber f := by
  induction steps generalizing s with
  | nil => rfl
  | cons step steps ih =>
    rw [List.map_cons, run_cons, run_cons, state_step_renumber s hf]
    exact ih (s.step step).2

end Session

end NominalCheck
