import Mathlib.Data.List.Induction
import NominalCheck.Proofs.Questions

/-!
# Who holds which classifier

The classifiers of a session are a function of what has succeeded in it.  The process-wide one is
that of the latest step that set it, and the one of a stored checker is that of the latest step that
wrote the checker; a copied configuration is what its source held when it was copied.  A record of
the steps, with nothing but their success, is enough to say so.

## Main definitions

* `Record` — the actions of a session, latest first, each with its success.
* `Record.ambient`, `Record.held` — the classifiers by the record.
* `Session.record` — the record of a run.

## Main results

* `Registry.edit_eq_ok` — what an edit that succeeds has found and done.
* `Session.all_run` — what holds of all classifiers given in a run holds of all that are held.
* `Session.record_determines_registry` — **the record determines the classifiers** at every point.
-/

namespace NominalCheck

/-! ### What an edit does -/

/-- A composed computation that succeeds has succeeded in both parts. -/
theorem exists_of_bind_eq_ok {α β : Type} {x : Except Fault α} {f : α → Except Fault β} {b : β}
    (h : x >>= f = .ok b) : ∃ a, x = .ok a ∧ f a = .ok b := by
  cases x with
  | error e => cases h
  | ok a => exact ⟨a, rfl, h⟩

theorem vet_eq_ok {c d : Classifier} (h : vet c = .ok d) : c.isCallable = true ∧ d = c := by
  rw [vet] at h
  split at h
  · next hc => cases h; exact ⟨hc, rfl⟩
  · cases h

theorem vetConfig_eq_ok {c d : Classifier} (h : vetConfig c = .ok d) :
    c.isCallable = true ∧ d = c := vet_eq_ok ((vet_eq_ok_iff c d).mpr h)

theorem vet_of_isCallable {c : Classifier} (h : c.isCallable = true) : vet c = .ok c := if_pos h

theorem vetConfig_of_isCallable {c : Classifier} (h : c.isCallable = true) : vetConfig c = .ok c :=
  if_pos h

/-- The classifier that an edit is given. -/
def Edit.given? : Edit → Option Classifier
  | .setAmbient c => some c
  | .create _ c => c
  | .derive _ _ c => some c
  | .assignConfig _ c => some c
  | _ => none

/-- The classifier that an action is given. -/
def Action.given? : Action → Option Classifier
  | .ask (.fresh c) _ => some c
  | .edit e => e.given?
  | _ => none

namespace Registry

theorem fetch_eq_ok {r : Registry} {id : String} {c : Classifier} (h : r.fetch id = .ok c) :
    r.find? id = some c := by
  rw [fetch] at h
  cases hf : r.find? id with
  | none => rw [hf] at h; cases h
  | some d => rw [hf] at h; cases h; rfl

/-- What an edit that succeeds has found, and the registry after it. -/
theorem edit_eq_ok {r r' : Registry} {e : Edit} {reply : Option Classifier}
    (h : r.edit e = .ok (reply, r')) :
    match e with
    | .setAmbient c => c.isCallable = true ∧ r' = { r with ambient := c }
    | .resetAmbient => r' = { r with ambient := .native }
    | .create id c => (c.getD .native).isCallable = true ∧ r' = r.store id (c.getD .native)
    | .derive _ id c => c.isCallable = true ∧ r' = r.store id c
    | .copyConfig target source => ∃ c, r.find? source = some c ∧ r' = r.store target c
    | _ => r' = r := by
  cases e with
  | setAmbient c =>
    obtain ⟨d, hd, hr⟩ := exists_of_bind_eq_ok h
    obtain ⟨hc, rfl⟩ := vet_eq_ok hd
    cases hr
    exact ⟨hc, rfl⟩
  | resetAmbient => cases h; rfl
  | create id c =>
    obtain ⟨d, hd, hr⟩ := exists_of_bind_eq_ok h
    obtain ⟨hc, rfl⟩ := vetConfig_eq_ok hd
    cases hr
    exact ⟨hc, rfl⟩
  | derive base id c =>
    obtain ⟨_, -, hb⟩ := exists_of_bind_eq_ok h
    obtain ⟨d, hd, hr⟩ := exists_of_bind_eq_ok hb
    obtain ⟨hc, rfl⟩ := vet_eq_ok hd
    cases hr
    exact ⟨hc, rfl⟩
  | copyConfig target source =>
    obtain ⟨c, hc, ht⟩ := exists_of_bind_eq_ok h
    obtain ⟨_, -, hr⟩ := exists_of_bind_eq_ok ht
    cases hr
    exact ⟨c, fetch_eq_ok hc, rfl⟩
  | assignConfig id c =>
    -- a configuration is fixed, so this never succeeds
    obtain ⟨_, -, hr⟩ := exists_of_bind_eq_ok h
    cases hr
  | showAmbient => cases h; rfl
  | showChecker id =>
    obtain ⟨_, -, hr⟩ := exists_of_bind_eq_ok h
    cases hr
    rfl

/-- All classifiers of the registry have the property `p`. -/
structure All (p : Classifier → Prop) (r : Registry) : Prop where
  /-- The process-wide one has it. -/
  ambient : p r.ambient
  /-- That of each stored checker has it. -/
  held : ∀ id c, r.find? id = some c → p c

variable {p : Classifier → Prop}

theorem All.initial (hnative : p .native) : All p {} := ⟨hnative, fun _ _ h => nomatch h⟩

theorem All.store {r : Registry} (hr : r.All p) {c : Classifier} (hc : p c) (id : String) :
    (r.store id c).All p := by
  refine ⟨hr.ambient, fun other d hd => ?_⟩
  rw [find?_store] at hd
  split at hd
  · cases hd
    exact hc
  · exact hr.held other d hd

/-- What all classifiers have, and what is given and can be applied, all have after an edit. -/
theorem All.edit {r r' : Registry} (hr : r.All p) (hnative : p .native) {e : Edit}
    (hgiven : ∀ c ∈ e.given?, c.isCallable = true → p c) {reply : Option Classifier}
    (h : r.edit e = .ok (reply, r')) : r'.All p := by
  have hcases := edit_eq_ok h
  cases e with
  | setAmbient c =>
    obtain ⟨hc, rfl⟩ := hcases
    exact ⟨hgiven c rfl hc, hr.held⟩
  | resetAmbient =>
    cases hcases
    exact ⟨hnative, hr.held⟩
  | create id c =>
    obtain ⟨hc, rfl⟩ := hcases
    refine hr.store ?_ id
    cases c with
    | none => exact hnative
    | some c => exact hgiven c rfl hc
  | derive base id c =>
    obtain ⟨hc, rfl⟩ := hcases
    exact hr.store (hgiven c rfl hc) id
  | copyConfig target source =>
    obtain ⟨c, hc, rfl⟩ := hcases
    exact hr.store (hr.held source c hc) target
  | assignConfig id c => cases hcases; exact hr
  | showAmbient => cases hcases; exact hr
  | showChecker id => cases hcases; exact hr

end Registry

/-! ### What a step does to the registry -/

namespace Session

variable {p : Classifier → Prop}

/-- What all classifiers have, and one that is brought along, the classifier of a target has. -/
theorem all_classifierOf {s : Session} (hs : s.registry.All p) {t : Target}
    (hfresh : ∀ c, t = .fresh c → c.isCallable = true → p c) {c : Classifier}
    (hc : s.classifierOf t = .ok c) : p c := by
  cases t with
  | ambient => cases hc; exact hs.ambient
  | stored id => exact hs.held id c (Registry.fetch_eq_ok hc)
  | fresh d =>
    obtain ⟨hd, rfl⟩ := vetConfig_eq_ok hc
    exact hfresh c rfl hd

variable [SettingsLibrary]

theorem act_edit_of_error {s : Session} {e : Edit} {f : Fault} (h : s.registry.edit e = .error f) :
    s.act (.edit e) = (.fail f, s) := by
  rw [act, h]

theorem act_edit_of_ok {s : Session} {e : Edit} {reply : Option Classifier} {r : Registry}
    (h : s.registry.edit e = .ok (reply, r)) :
    s.act (.edit e) = (pure (editReply reply), { s with registry := r }) := by
  rw [act, h]

theorem answer_step (s : Session) (step : Step) :
    (s.step step).1.answer = ((s.enter step).act step.action).1.outcome := rfl

theorem state_step (s : Session) (step : Step) :
    (s.step step).2 = ((s.enter step).act step.action).2 := rfl

/-- An edit fails and changes nothing, or succeeds and is in effect. -/
theorem step_edit (s : Session) {step : Step} {e : Edit} (h : step.action = .edit e) :
    (∃ f, (s.step step).1.answer = .error f ∧ (s.step step).2.registry = s.registry) ∨
      ∃ reply r, (s.step step).1.answer = .ok (editReply reply) ∧
        s.registry.edit e = .ok (reply, r) ∧ (s.step step).2.registry = r := by
  rw [answer_step, state_step, h]
  -- a step's environment and terminal are no part of the registry
  have henter : (s.enter step).registry.edit e = s.registry.edit e := rfl
  cases he : s.registry.edit e with
  | error f =>
    rw [act_edit_of_error (henter.trans he)]
    exact Or.inl ⟨f, rfl, rfl⟩
  | ok p =>
    rw [act_edit_of_ok (henter.trans he)]
    exact Or.inr ⟨p.1, p.2, rfl, rfl, rfl⟩

/-- Only edits change the registry. -/
theorem registry_step_of_not_edit (s : Session) {step : Step} (h : ∀ e, step.action ≠ .edit e) :
    (s.step step).2.registry = s.registry := by
  obtain ⟨action, environment, terminal, traced⟩ := step
  cases action with
  | inquire i => rfl
  | ask target q => rfl
  | edit e => exact absurd rfl (h e)
  | setUp u => rfl

theorem all_step (hnative : p .native) {s : Session} (hs : s.registry.All p) {step : Step}
    (hstep : ∀ c ∈ step.action.given?, c.isCallable = true → p c) :
    (s.step step).2.registry.All p := by
  by_cases he : ∃ e, step.action = .edit e
  · obtain ⟨e, he⟩ := he
    rw [he] at hstep
    obtain ⟨f, -, hr⟩ | ⟨reply, r, -, hr, hr'⟩ := s.step_edit he
    · exact hr ▸ hs
    · exact hr' ▸ hs.edit hnative hstep hr
  · rw [s.registry_step_of_not_edit (not_exists.mp he)]
    exact hs

/-- What holds of all classifiers given in a run holds of all that are held after it. -/
theorem all_run (hnative : p .native) {s : Session} (hs : s.registry.All p) {steps : List Step}
    (hsteps : ∀ step ∈ steps, ∀ c ∈ step.action.given?, c.isCallable = true → p c) :
    (s.run steps).2.registry.All p := by
  -- the registry after the first step is one to start from
  induction steps generalizing s with
  | nil => exact hs
  | cons step steps ih =>
    rw [run_cons]
    exact ih (all_step hnative hs (hsteps step List.mem_cons_self))
      fun x hx => hsteps x (List.mem_cons_of_mem step hx)

/-- Every classifier of a session can be applied. -/
theorem isCallable_run (steps : List Step) :
    (({} : Session).run steps).2.registry.All (·.isCallable = true) := by
  have hnative : Classifier.native.isCallable = true := rfl
  exact all_run hnative (Registry.All.initial hnative) fun _ _ _ _ hc => hc

end Session

/-! ### Records -/

/-- An action that sets the process-wide classifier. -/
def Action.SetsAmbient : Action → Prop
  | .edit (.setAmbient _) => True
  | .edit .resetAmbient => True
  | _ => False

/-- An action that writes the stored checker `id`. -/
def Action.Writes (id : String) : Action → Prop
  | .edit (.create i _) => id = i
  | .edit (.derive _ i _) => id = i
  | .edit (.copyConfig i _) => id = i
  | _ => False

/-- Actions in the order latest first, each with its success. -/
abbrev Record := List (Action × Bool)

namespace Record

/-- The process-wide classifier: that of the latest action that has set it. -/
def ambient : Record → Classifier
  | [] => .native
  | (.edit (.setAmbient c), true) :: _ => c
  | (.edit .resetAmbient, true) :: _ => .native
  | _ :: earlier => ambient earlier

/-- The classifier of a stored checker: that of the latest action that has written it, where a
copied configuration is what the source held by the record before. -/
def held : Record → String → Option Classifier
  | [], _ => none
  | (.edit (.create i c), true) :: earlier, id =>
    if id = i then some (c.getD .native) else held earlier id
  | (.edit (.derive _ i c), true) :: earlier, id => if id = i then some c else held earlier id
  | (.edit (.copyConfig i source), true) :: earlier, id =>
    held earlier (if id = i then source else id)
  | _ :: earlier, id => held earlier id

/-- What sets nothing, or has failed, is as if it were not recorded. -/
theorem ambient_cons_of_not (a : Action) (ok : Bool) (past : Record)
    (h : ¬ (a.SetsAmbient ∧ ok = true)) : ambient ((a, ok) :: past) = ambient past := by
  cases ok with
  | false =>
    cases a with
    | edit e => cases e <;> rfl
    | _ => rfl
  | true =>
    have hw : ¬ a.SetsAmbient := fun hw => h ⟨hw, rfl⟩
    cases a with
    | edit e =>
      cases e with
      | setAmbient c => exact absurd trivial hw
      | resetAmbient => exact absurd trivial hw
      | _ => rfl
    | _ => rfl

theorem held_cons_of_not (a : Action) (ok : Bool) (past : Record) (id : String)
    (h : ¬ (a.Writes id ∧ ok = true)) : held ((a, ok) :: past) id = held past id := by
  cases ok with
  | false =>
    cases a with
    | edit e => cases e <;> rfl
    | _ => rfl
  | true =>
    have hw : ¬ a.Writes id := fun hw => h ⟨hw, rfl⟩
    cases a with
    | edit e =>
      cases e with
      | create i c => exact if_neg hw
      | derive base i c => exact if_neg hw
      | copyConfig i source => exact congrArg (held past) (if_neg hw)
      | _ => rfl
    | _ => rfl

end Record

/-- The classifiers are those that a record tells. -/
structure Registry.Follows (r : Registry) (past : Record) : Prop where
  /-- The process-wide one. -/
  ambient : r.ambient = past.ambient
  /-- Those of the stored checkers. -/
  held : ∀ id, r.find? id = past.held id

namespace Registry.Follows

variable {r r' : Registry} {past : Record}

theorem initial : Follows {} [] := ⟨rfl, fun _ => rfl⟩

theorem failed (h : r.Follows past) (a : Action) : r.Follows ((a, false) :: past) :=
  ⟨h.ambient.trans (Record.ambient_cons_of_not a false past (by simp)).symm,
    fun id => (h.held id).trans (Record.held_cons_of_not a false past id (by simp)).symm⟩

theorem store (h : r.Follows past) {a : Action} {id : String} {c : Classifier}
    (ha : Record.ambient ((a, true) :: past) = past.ambient)
    (hh : ∀ other, Record.held ((a, true) :: past) other =
      if other = id then some c else past.held other) :
    (r.store id c).Follows ((a, true) :: past) := by
  refine ⟨h.ambient.trans ha.symm, fun other => ?_⟩
  rw [find?_store, hh, h.held]

/-- An edit that succeeds is what the record then tells. -/
theorem edit (h : r.Follows past) {e : Edit} {reply : Option Classifier}
    (he : r.edit e = .ok (reply, r')) : r'.Follows ((.edit e, true) :: past) := by
  have hcases := edit_eq_ok he
  cases e with
  | setAmbient c =>
    obtain ⟨-, rfl⟩ := hcases
    exact ⟨rfl, h.held⟩
  | resetAmbient =>
    cases hcases
    exact ⟨rfl, h.held⟩
  | create id c =>
    obtain ⟨-, rfl⟩ := hcases
    exact h.store rfl fun _ => rfl
  | derive base id c =>
    obtain ⟨-, rfl⟩ := hcases
    exact h.store rfl fun _ => rfl
  | copyConfig target source =>
    obtain ⟨c, hc, rfl⟩ := hcases
    refine h.store rfl fun other => ?_
    -- what the source holds now is what the record tells of it before the copy
    change past.held (if other = target then source else other) = _
    split
    · rw [← h.held, hc]
    · rfl
  | assignConfig id c => cases hcases; exact ⟨h.ambient, h.held⟩
  | showAmbient => cases hcases; exact ⟨h.ambient, h.held⟩
  | showChecker id => cases hcases; exact ⟨h.ambient, h.held⟩

end Registry.Follows

namespace Session

theorem enter_action (s : Session) (step : Step) (a : Action) :
    s.enter { step with action := a } = s.enter step := rfl

variable [SettingsLibrary]

/-- The record of a run. -/
def record (s : Session) (steps : List Step) : Record :=
  ((steps.zip (s.run steps).1).map fun p => (p.1.action, p.2.answer.isOk)).reverse

theorem length_run (s : Session) (steps : List Step) : (s.run steps).1.length = steps.length := by
  induction steps generalizing s with
  | nil => rfl
  | cons step steps ih => rw [run_cons, List.length_cons, List.length_cons, ih]

theorem record_concat (s : Session) (steps : List Step) (step : Step) :
    s.record (steps ++ [step]) =
      (step.action, ((s.run steps).2.step step).1.answer.isOk) :: s.record steps := by
  rw [record, run_append, List.zip_append (s.length_run steps).symm, List.map_append,
    List.reverse_append]
  rfl

/-- A step that succeeds is what the record then tells, and one that fails is not in effect. -/
theorem follows_step {s : Session} {past : Record} (h : s.registry.Follows past) (step : Step) :
    (s.step step).2.registry.Follows ((step.action, (s.step step).1.answer.isOk) :: past) := by
  by_cases he : ∃ e, step.action = .edit e
  · obtain ⟨e, he⟩ := he
    obtain ⟨f, ha, hs⟩ | ⟨reply, r, ha, hr, hs⟩ := s.step_edit he
    · rw [ha, hs]
      exact h.failed step.action
    · rw [ha, hs, he]
      exact h.edit hr
  · rw [s.registry_step_of_not_edit (not_exists.mp he)]
    -- no writer is recorded, whether the step succeeds or not
    cases hact : step.action with
    | edit e => exact absurd ⟨e, hact⟩ he
    | _ => exact ⟨h.ambient, h.held⟩

/-- The record of a run tells the classifiers after it. -/
theorem follows_record (steps : List Step) :
    (({} : Session).run steps).2.registry.Follows (({} : Session).record steps) := by
  -- a record has its latest action in front, so the run is taken apart at its end
  induction steps using List.reverseRecOn with
  | nil => exact Registry.Follows.initial
  | append_singleton steps step ih =>
    rw [record_concat, run_append]
    exact follows_step ih step

/-- Targets that hold one classifier are asked with one outcome, and leave one state. -/
theorem step_ask_congr {s : Session} {t t' : Target} (h : s.classifierOf t = s.classifierOf t')
    (step : Step) (q : Question) :
    s.step { step with action := .ask t q } = s.step { step with action := .ask t' q } := by
  have hask : (s.enter step).ask t q = (s.enter step).ask t' q := by
    change Run.ofExcept (s.classifierOf t) >>= _ = Run.ofExcept (s.classifierOf t') >>= _
    rw [h]
  have hact : (s.enter step).act (.ask t q) = (s.enter step).act (.ask t' q) := by
    rw [act, act, hask]
  unfold Session.step
  simp only [enter_action, hact]

/-- **The record determines the classifiers.**  At every point of every session the process-wide
classifier and that of each stored checker are those of their latest successful writers; no other
step changes them; and the process-wide functions answer as a checker with that classifier does. -/
theorem record_determines_registry (steps : List Step) :
    let s := (({} : Session).run steps).2
    let past := ({} : Session).record steps
    s.registry.ambient = past.ambient ∧
    (∀ id, s.registry.find? id = past.held id) ∧
    (∀ step : Step,
      let next := s.step step
      (next.2.registry.ambient ≠ s.registry.ambient →
        step.action.SetsAmbient ∧ next.1.answer.isOk = true) ∧
      (∀ id, next.2.registry.find? id ≠ s.registry.find? id →
        step.action.Writes id ∧ next.1.answer.isOk = true)) ∧
    (∀ (step : Step) (q : Question),
      s.step { step with action := .ask .ambient q }
          = s.step { step with action := .ask (.fresh past.ambient) q } ∧
      (∀ id, past.held id = some past.ambient →
        s.step { step with action := .ask .ambient q }
          = s.step { step with action := .ask (.stored id) q })) := by
  intro s past
  have hs : s.registry.Follows past := follows_record steps
  refine ⟨hs.ambient, hs.held, fun step => ⟨fun hne => ?_, fun id hne => ?_⟩,
    fun step q => ⟨?_, ?_⟩⟩
  · by_contra hn
    refine hne ?_
    rw [(follows_step hs step).ambient, hs.ambient]
    exact Record.ambient_cons_of_not _ _ _ hn
  · by_contra hn
    refine hne ?_
    rw [(follows_step hs step).held, hs.held]
    exact Record.held_cons_of_not _ _ _ _ hn
  · refine step_ask_congr ?_ step q
    have hcallable : past.ambient.isCallable = true := by
      rw [← hs.ambient]
      exact (isCallable_run steps).ambient
    change Except.ok s.registry.ambient = vetConfig past.ambient
    rw [vetConfig_of_isCallable hcallable, hs.ambient]
  · intro id hid
    refine step_ask_congr ?_ step q
    change Except.ok s.registry.ambient = s.registry.fetch id
    rw [Registry.fetch, hs.held, hid, hs.ambient]

end Session

end NominalCheck
