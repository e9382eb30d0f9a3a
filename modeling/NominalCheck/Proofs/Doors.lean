import NominalCheck.Proofs.Atomicity

/-!
# The doors for a classifier

A classifier enters a session by three doors: a configuration that a checker is built from, a
checker that is made from another one, and the process.  Each looks at it first, and they let the
same ones in.  So whoever is asked holds a classifier that can be applied, and no check fails for
want of one.

## Main definitions

* `Applicable x` — `x` does not fail on something that can not be applied.
* `Door` — the doors, each with the edit it stands for, whom it leads to, and how it refuses.

## Main results

* `Classifier.applicable_ask` — a classifier that can be applied does not fail for not being so.
* `Session.applicable_ask` — nor does a question in a session where all classifiers can be applied.
* `doors_agree` — **the doors let in the same classifiers**, all of which can be applied,
  and it makes no difference by which one a classifier has come.
-/

namespace NominalCheck

/-! ### Failing for want of a classifier -/

/-- A computation that does not fail on something that can not be applied. -/
def Applicable {α : Type} (x : Except Fault α) : Prop := ∀ name, x ≠ .error (.notCallable name)

section Applicable

variable {α β : Type}

theorem applicable_ok (a : α) : Applicable (.ok a) := by
  intro name h
  cases h

theorem applicable_error {f : Fault} (h : ∀ name, f ≠ .notCallable name) :
    Applicable (.error f : Except Fault α) :=
  fun name hf => h name (Except.error.inj hf)

theorem Applicable.ne_notCallable {x : Except Fault α} (hx : Applicable x) {f : Fault}
    (h : x = .error f) (name : String) : f ≠ .notCallable name :=
  fun hf => hx name (h.trans (congrArg Except.error hf))

theorem Applicable.bind {x : Except Fault α} {g : α → Except Fault β} (hx : Applicable x)
    (hg : ∀ a, Applicable (g a)) : Applicable (x >>= g) := by
  cases x with
  | error f => exact applicable_error (hx.ne_notCallable rfl)
  | ok a => exact hg a

theorem Applicable.map {x : Except Fault α} (hx : Applicable x) (g : α → β) :
    Applicable (x.map g) := by
  cases x with
  | error f => exact applicable_error (hx.ne_notCallable rfl)
  | ok a => exact applicable_ok (g a)

end Applicable

/-! ### Reading -/

theorem applicable_textsOf (vs : List Value) : Applicable (textsOf vs) := by
  induction vs with
  | nil => exact applicable_ok []
  | cons v vs ih =>
    rw [textsOf]
    cases v.text? with
    | none => exact applicable_error (by simp)
    | some text => exact ih.map _

theorem layOutFault?_ne_notCallable (size : Nat) (name : String) :
    layOutFault? size ≠ some (.notCallable name) := by
  unfold layOutFault?
  split
  · simp
  · split <;> simp

namespace Value

/-- A sequence of a user's own may fail when it is read, but not for this. -/
theorem applicable_read (kind : SequenceKind) (items : List Value) :
    Applicable (kind.read items) := by
  cases kind with
  | custom own =>
    change Applicable (own.read items)
    unfold UserSequence.read
    split
    · split
      · exact applicable_error (by simp)
      · exact applicable_ok items
    · exact applicable_ok items
  | _ => exact applicable_ok items

theorem applicable_of_items? (v : Value) {x : Except Fault (List Value)} (h : v.items? = some x) :
    Applicable x := by
  unfold items? at h
  split at h
  case h_4 kind items _ =>
    cases h
    exact applicable_read kind items
  case h_6 start stop step _ =>
    split at h
    · next f hf =>
      cases h
      refine applicable_error fun name hn => ?_
      rw [hn] at hf
      exact layOutFault?_ne_notCallable _ name hf
    · cases h
      exact applicable_ok _
  case h_7 => cases h
  all_goals
    cases h
    exact applicable_ok _

theorem applicable_textsOfNumbers (size : Nat) : Applicable (textsOfNumbers size) := by
  unfold textsOfNumbers
  split
  · next f hf =>
    refine applicable_error fun name hn => ?_
    rw [hn] at hf
    exact layOutFault?_ne_notCallable size name hf
  · split
    · exact applicable_ok []
    · exact applicable_error (by simp)

theorem applicable_entryTexts (d : Value) : Applicable d.entryTexts := by
  unfold entryTexts
  split
  · exact applicable_ok _
  split
  · exact applicable_error (by simp)
  split
  · exact applicable_textsOfNumbers _
  split
  · exact applicable_error (by simp)
  · next f hf =>
    exact applicable_error ((applicable_of_items? d hf).ne_notCallable rfl)
  · exact applicable_textsOf _

theorem applicable_entryText (v : Value) : Applicable v.entryText := by
  unfold entryText
  split
  · exact applicable_ok _
  · unfold entryFault
    split
    · exact applicable_error (by simp)
    · split <;> exact applicable_error (by simp)

end Value

/-! ### Asking -/

theorem Rule.applicable_answer (rule : Rule) (n : Nat) (v : Value) :
    Applicable (rule.answer n v) := by
  cases rule with
  | sequence answers =>
    rw [Rule.answer]
    split
    · exact applicable_ok _
    · exact applicable_error (by simp)
  | failing e => exact applicable_error (by simp)
  | function answer => exact mapError_raised_ne_notCallable (answer n v)
  | _ => exact applicable_ok _

namespace Classifier

variable {c ambient : Classifier}

theorem applicable_askAmbient (hc : c.isCallable = true) (history : List Handle) (v : Value) :
    Applicable (c.askAmbient history v).outcome := by
  cases c with
  | native => exact applicable_ok _
  | value f answer => exact Value.apply_ne_notCallable hc answer v
  | ruled handle rule =>
    simp only [askAmbient, Run.outcome_bind]
    exact rule.applicable_answer _ v
  | nested handle descriptor =>
    simp only [askAmbient, Run.outcome_bind]
    refine (Applicable.map (Value.applicable_entryTexts descriptor) _).bind fun _ => ?_
    exact applicable_error (by simp)

/-- A classifier that can be applied does not fail for not being so, and neither does one that asks
such a one. -/
theorem applicable_ask (hc : c.isCallable = true) (ha : ambient.isCallable = true)
    (history : List Handle) (v : Value) : Applicable (c.ask ambient history v).outcome := by
  cases c with
  | nested handle descriptor =>
    simp only [ask, Run.outcome_bind]
    refine (Applicable.map (Value.applicable_entryTexts descriptor) _).bind fun _ => ?_
    exact (applicable_askAmbient ha _ v).bind fun _ => applicable_ok _
  | _ => exact applicable_askAmbient hc history v

end Classifier

theorem Question.applicable_texts (q : Question) : Applicable q.texts := by
  cases q with
  | check d v => exact d.applicable_entryTexts
  | accepts d v => exact d.applicable_entryTexts
  | assertEntry entry v => exact entry.applicable_entryText.map _
  | acceptsEntry entry v => exact entry.applicable_entryText.map _
  | classify v => exact applicable_ok []

theorem Question.applicable_conclude (q : Question) (es : List String) (given : Value) :
    Applicable (q.conclude es given) := by
  intro name h
  obtain ⟨expected, hf⟩ := q.conclude_eq_error h
  cases hf

namespace Session

variable {s : Session}

theorem applicable_classifierOf (s : Session) (t : Target) : Applicable (s.classifierOf t) := by
  cases t with
  | ambient => exact applicable_ok _
  | stored id =>
    change Applicable (s.registry.fetch id)
    rw [Registry.fetch]
    cases s.registry.find? id with
    | none => exact applicable_error (by simp)
    | some c => exact applicable_ok c
  | fresh c =>
    change Applicable (vetConfig c)
    rw [vetConfig]
    split
    · exact applicable_ok c
    · exact applicable_error (by simp)

/-- No question fails for want of a classifier that can be applied, where all can be. -/
theorem applicable_ask (hs : s.registry.All (·.isCallable = true)) (t : Target) (q : Question) :
    Applicable (s.ask t q).outcome := by
  cases hc : s.classifierOf t with
  | error f =>
    rw [ask_of_missing hc]
    exact applicable_error ((s.applicable_classifierOf t).ne_notCallable hc)
  | ok c =>
    cases ht : q.texts with
    | error f =>
      rw [(ask_of_unreadable hc ht).1]
      exact applicable_error (q.applicable_texts.ne_notCallable ht)
    | ok es =>
      have hcallable : c.isCallable = true := all_classifierOf hs (fun _ _ h => h) hc
      rw [outcome_ask_of_ok hc ht]
      exact (Classifier.applicable_ask hcallable hs.ambient _ _).bind fun given =>
        q.applicable_conclude es given

end Session

/-! ### The doors -/

theorem Registry.fetch_store (r : Registry) (id : String) (c : Classifier) (other : String) :
    (r.store id c).fetch other = if other = id then .ok c else r.fetch other := by
  rw [fetch, find?_store]
  by_cases h : other = id
  · rw [if_pos h, if_pos h]
  · rw [if_neg h, if_neg h, fetch]

/-- A door by which a classifier enters a session. -/
inductive Door
  /-- The configuration that a checker is built from. -/
  | config (id : String)
  /-- Another checker, from which one is made. -/
  | checker (base id : String)
  /-- The process. -/
  | process
  deriving DecidableEq, Repr

namespace Door

/-- The edit that brings a classifier in. -/
def edit (c : Classifier) : Door → Edit
  | config id => .create id (some c)
  | checker base id => .derive base id c
  | process => .setAmbient c

/-- Who holds the classifier once it is in. -/
def target : Door → Target
  | config id => .stored id
  | checker _ id => .stored id
  | process => .ambient

/-- What is answered to a classifier that is let in. -/
def welcome (c : Classifier) : Door → Reply
  | process => .done
  | _ => .classifier c

/-- What is raised where a classifier is not let in. -/
def refusal (c : Classifier) : Door → Fault
  | config _ => .invalid (configReport .callableType c)
  | _ => .notAClassifier c.typeName

/-- The checker that another one is made from is stored. -/
def Leads (r : Registry) : Door → Prop
  | checker base _ => ∃ held, r.find? base = some held
  | _ => True

/-- The registry once a classifier is in. -/
def grant (r : Registry) (c : Classifier) : Door → Registry
  | config id => r.store id c
  | checker _ id => r.store id c
  | process => { r with ambient := c }

/-- A step through the door. -/
def enter (c : Classifier) (d : Door) (step : Step) : Step :=
  { step with action := .edit (d.edit c) }

variable {s : Session} {c : Classifier} {d : Door}

theorem edit_of_isCallable {r : Registry} (hd : d.Leads r) (hc : c.isCallable = true) :
    ∃ reply, r.edit (d.edit c) = .ok (reply, d.grant r c) ∧
      Session.editReply reply = d.welcome c := by
  have hvet : vet c = .ok c := vet_of_isCallable hc
  cases d with
  | config id =>
    have hconfig : vetConfig c = .ok c := vetConfig_of_isCallable hc
    exact ⟨some c, by rw [edit, Registry.edit, Option.getD_some, hconfig]; rfl, rfl⟩
  | checker base id =>
    obtain ⟨held, hheld⟩ := hd
    exact ⟨some c, by rw [edit, Registry.edit, Registry.fetch, hheld, hvet]; rfl, rfl⟩
  | process => exact ⟨none, by rw [edit, Registry.edit, hvet]; rfl, rfl⟩

theorem edit_of_not_isCallable {r : Registry} (hd : d.Leads r) (hc : c.isCallable = false) :
    r.edit (d.edit c) = .error (d.refusal c) := by
  have hvet : vet c = .error (.notAClassifier c.typeName) := if_neg (by simp [hc])
  have hconfig : vetConfig c = .error (.invalid (configReport .callableType c)) :=
    if_neg (by simp [hc])
  cases d with
  | config id => rw [edit, Registry.edit, Option.getD_some, hconfig]; rfl
  | checker base id =>
    obtain ⟨held, hheld⟩ := hd
    rw [edit, Registry.edit, Registry.fetch, hheld, hvet]
    rfl
  | process => rw [edit, Registry.edit, hvet]; rfl

/-- Who is stored stays stored, so that a door that leads to a checker goes on doing so. -/
theorem Leads.grant {r : Registry} {d' : Door} (h : d'.Leads r) (d : Door) (c : Classifier) :
    d'.Leads (d.grant r c) := by
  have hstore : ∀ id, d'.Leads (r.store id c) := by
    intro id
    cases d' with
    | checker base other =>
      obtain ⟨held, hheld⟩ := h
      rw [Leads, Registry.find?_store]
      split
      · exact ⟨c, rfl⟩
      · exact ⟨held, hheld⟩
    | _ => trivial
  cases d with
  | config id => exact hstore id
  | checker base id => exact hstore id
  | process => cases d' <;> exact h

/-- After a door the classifier is held by its target, and by whoever has held it before. -/
theorem classifierOf_grant (s : Session) {t : Target}
    (h : t = d.target ∨ s.classifierOf t = .ok c) :
    ({ s with registry := d.grant s.registry c } : Session).classifierOf t = .ok c := by
  have hstored : ∀ id,
      ({ s with registry := s.registry.store id c } : Session).classifierOf (.stored id)
        = .ok c := by
    intro id
    change (s.registry.store id c).fetch id = .ok c
    rw [Registry.fetch_store, if_pos rfl]
  have hkept : ∀ id, s.classifierOf t = .ok c →
      ({ s with registry := s.registry.store id c } : Session).classifierOf t = .ok c := by
    intro id ht
    cases t with
    | ambient => exact ht
    | stored other =>
      change (s.registry.store id c).fetch other = .ok c
      rw [Registry.fetch_store]
      split
      · rfl
      · exact ht
    | fresh _ => exact ht
  -- the doors to checkers write one checker, and the door to the process none
  rcases h with rfl | ht
  · cases d with
    | config id => exact hstored id
    | checker base id => exact hstored id
    | process => rfl
  · cases d with
    | config id => exact hkept id ht
    | checker base id => exact hkept id ht
    | process =>
      cases t with
      | ambient => rfl
      | stored _ => exact ht
      | fresh _ => exact ht

/-- A classifier that can be applied is let in, and the session is as before otherwise. -/
theorem step_enter_of_isCallable [SettingsLibrary]
    (hd : d.Leads s.registry) (hc : c.isCallable = true)
    (step : Step) :
    (s.step (d.enter c step)).1.answer = .ok (d.welcome c) ∧
      (s.step (d.enter c step)).2 = { s.enter step with registry := d.grant s.registry c } := by
  obtain ⟨reply, hedit, hreply⟩ := edit_of_isCallable hd hc
  have hentered : (s.enter step).registry.edit (d.edit c) = .ok (reply, _) := hedit
  rw [Session.answer_step, Session.state_step, enter, Session.enter_action,
    Session.act_edit_of_ok hentered, ← hreply]
  exact ⟨rfl, rfl⟩

/-- One that can not is turned away, and the session is as before. -/
theorem step_enter_of_not_isCallable [SettingsLibrary]
    (hd : d.Leads s.registry) (hc : c.isCallable = false)
    (step : Step) :
    (s.step (d.enter c step)).1.answer = .error (d.refusal c) ∧
      (s.step (d.enter c step)).2 = s.enter step := by
  have hentered : (s.enter step).registry.edit (d.edit c) = .error (d.refusal c) :=
    edit_of_not_isCallable hd hc
  rw [Session.answer_step, Session.state_step, enter, Session.enter_action,
    Session.act_edit_of_error hentered]
  exact ⟨rfl, rfl⟩

/-- A classifier that comes in by several doors is held behind each of them in the end. -/
theorem classifierOf_run [SettingsLibrary] (hc : c.isCallable = true) (entries : List (Door × Step))
    (hentries : ∀ p ∈ entries, p.1.Leads s.registry) {t : Target}
    (h : (∃ p ∈ entries, p.1.target = t) ∨ s.classifierOf t = .ok c) :
    (s.run (entries.map fun p => p.1.enter c p.2)).2.classifierOf t = .ok c := by
  induction entries generalizing s with
  | nil =>
    rcases h with ⟨p, hp, -⟩ | h
    · cases hp
    · exact h
  | cons p entries ih =>
    have hstate := (step_enter_of_isCallable (hentries p List.mem_cons_self) hc p.2).2
    rw [List.map_cons, Session.run_cons]
    refine ih ?_ ?_
    · intro p' hp'
      rw [hstate]
      exact (hentries p' (List.mem_cons_of_mem p hp')).grant p.1 c
    · rw [hstate]
      rcases h with ⟨p', hp', rfl⟩ | h
      · rcases List.mem_cons.mp hp' with rfl | hp'
        · exact Or.inr (classifierOf_grant (s.enter p'.2) (Or.inl rfl))
        · exact Or.inl ⟨p', hp', rfl⟩
      · exact Or.inr (classifierOf_grant (s.enter p.2) (Or.inr h))

end Door

/-- **The doors agree.**  All classifiers of a session can be applied, whatever has happened in it,
so that no question fails for want of one.  Each door lets a classifier in exactly if it can be
applied, and they differ only in how they refuse.  Once it is in, nothing tells by which door it has
come: a checker keeps nothing of the one it was made from, and whoever holds the classifier answers
alike. -/
theorem doors_agree [SettingsLibrary] :
    (∀ steps : List Step,
      let s := (({} : Session).run steps).2
      s.registry.All (·.isCallable = true) ∧
      ∀ (step : Step) t q name,
        (s.step { step with action := .ask t q }).1.answer ≠ .error (.notCallable name)) ∧
    -- one classifier at one door
    (∀ (s : Session) (d : Door) (c : Classifier) (step : Step), d.Leads s.registry →
      let entered := s.step (d.enter c step)
      (entered.1.answer.isOk = true ↔ c.isCallable = true) ∧
      (c.isCallable = true → entered.1.answer = .ok (d.welcome c)) ∧
      (c.isCallable = false →
        entered.1.answer = .error (d.refusal c) ∧ entered.2.registry = s.registry)) ∧
    (∀ (c : Classifier) (base id : String),
      ((Door.config id).refusal c).kind = "ValidationError" ∧
      ∀ d ∈ [Door.checker base id, .process],
        (d.refusal c).kind = "ConfigurationError" ∧
        (d.refusal c).message = "Classifier must be callable, got " ++ c.typeName) ∧
    -- one classifier at several doors
    (∀ (s : Session) (base id : String) (held c : Classifier) (step : Step),
      s.registry.find? base = some held → c.isCallable = true →
      (s.step ((Door.checker base id).enter c step)).2
        = (s.step ((Door.config id).enter c step)).2) ∧
    ∀ (s : Session) (c : Classifier) (entries : List (Door × Step)), c.isCallable = true →
      (∀ p ∈ entries, p.1.Leads s.registry) →
      let all := (s.run (entries.map fun p => p.1.enter c p.2)).2
      ∀ p ∈ entries, ∀ p' ∈ entries, ∀ (step : Step) (q : Question),
        all.step { step with action := .ask p.1.target q }
          = all.step { step with action := .ask p'.1.target q } := by
  refine ⟨fun steps => ⟨Session.isCallable_run steps, fun step t q name => ?_⟩,
    fun s d c step hd => ?_, fun c base id => ⟨rfl, fun d hd => ?_⟩,
    fun s base id held c step hbase hc => ?_, fun s c entries hc hentries => ?_⟩
  · exact Session.applicable_ask (s := Session.enter _ step) (Session.isCallable_run steps) t q name
  · intro entered
    cases hc : c.isCallable with
    | true =>
      have hanswer := (Door.step_enter_of_isCallable hd hc step).1
      have hok : entered.1.answer.isOk = true := by
        rw [hanswer]
        rfl
      exact ⟨iff_of_true hok rfl, fun _ => hanswer, nofun⟩
    | false =>
      obtain ⟨hanswer, hstate⟩ := Door.step_enter_of_not_isCallable hd hc step
      have hfails : entered.1.answer.isOk ≠ true := by
        rw [hanswer]
        exact Bool.false_ne_true
      refine ⟨iff_of_false hfails Bool.false_ne_true, nofun, fun _ => ⟨hanswer, ?_⟩⟩
      rw [hstate]
      rfl
  · simp only [List.mem_cons, List.not_mem_nil, or_false] at hd
    rcases hd with rfl | rfl <;> exact ⟨rfl, rfl⟩
  · rw [(Door.step_enter_of_isCallable (d := .checker base id) ⟨held, hbase⟩ hc step).2,
      (Door.step_enter_of_isCallable (d := .config id) trivial hc step).2]
    rfl
  · intro all p hp p' hp' step q
    have hholds : ∀ p ∈ entries, all.classifierOf p.1.target = .ok c := fun p hp =>
      Door.classifierOf_run hc entries hentries (Or.inl ⟨p, hp, rfl⟩)
    exact Session.step_ask_congr ((hholds p hp).trans (hholds p' hp').symm) step q

/-- A sequence comes in by all three doors, by one of them over a checker that measures sizes.  The
process and the new checkers give its first answer; a text comes in by none, not even over the
checker that is already there. -/
theorem sequence_by_three_doors :
    let c : Classifier := .ruled (.named "names") (.sequence [.text "int", .text "str"])
    let s : Session := { registry := { checkers := [("k", .value (.builtin .size))] } }
    let idle : Step := { action := .setUp .idle }
    let entries : List (Door × Step) :=
      [(.config "a", idle), (.checker "k" "b", idle), (.process, idle)]
    let all := (s.run (entries.map fun p => p.1.enter c p.2)).2
    let classify (t : Target) : Except Fault Reply :=
      (all.step { idle with action := .ask t (.classify (.int 5)) }).1.answer
    (∀ p ∈ entries, p.1.Leads s.registry) ∧
      classify .ambient = .ok (.value (.text "int")) ∧
      classify (.stored "a") = classify .ambient ∧ classify (.stored "b") = classify .ambient ∧
      (s.step ((Door.checker "k" "k").enter (.value (.text "int")) idle)).1.answer
        = .error (.notAClassifier "str") := by
  intro c s idle entries all classify
  obtain ⟨-, hone, -, -, hall⟩ := doors_agree
  have hk : (Door.checker "k" "k").Leads s.registry := ⟨_, rfl⟩
  have hentries : ∀ p ∈ entries, p.1.Leads s.registry := by
    intro p hp
    simp only [entries, List.mem_cons, List.not_mem_nil, or_false] at hp
    rcases hp with rfl | rfl | rfl
    · trivial
    · exact ⟨_, rfl⟩
    · trivial
  have hsame := hall s c entries rfl hentries
  have hprocess : (Door.process, idle) ∈ entries := by simp [entries]
  refine ⟨hentries, rfl, ?_, ?_, ((hone s _ _ idle hk).2.2 rfl).1⟩
  · have ha : (Door.config "a", idle) ∈ entries := by simp [entries]
    exact congrArg (·.1.answer) (hsame _ ha _ hprocess idle _)
  · have hb : (Door.checker "k" "b", idle) ∈ entries := by simp [entries]
    exact congrArg (·.1.answer) (hsame _ hb _ hprocess idle _)

end NominalCheck
