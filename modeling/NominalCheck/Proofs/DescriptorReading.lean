import NominalCheck.Proofs.Agreement

/-!
# How a descriptor is read

A descriptor is looked at three times, one after the other: whether it is a text, whether it is a
sequence and no byte string, and, once it is read to its end, whether all its items are texts.
Which fault is told is settled by the order alone.  Here the outcome is said by the kinds of
values: what a value yields when it is read, and what it declares as a descriptor.

## Main definitions

* `Value.Yields v r` — reading the value `v` as a sequence ends with `r`.
* `Value.Declares d r` — the value `d` comes to `r` as a descriptor.

## Main results

* `Value.yields_iff` — a value yields what is read off it, unless it is a text or a byte string.
* `Value.declares_iff` — a descriptor comes to one outcome, which is that of reading it.
* `descriptors_are_read_in_order` — **of several faults of a descriptor the same one is always
  told**, and what a sequence comes to depends on its items alone.
-/

namespace NominalCheck

namespace Value

/-! ### What is read off a value -/

/-- Where the reading of a sequence fails, and with what, if it does. -/
def failure? : SequenceKind → Option (Nat × Raised)
  | .custom own => own.failure
  | _ => Option.none

/-- Reading a value as a sequence ends with its items, or with what stops the reading. -/
inductive Yields (v : Value) : Except Fault (List Value) → Prop
  /-- A sequence is read to its end, unless it fails at an index that the reading gets to. -/
  | items {kind : SequenceKind} {items : List Value} (hv : v.bare = .sequence kind items)
      (h : ∀ place e, failure? kind = some (place, e) → items.length < place) :
      v.Yields (.ok items)
  /-- A sequence that fails is not read to its end, and what it raises comes out. -/
  | stopped {kind : SequenceKind} {items : List Value} {place : Nat} {e : Raised}
      (hv : v.bare = .sequence kind items) (hf : failure? kind = some (place, e))
      (h : place ≤ items.length) : v.Yields (.error (.raised e))
  /-- A wrapped text is a sequence of wrapped texts of one character, which are of its own type. -/
  | characters {s : String} (hv : v.bare = .wrappedText s) :
      v.Yields (.ok (s.toList.map fun c => v.withBare (.wrappedText c.toString)))
  /-- A view of bytes is a sequence of whole numbers. -/
  | viewed {data : List UInt8} (hv : v.bare = .bytes .memoryview data) :
      v.Yields (.ok (data.map fun b => .int b.toNat))
  /-- So is an array of machine integers. -/
  | machineInts {items : List Int} (hv : v.bare = .array items) : v.Yields (.ok (items.map .int))
  /-- So is a range. -/
  | numbers {start stop step : Int} (hv : v.bare = .range start stop step)
      (h : layOutFault? (rangeSize start stop step) = Option.none) : v.Yields
        (.ok ((List.range (rangeSize start stop step)).map
          fun (i : Nat) => .int (start + i * step)))
  /-- A range of too many numbers is not laid out. -/
  | tooMany {start stop step : Int} {f : Fault} (hv : v.bare = .range start stop step)
      (h : layOutFault? (rangeSize start stop step) = some f) : v.Yields (.error f)

theorem read_of_failure? {kind : SequenceKind} {place : Nat} {e : Raised}
    (h : failure? kind = some (place, e)) (items : List Value) :
    kind.read items = if place ≤ items.length then .error (.raised e) else .ok items := by
  cases kind with
  | custom own =>
    have hown : own.failure = some (place, e) := h
    rw [SequenceKind.read, UserSequence.read, hown]
  | _ => cases h

theorem read_of_failure?_eq_none {kind : SequenceKind} (h : failure? kind = Option.none)
    (items : List Value) : kind.read items = .ok items := by
  cases kind with
  | custom own =>
    have hown : own.failure = Option.none := h
    rw [SequenceKind.read, UserSequence.read, hown]
  | _ => rfl

/-- Reading a sequence ends with what is read. -/
theorem yields_read {v : Value} {kind : SequenceKind} {items : List Value}
    (hv : v.bare = .sequence kind items) : v.Yields (kind.read items) := by
  cases hf : failure? kind with
  | none =>
    rw [read_of_failure?_eq_none hf]
    refine .items hv fun place e h => ?_
    rw [hf] at h
    cases h
  | some p =>
    obtain ⟨place, e⟩ := p
    rw [read_of_failure? hf]
    by_cases h : place ≤ items.length
    · rw [if_pos h]
      exact .stopped hv hf h
    · rw [if_neg h]
      refine .items hv fun place' e' h' => ?_
      rw [hf] at h'
      cases h'
      exact Nat.not_le.mp h

theorem items?_of_sequence {v : Value} {kind : SequenceKind} {items : List Value}
    (hv : v.bare = .sequence kind items) : v.items? = some (kind.read items) := by
  rw [items?, hv]

/-- A value yields what is read off it, unless it is a text or a byte string. -/
theorem yields_iff {v : Value} {r : Except Fault (List Value)} :
    v.Yields r ↔ v.text? = Option.none ∧ v.isByteString = false ∧ v.items? = some r := by
  rw [text?, isByteString]
  constructor
  · intro h
    cases h with
    | @items kind items hv h =>
      refine ⟨by rw [hv], by rw [hv], ?_⟩
      rw [items?_of_sequence hv]
      cases hf : failure? kind with
      | none => rw [read_of_failure?_eq_none hf]
      | some p => rw [read_of_failure? hf, if_neg (Nat.not_le.mpr (h p.1 p.2 hf))]
    | stopped hv hf h =>
      refine ⟨by rw [hv], by rw [hv], ?_⟩
      rw [items?_of_sequence hv, read_of_failure? hf, if_pos h]
    | characters hv => exact ⟨by rw [hv], by rw [hv], by rw [items?, hv]⟩
    | viewed hv => exact ⟨by rw [hv], by rw [hv], by rw [items?, hv]⟩
    | machineInts hv => exact ⟨by rw [hv], by rw [hv], by rw [items?, hv]⟩
    | numbers hv h => exact ⟨by rw [hv], by rw [hv], by simp only [items?, hv, h]⟩
    | tooMany hv h => exact ⟨by rw [hv], by rw [hv], by simp only [items?, hv, h]⟩
  · rintro ⟨ht, hb, hi⟩
    rw [items?] at hi
    cases hv : v.bare with
    | text s => rw [hv] at ht; cases ht
    | wrappedText s => rw [hv] at hi; cases hi; exact .characters hv
    | bytes kind data =>
      rw [hv] at hb hi
      cases hi
      cases kind with
      | memoryview => exact .viewed hv
      | bytes => cases hb
      | bytearray => cases hb
    | sequence kind items => rw [hv] at hi; cases hi; exact yields_read hv
    | array items => rw [hv] at hi; cases hi; exact .machineInts hv
    | range start stop step =>
      rw [hv] at hi
      cases h : layOutFault? (rangeSize start stop step) with
      | some f =>
        simp only [h, Option.some.injEq] at hi
        exact hi ▸ .tooMany hv h
      | none =>
        simp only [h, Option.some.injEq] at hi
        exact hi ▸ .numbers hv h
    | _ => rw [hv] at hi; cases hi

/-! ### What a descriptor comes to -/

/-- What a value comes to as a descriptor. -/
inductive Declares (d : Value) : Except Fault (List String) → Prop
  /-- A text is the one entry. -/
  | text {s : String} (h : d.text? = some s) : d.Declares (.ok [s])
  /-- What is neither a text nor read as a sequence is no descriptor. -/
  | refused (ht : d.text? = Option.none) (h : ∀ r, ¬ d.Yields r) :
      d.Declares (.error .notADescriptor)
  /-- What stops the reading is told before anything about the items. -/
  | unreadable {f : Fault} (h : d.Yields (.error f)) : d.Declares (.error f)
  /-- The first item that is no text is told. -/
  | notText {before after : List Value} {v : Value} (h : d.Yields (.ok (before ++ v :: after)))
      (hbefore : ∀ x ∈ before, x.text?.isSome) (hv : v.text? = Option.none) :
      d.Declares (.error (.itemNotText v.typeName))
  /-- Items that are texts are the entries, one by one and in order. -/
  | texts {vs : List Value} {es : List String} (h : d.Yields (.ok vs))
      (hes : vs.map text? = es.map some) : d.Declares (.ok es)

end Value

/-- Items that are texts are read off one by one. -/
theorem textsOf_of_map {vs : List Value} {es : List String} (h : vs.map Value.text? = es.map some) :
    textsOf vs = .ok es := by
  induction vs generalizing es with
  | nil =>
    cases es with
    | nil => rfl
    | cons e es => cases h
  | cons v vs ih =>
    cases es with
    | nil => cases h
    | cons e es =>
      obtain ⟨hv, hvs⟩ := List.cons_eq_cons.mp h
      rw [textsOf, hv, ih hvs]
      rfl

/-- The first item that is no text is told. -/
theorem textsOf_of_first {before : List Value} (hbefore : ∀ x ∈ before, x.text?.isSome)
    {v : Value} (hv : v.text? = none) (after : List Value) :
    textsOf (before ++ v :: after) = .error (.itemNotText v.typeName) := by
  induction before with
  | nil => rw [List.nil_append, textsOf, hv]
  | cons x before ih =>
    obtain ⟨s, hs⟩ := Option.isSome_iff_exists.mp (hbefore x List.mem_cons_self)
    rw [List.cons_append, textsOf, hs, ih fun y hy => hbefore y (List.mem_cons_of_mem x hy)]
    rfl

/-- Items are all texts, or there is a first one that is none. -/
theorem texts_or_first (vs : List Value) :
    (∃ es : List String, vs.map Value.text? = es.map some) ∨
      ∃ before v after, vs = before ++ v :: after ∧ (∀ x ∈ before, x.text?.isSome) ∧
        v.text? = none := by
  induction vs with
  | nil => exact Or.inl ⟨[], rfl⟩
  | cons v vs ih =>
    cases hv : v.text? with
    | none => exact Or.inr ⟨[], v, vs, rfl, fun _ h => absurd h List.not_mem_nil, hv⟩
    | some s =>
      obtain ⟨es, hes⟩ | ⟨before, w, after, rfl, hbefore, hw⟩ := ih
      · exact Or.inl ⟨s :: es, by rw [List.map_cons, hv, hes, List.map_cons]⟩
      · refine Or.inr ⟨v :: before, w, after, rfl, fun x hx => ?_, hw⟩
        rcases List.mem_cons.mp hx with rfl | hx
        · rw [hv]
          rfl
        · exact hbefore x hx

namespace Value

/-- Past the first two looks, what is read is looked at item by item. -/
theorem entryTexts_eq {d : Value} (ht : d.text? = Option.none) (hb : d.isByteString = false) :
    d.entryTexts = d.items?.elim (.error .notADescriptor) (· >>= textsOf) := by
  rw [entryTexts, ht]
  simp only [hb, Bool.false_eq_true, if_false]
  split
  · next start stop step hv =>
    -- the numbers of a range are not laid out, to the same effect
    have hitems : (range start stop step).items? = d.items? := by rw [items?, items?, hv]; rfl
    rw [textsOfNumbers_eq, hitems]
    rcases d.items? with _ | _ | _ <;> rfl
  · rcases d.items? with _ | _ | _ <;> rfl

theorem entryTexts_of_yields {d : Value} {r : Except Fault (List Value)} (h : d.Yields r) :
    d.entryTexts = r >>= textsOf := by
  obtain ⟨ht, hb, hi⟩ := yields_iff.mp h
  rw [entryTexts_eq ht hb, hi]
  rfl

theorem entryTexts_of_items {d : Value} {vs : List Value} (h : d.Yields (.ok vs)) :
    d.entryTexts = textsOf vs :=
  entryTexts_of_yields h

theorem entryTexts_of_not_yields {d : Value} (ht : d.text? = Option.none)
    (h : ∀ r, ¬ d.Yields r) : d.entryTexts = .error .notADescriptor := by
  cases hb : d.isByteString with
  | true =>
    unfold entryTexts
    rw [ht]
    exact if_pos hb
  | false =>
    rw [entryTexts_eq ht hb]
    cases hi : d.items? with
    | none => rfl
    | some r => exact absurd (yields_iff.mpr ⟨ht, hb, hi⟩) (h r)

/-- A descriptor comes to one outcome, which is that of reading it. -/
theorem declares_iff {d : Value} {r : Except Fault (List String)} :
    d.Declares r ↔ d.entryTexts = r := by
  constructor
  · intro h
    cases h with
    | text h => exact Session.entryTexts_of_text? h
    | refused ht h => exact entryTexts_of_not_yields ht h
    | unreadable h => exact entryTexts_of_yields h
    | notText h hbefore hv => exact (entryTexts_of_items h).trans (textsOf_of_first hbefore hv _)
    | texts h hes => exact (entryTexts_of_items h).trans (textsOf_of_map hes)
  · rintro rfl
    cases ht : d.text? with
    | some s =>
      rw [Session.entryTexts_of_text? ht]
      exact .text ht
    | none =>
      by_cases hy : ∃ r, d.Yields r
      · obtain ⟨f | vs, hr⟩ := hy
        · rw [entryTexts_of_yields hr]
          exact .unreadable hr
        · rw [entryTexts_of_items hr]
          obtain ⟨es, hes⟩ | ⟨before, v, after, rfl, hbefore, hv⟩ := texts_or_first vs
          · rw [textsOf_of_map hes]
            exact .texts hr hes
          · rw [textsOf_of_first hbefore hv]
            exact .notText hr hbefore hv
      · have hno : ∀ r, ¬ d.Yields r := fun r hr => hy ⟨r, hr⟩
        rw [entryTexts_of_not_yields ht hno]
        exact .refused ht hno

/-! ### What follows for the kinds of values -/

/-- A byte string is no text. -/
theorem text?_of_isByteString {d : Value} (h : d.isByteString = true) : d.text? = Option.none := by
  cases ht : d.text? with
  | none => rfl
  | some s =>
    rw [isByteString, bare_of_text? ht] at h
    cases h

theorem entryTexts_of_isByteString {d : Value} (h : d.isByteString = true) :
    d.entryTexts = .error .notADescriptor := by
  refine entryTexts_of_not_yields (text?_of_isByteString h) fun r hr => ?_
  obtain ⟨-, hb, -⟩ := yields_iff.mp hr
  rw [h] at hb
  cases hb

/-- A subclass declares what its base does, but that the items of a wrapped text are of its type. -/
theorem entryTexts_subclass (name : String) {d : Value} (hd : ∀ s, d.bare ≠ .wrappedText s) :
    (subclass name d).entryTexts = d.entryTexts := by
  have hitems : (subclass name d).items? = d.items? := by
    rw [items?, items?, kept_bare]
    cases hv : d.bare with
    | wrappedText s => exact absurd hv (hd s)
    | _ => rfl
  rw [entryTexts, entryTexts, kept_text?, kept_isByteString, kept_bare, hitems]

theorem textsOf_eq_ok_iff {vs : List Value} {es : List String} :
    textsOf vs = .ok es ↔ vs.map text? = es.map some := by
  refine ⟨fun h => ?_, textsOf_of_map⟩
  obtain ⟨es', hes⟩ | ⟨before, v, after, rfl, hbefore, hv⟩ := texts_or_first vs
  · rw [textsOf_of_map hes] at h
    cases h
    exact hes
  · rw [textsOf_of_first hbefore hv] at h
    cases h

theorem entryTexts_tuple {vs : List Value} {es : List String} (h : vs.map text? = es.map some) :
    (sequence .tuple vs).entryTexts = .ok es :=
  textsOf_of_map h

/-- Items of one type that is not the type of texts are refused by its name, if there are any. -/
theorem textsOf_map_of_not_text {α : Type} (f : α → Value) (name : String)
    (hf : ∀ a, (f a).text? = Option.none) (hname : ∀ a, (f a).typeName = name) (l : List α) :
    textsOf (l.map f) = if l = [] then .ok [] else .error (.itemNotText name) := by
  cases l with
  | nil => rfl
  | cons a l =>
    rw [List.map_cons, textsOf, hf, hname, if_neg (List.cons_ne_nil a l)]

theorem entryTexts_of_numbers {d : Value} {ns : List Int} (h : d.Yields (.ok (ns.map .int))) :
    d.entryTexts = if ns = [] then .ok [] else .error (.itemNotText "int") :=
  (entryTexts_of_items h).trans
    (textsOf_map_of_not_text .int "int" (fun _ => rfl) (fun _ => rfl) ns)

/-- A value over another bare one is of the same type, if the bare ones are. -/
theorem typeName_withBare {v w : Value} (h : v.bare.typeName = w.typeName) :
    (v.withBare w).typeName = v.typeName := by
  cases v with
  | subclass name base => rfl
  | _ => exact h.symm

theorem text?_withBare (v : Value) {w : Value} (hw : w.text? = Option.none) :
    (v.withBare w).text? = Option.none := by
  fun_induction withBare v w with
  | case1 w name base ih => exact ih hw
  | case2 => exact hw

/-- A wrapped text declares nothing unless it is empty, and the type that is told is its own. -/
theorem entryTexts_of_wrappedText {v : Value} {s : String} (hv : v.bare = .wrappedText s) :
    v.entryTexts = if s = "" then .ok [] else .error (.itemNotText v.typeName) := by
  have htype : ∀ c : Char, (v.withBare (.wrappedText c.toString)).typeName = v.typeName :=
    fun _ => typeName_withBare (by rw [hv]; rfl)
  rw [entryTexts_of_items (.characters hv),
    textsOf_map_of_not_text _ v.typeName (fun _ => text?_withBare v rfl) htype]
  simp only [String.toList_eq_nil_iff]

theorem entries_eq_error_iff {d : Value} {f : Fault} :
    d.entries = .error f ↔ d.entryTexts = .error f := by
  rw [entries]
  cases d.entryTexts with
  | error g => rw [Except.map, Except.error.injEq, Except.error.injEq]
  | ok es =>
    constructor
    · intro h
      cases h
    · intro h
      cases h

theorem entries_of_ok {d : Value} {es : List String} (h : d.entryTexts = .ok es) :
    d.entries = .ok (es.map Entry.parse) := by
  rw [entries, h]
  rfl

end Value

/-- **A descriptor comes to one outcome, and of several faults the same one is always told.**  What
a sequence that is read to its end comes to depends on its items alone, what is read is read again
to the same, and what cannot be read is the fault of every question about it before anybody is
called. -/
theorem descriptors_are_read_in_order :
    (∀ (d : Value) r, d.entryTexts = r ↔ d.Declares r) ∧
    -- what is told
    (Fault.notADescriptor.kind = "ConfigurationError" ∧
      Fault.notADescriptor.message = "Must provide a string or an array for \"type\"" ∧
      ∀ typeName, (Fault.itemNotText typeName).kind = "ConfigurationError" ∧
        (Fault.itemNotText typeName).message = "Type entries must be strings, got " ++ typeName) ∧
    -- by the kind of the value
    (∀ d : Value, d.isByteString = true → d.entryTexts = .error .notADescriptor) ∧
    (∀ name (d : Value), (∀ s, d.bare ≠ .wrappedText s) →
      (Value.subclass name d).entryTexts = d.entryTexts) ∧
    (∀ (d : Value) s, d.bare = .wrappedText s →
      d.entryTexts = if s = "" then .ok [] else .error (.itemNotText d.typeName)) ∧
    (∀ (d : Value) (ns : List Int), d.Yields (.ok (ns.map .int)) →
      d.entryTexts = if ns = [] then .ok [] else .error (.itemNotText "int")) ∧
    -- by the items alone
    (∀ (d d' : Value) vs, d.Yields (.ok vs) → d'.Yields (.ok vs) → d.entryTexts = d'.entryTexts) ∧
    (∀ (d : Value) vs es, d.Yields (.ok vs) →
      (d.entryTexts = .ok es ↔ vs.map Value.text? = es.map some)) ∧
    -- once more
    (∀ (d : Value) es, d.entryTexts = .ok es → ∀ vs, vs.map Value.text? = es.map some →
      (Value.sequence .tuple vs).entryTexts = .ok es) ∧
    -- parsed and asked about
    (∀ d : Value, (∀ f, d.entries = .error f ↔ d.entryTexts = .error f) ∧
      ∀ es, d.entryTexts = .ok es → d.entries = .ok (es.map Entry.parse)) ∧
    (∀ (s : Session) t c, s.classifierOf t = .ok c → ∀ d f, d.entryTexts = .error f →
      ∀ v, ∀ q ∈ [Question.check d v, .accepts d v],
        (s.ask t q).outcome = .error f ∧ (s.ask t q).calls = []) := by
  refine ⟨fun d r => Value.declares_iff.symm, ⟨rfl, rfl, fun typeName => ⟨rfl, rfl⟩⟩,
    fun d => Value.entryTexts_of_isByteString, fun name d => Value.entryTexts_subclass name,
    fun d s => Value.entryTexts_of_wrappedText, fun d ns => Value.entryTexts_of_numbers,
    fun d d' vs h h' => ?_, fun d vs es h => ?_, fun d es _ vs => Value.entryTexts_tuple,
    fun d => ⟨fun f => Value.entries_eq_error_iff, fun es => Value.entries_of_ok⟩, ?_⟩
  · rw [Value.entryTexts_of_items h, Value.entryTexts_of_items h']
  · rw [Value.entryTexts_of_items h, Value.textsOf_eq_ok_iff]
  · intro s t c hc d f hd v q hq
    have hread : q.texts = .error f := by
      simp only [List.mem_cons, List.not_mem_nil, or_false] at hq
      rcases hq with rfl | rfl <;> exact hd
    exact Session.ask_of_unreadable hc hread

/-- A sequence that fails at its third item is not read, though its second item is no text: what it
raises comes out. -/
theorem failing_sequence_is_unreadable :
    let lost : Raised := ⟨"LookupError", "gone"⟩
    let own : UserSequence := { name := "Seq", failure := some (2, lost) }
    let d : Value := .subclass "Mine" (.sequence (.custom own) [.text "int", .int 0])
    let s : Session := {}
    d.Declares (.error (.raised lost)) ∧
      (Value.sequence .deque [.text "int", .int 0]).Yields (.ok [.text "int", .int 0]) ∧
      (Value.subclass "Mine" (.wrappedText "int")).Declares (.error (.itemNotText "Mine")) ∧
      (s.ask .ambient (.check d .none)).outcome = .error (.raised lost) := by
  intro lost own d s
  obtain ⟨hdeclares, -, -, -, hwrapped, -, -, -, -, -, hask⟩ := descriptors_are_read_in_order
  have hd : d.entryTexts = .error (.raised lost) :=
    (hdeclares d _).mpr (.unreadable (.stopped rfl rfl (by decide)))
  have hasked := hask s .ambient .native rfl d _ hd .none (.check d .none) List.mem_cons_self
  refine ⟨(hdeclares d _).mp hd, .items rfl (fun place e h => ?_), (hdeclares _ _).mp ?_, hasked.1⟩
  · cases h
  · exact hwrapped _ "int" rfl

end NominalCheck
