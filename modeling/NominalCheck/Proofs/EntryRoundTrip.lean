import Mathlib.Data.Set.Function
import NominalCheck.Descriptor
import NominalCheck.Entry.Draft
import NominalCheck.Proofs.EntryText

/-!
# Entries and their texts

An entry is written as its name, with the marker behind it if it is optional.  Reading takes one
marker off, so what is read back from a text is always written as that text.  The other way there is
one exception: a plain entry whose name closes with the marker is written like an optional one, and
that is the one which is read back.  So there are two entries for some texts, and reading settles on
the optional one.

An entry that is built from fields may have any values for them.  It is an entry in the sense above
if its name is a text, or of a subclass of text, and its flag is a truth value.

## Main definitions

* `Entry.IsRead e` — the entry `e` is optional, or its name does not close with the marker.
* `Entry.Twin a b` — the plain entry `b` has the text of the optional entry `a` for a name.
* `Draft.Holds d e` — the fields of the draft `d` are those of the entry `e`.

## Main results

* `Entry.parse_render_iff`, `Entry.bijOn_parse` — which entries are read back, and that each of them
  is read from one text.
* `Entry.render_eq_render_iff` — which entries have one text.
* `Draft.compare_of_holds` — how two drafts compare that hold entries.
* `reading_settles_on_one_entry` — **reading and writing are inverse but for one ambiguity.**
-/

namespace NominalCheck

namespace Entry

variable {a b e : Entry}

/-- An entry that some text is read as: it is optional, or its name does not close with the
marker. -/
def IsRead (e : Entry) : Prop := e.optional = true ∨ ¬ Marked e.name

/-- The second entry is not optional, and has the text of the first one, which is, for a name. -/
def Twin (a b : Entry) : Prop := ∃ name, a = ⟨name, true⟩ ∧ b = ⟨name ++ "?", false⟩

theorem eq_iff : a = b ↔ a.name = b.name ∧ a.optional = b.optional := by
  cases a
  cases b
  exact iff_of_eq (Entry.mk.injEq ..)

theorem isRead_parse (s : String) : (parse s).IsRead := by
  by_cases h : Marked s
  · exact Or.inl ((optional_parse_iff s).mpr h)
  · rw [parse_of_not_marked h]
    exact Or.inr h

theorem parse_render (h : e.IsRead) : parse e.render = e := by
  obtain ⟨name, optional⟩ := e
  cases optional with
  | true => rw [render_optional, ← append_marker, parse_append_marker]
  | false =>
    have hname : ¬ Marked name := h.resolve_left Bool.false_ne_true
    rw [render_plain, parse_of_not_marked hname]

/-- An entry is read back from its text exactly if it is read from any. -/
theorem parse_render_iff : parse e.render = e ↔ e.IsRead :=
  ⟨fun h => h ▸ isRead_parse e.render, parse_render⟩

/-- Each text is read as an entry of its own, and these are the entries that are read back. -/
theorem bijOn_parse : Set.BijOn parse Set.univ {e | e.IsRead} :=
  Set.InvOn.bijOn ⟨fun s _ => render_parse s, fun _ h => parse_render h⟩
    (fun s _ => isRead_parse s) (fun e _ => Set.mem_univ e.render)

/-! ### Entries with one text -/

theorem Twin.ne (h : Twin a b) : a ≠ b := by
  obtain ⟨name, rfl, rfl⟩ := h
  simp

theorem Twin.render_eq (h : Twin a b) : a.render = b.render := by
  obtain ⟨name, rfl, rfl⟩ := h
  rw [render_optional, render_plain, append_marker]

/-- Two entries with one text are equal, or one is the twin of the other. -/
theorem render_eq_render_iff : a.render = b.render ↔ a = b ∨ Twin a b ∨ Twin b a := by
  constructor
  · intro h
    obtain ⟨name, optional⟩ := a
    obtain ⟨name', optional'⟩ := b
    cases optional with
    | true =>
      cases optional' with
      | true =>
        rw [render_optional, render_optional, ← append_marker, ← append_marker,
          append_marker_inj] at h
        exact Or.inl (by rw [h])
      | false =>
        rw [render_optional, render_plain, ← append_marker] at h
        exact Or.inr (Or.inl ⟨name, rfl, by rw [h]⟩)
    | false =>
      cases optional' with
      | true =>
        rw [render_optional, render_plain, ← append_marker] at h
        exact Or.inr (Or.inr ⟨name', rfl, by rw [h]⟩)
      | false =>
        rw [render_plain, render_plain] at h
        exact Or.inl (by rw [h])
  · rintro (rfl | h | h)
    · rfl
    · exact h.render_eq
    · exact h.render_eq.symm

/-- Two entries with one text differ exactly if one is the twin of the other. -/
theorem render_eq_and_ne_iff : a.render = b.render ∧ a ≠ b ↔ Twin a b ∨ Twin b a := by
  rw [render_eq_render_iff, or_and_right]
  constructor
  · rintro (⟨h, hne⟩ | ⟨h, -⟩)
    · exact absurd h hne
    · exact h
  · intro h
    refine Or.inr ⟨h, ?_⟩
    rcases h with h | h
    · exact h.ne
    · exact h.ne.symm

end Entry

/-! ### Values with a text -/

namespace Value

variable {v w : Value} {s t : String}

theorem key?_of_text? (h : v.text? = some s) : v.key? = some [.text s] := by
  rw [← kept_key?.bare, bare_of_text? h, key?_text]

/-- A text is a key, and whatever its subclass is called no name is told. -/
theorem unhashableAs?_of_bare_text (h : v.bare = .text s) :
    ∀ own, v.unhashableAs? own = Option.none := by
  fun_induction Value.bare v with
  | case1 name base ih =>
    intro own
    rw [unhashableAs?.eq_def]
    exact ih h _
  | case2 v hv =>
    intro own
    rw [h, unhashableAs?.eq_def]

theorem unhashable?_of_text? (h : v.text? = some s) : v.unhashable? = Option.none :=
  unhashableAs?_of_bare_text (bare_of_text? h) Option.none

/-- Values with a text are compared by it. -/
theorem sameKey_of_text? (hv : v.text? = some s) (hw : w.text? = some t) :
    v.sameKey w = decide (s = t) := by
  rw [sameKey, key?_of_text? hv, key?_of_text? hw]
  simp

theorem sameKey_bool (b c : Bool) : (Value.bool b).sameKey (.bool c) = decide (b = c) := by
  cases b <;> cases c <;> rfl

end Value

/-! ### Entries built from fields -/

/-- The name of the draft is a text, or of a subclass of text, and its flag is a truth value: they
are those of the entry. -/
structure Draft.Holds (d : Draft) (e : Entry) : Prop where
  /-- The name. -/
  name : d.name.text? = some e.name
  /-- Whether absence is allowed. -/
  optional : d.optional = .bool e.optional

theorem Entry.holds_toDraft (e : Entry) : e.toDraft.Holds e := ⟨rfl, rfl⟩

namespace Draft

variable {d a b : Draft} {e x y : Entry}

/-- What stands for the text of the draft has the text of the entry. -/
theorem Holds.text?_render (h : d.Holds e) : d.render.text? = some e.render := by
  obtain ⟨name, optional⟩ := e
  cases optional with
  | true =>
    have hshown : d.name.displayed = name := Value.displayed_of_text? h.name
    rw [render, h.optional, hshown]
    rfl
  | false =>
    rw [render, h.optional]
    exact h.name

theorem Holds.text (h : d.Holds e) : d.text = .ok e.render := by
  rw [Draft.text, h.text?_render]

theorem Holds.hashFault? (h : d.Holds e) : d.hashFault? = none := by
  have hname : d.name.unhashableAs? none = none := Value.unhashable?_of_text? h.name
  rw [Draft.hashFault?, Value.firstUnhashable?, hname, h.optional]
  rfl

/-- Drafts that hold entries compare as the entries do, and so do their texts. -/
theorem compare_of_holds (ha : a.Holds x) (hb : b.Holds y) :
    ∃ c, a.compare b = .ok c ∧ (c.equal = true ↔ x = y) ∧
      (c.equal = true → c.sameHash = true) ∧ (c.sameText = true ↔ x.render = y.render) := by
  rw [compare, ha.hashFault?, hb.hashFault?]
  refine ⟨_, rfl, ?_, ?_, ?_⟩
  · rw [Value.sameKey_of_text? ha.name hb.name, ha.optional, hb.optional, Value.sameKey_bool,
      Bool.and_eq_true, decide_eq_true_eq, decide_eq_true_eq, Entry.eq_iff]
  · intro h
    rw [Bool.and_eq_true] at h ⊢
    exact ⟨Value.sameHash_of_sameKey h.1, Value.sameHash_of_sameKey h.2⟩
  · rw [Value.sameKey_of_text? ha.text?_render hb.text?_render, decide_eq_true_eq]

end Draft

/-- **Reading and writing are inverse but for one ambiguity.**  What is read from a text is written
as that text.  What is written is read back as it was, unless it is the plain entry of two with one
text: these are an optional entry, and the plain one whose name is that text.  Entries built from
fields are equal if their names and flags are, whatever is read back, and then they have one hash
and one text. -/
theorem reading_settles_on_one_entry :
    -- from texts to entries and back
    (∀ (v : Value) (s : String), v.text? = some s →
      v.parsedEntry = .ok (Entry.parse s) ∧ (Entry.parse s).render = s) ∧
    Set.BijOn Entry.parse Set.univ {e | e.optional = true ∨ ¬ Marked e.name} ∧
    -- from entries to texts and back
    (∀ (d : Draft) (e : Entry), d.Holds e →
      d.text = .ok e.render ∧ ∃ c,
        d.render.parsedEntry = .ok (Entry.parse e.render) ∧
        (Entry.parse e.render).toDraft.compare d = .ok c ∧
        (c.equal = true ↔ e.optional = true ∨ ¬ Marked e.name)) ∧
    -- two entries
    ∀ (a b : Draft) (x y : Entry), a.Holds x → b.Holds y → ∃ c, a.compare b = .ok c ∧
      (c.equal = true ↔ x.name = y.name ∧ x.optional = y.optional) ∧
      (c.equal = true → c.sameHash = true ∧ c.sameText = true) ∧
      (c.sameText = true ∧ c.equal = false ↔
        ∃ name, (x = ⟨name, true⟩ ∧ y = ⟨name ++ "?", false⟩) ∨
          (y = ⟨name, true⟩ ∧ x = ⟨name ++ "?", false⟩)) := by
  have hread : ∀ (v : Value) (s : String), v.text? = some s →
      v.parsedEntry = .ok (Entry.parse s) := by
    intro v s h
    rw [Value.parsedEntry, Value.entryText, Value.spelled?_of_text? h, h]
    rfl
  refine ⟨fun v s h => ⟨hread v s h, Entry.render_parse s⟩, Entry.bijOn_parse, fun d e h => ?_,
    fun a b x y ha hb => ?_⟩
  · obtain ⟨c, hc, hequal, -⟩ := Draft.compare_of_holds (Entry.parse e.render).holds_toDraft h
    exact ⟨h.text, c, hread _ _ h.text?_render, hc, hequal.trans Entry.parse_render_iff⟩
  · obtain ⟨c, hc, hequal, hhash, htext⟩ := Draft.compare_of_holds ha hb
    refine ⟨c, hc, hequal.trans Entry.eq_iff, fun h => ⟨hhash h, ?_⟩, ?_⟩
    · rw [htext, hequal.mp h]
    · rw [htext, ← Bool.not_eq_true, hequal, Entry.render_eq_and_ne_iff, exists_or]
      rfl

/-- Reading takes the text `int??` for an optional entry, and a subclass of text names another one
with this text, which is not read back. -/
theorem marked_name_is_not_read_back :
    let twin : Draft := ⟨.subclass "Name" (.text "int??"), .bool false⟩
    let read : Draft := ⟨.text "int?", .bool true⟩
    twin.Holds ⟨"int??", false⟩ ∧ read.Holds ⟨"int?", true⟩ ∧ twin.text = .ok "int??" ∧
      (∃ c, (Entry.parse "int??").toDraft.compare twin = .ok c ∧ c.equal = false) ∧
      ∃ c, read.compare twin = .ok c ∧ c.sameText = true ∧ c.equal = false := by
  intro twin read
  have htwin : twin.Holds ⟨"int??", false⟩ := ⟨rfl, rfl⟩
  have hread : read.Holds ⟨"int?", true⟩ := ⟨rfl, rfl⟩
  obtain ⟨-, -, hback, htwo⟩ := reading_settles_on_one_entry
  obtain ⟨htext, c, -, hc, hequal⟩ := hback twin _ htwin
  obtain ⟨c', hc', -, -, hsame⟩ := htwo read twin _ _ hread htwin
  refine ⟨htwin, hread, htext, ⟨c, hc, ?_⟩, c', hc', hsame.mpr ⟨"int?", Or.inl ⟨rfl, rfl⟩⟩⟩
  rw [← Bool.not_eq_true, hequal]
  decide

end NominalCheck
