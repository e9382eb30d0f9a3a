import NominalCheck.Session.Action
import NominalCheck.Proofs.EntryText

/-!
# Admission by raw entry texts

Which values a list of entries accepts, said of the entry texts as they are given: nothing here
speaks of a name or a flag.  Trying parsed entries one after the other, up to the first that
accepts, decides exactly this relation.

The classifier's answer is compared with names as a value is compared with a text, so it need not be
a text itself.  An answer that is one is the name it names.

## Main definitions

* `Admits es v given` — the entry texts `es` admit the value `v`, which the classifier answers by
  `given`.
* `Verdict`, `judge` — how a question about acceptance ends, and how once there is an answer.
* `Verdict.told`, `Verdict.raised` — a verdict in the predicate form and in the throwing form.

## Main results

* `admits_iff_exists` — a list admits what one of its texts admits alone.
* `any_accepts_iff` — trying the parsed entries decides admission.
* `admits_iff_of_text?` — admission where the answer is a text.
-/

namespace NominalCheck

/-- The entry texts admit the value: its name is one of them and has no closing marker, or with a
marker more it is one, or the value is absent and one has a marker. A name is what the answer
equals. -/
def Admits (es : List String) (v given : Value) : Prop :=
  (∃ n ∈ es, ¬ Marked n ∧ given.equals n = true) ∨ (∃ n, given.equals n = true ∧ n ++ "?" ∈ es) ∨
    (v = .none ∧ ∃ e ∈ es, Marked e)

variable {es : List String} {v given : Value}

/-- A list admits what one of its texts admits alone. -/
theorem admits_iff_exists : Admits es v given ↔ ∃ e ∈ es, Admits [e] v given := by
  constructor
  · rintro (⟨n, he, hm, hn⟩ | ⟨n, hn, he⟩ | ⟨hv, e, he, hm⟩)
    · exact ⟨n, he, Or.inl ⟨n, List.mem_singleton_self n, hm, hn⟩⟩
    · exact ⟨n ++ "?", he, Or.inr (Or.inl ⟨n, hn, List.mem_singleton_self _⟩)⟩
    · exact ⟨e, he, Or.inr (Or.inr ⟨hv, e, List.mem_singleton_self e, hm⟩)⟩
  · rintro ⟨e, he, ⟨n, hne, hm, hn⟩ | ⟨n, hn, hne⟩ | ⟨hv, e', hee, hm⟩⟩
    · exact Or.inl ⟨n, List.mem_singleton.mp hne ▸ he, hm, hn⟩
    · exact Or.inr (Or.inl ⟨n, hn, List.mem_singleton.mp hne ▸ he⟩)
    · exact Or.inr (Or.inr ⟨hv, e', List.mem_singleton.mp hee ▸ he, hm⟩)

/-- A parsed entry accepts exactly what its text admits. -/
theorem Entry.accepts_parse_iff (e : String) (v given : Value) :
    (Entry.parse e).accepts v given = true ↔ Admits [e] v given := by
  have hname : given.equals (Entry.parse e).name = true ↔
      ∃ n, given.equals n = true ∧ ((¬ Marked n ∧ n = e) ∨ n ++ "?" = e) := by
    simp only [← Entry.name_parse_eq_iff]
    exact ⟨fun h => ⟨_, h, rfl⟩, fun ⟨n, h, hn⟩ => hn ▸ h⟩
  rw [Entry.accepts, Bool.or_eq_true, Bool.and_eq_true, hname, Entry.optional_parse_iff,
    Value.isAbsent_iff]
  simp only [Admits, List.mem_singleton, exists_eq_left]
  constructor
  · rintro (⟨n, hn, ⟨hm, rfl⟩ | he⟩ | ⟨hm, hv⟩)
    · exact Or.inl ⟨hm, hn⟩
    · exact Or.inr (Or.inl ⟨n, hn, he⟩)
    · exact Or.inr (Or.inr ⟨hv, hm⟩)
  · rintro (⟨hm, hn⟩ | ⟨n, hn, he⟩ | ⟨hv, hm⟩)
    · exact Or.inl ⟨e, hn, Or.inl ⟨hm, rfl⟩⟩
    · exact Or.inl ⟨n, hn, Or.inr he⟩
    · exact Or.inr ⟨hm, hv⟩

/-- Trying the parsed entries decides admission by their texts. -/
theorem any_accepts_iff (es : List String) (v given : Value) :
    (es.map Entry.parse).any (·.accepts v given) = true ↔ Admits es v given := by
  rw [admits_iff_exists, List.any_map, List.any_eq_true]
  simp only [Function.comp_apply, Entry.accepts_parse_iff]

instance (es : List String) (v given : Value) : Decidable (Admits es v given) :=
  decidable_of_iff _ (any_accepts_iff es v given)

/-- An answer that is a text is compared by that text alone. -/
theorem admits_iff_of_text? {s : String} (h : given.text? = some s) :
    Admits es v given ↔
      (¬ Marked s ∧ s ∈ es) ∨ s ++ "?" ∈ es ∨ (v = .none ∧ ∃ e ∈ es, Marked e) := by
  simp only [Admits, Value.equals_of_text? h, exists_eq_left]
  refine or_congr_left ⟨?_, fun ⟨hm, he⟩ => ⟨s, he, hm, rfl⟩⟩
  rintro ⟨n, he, hm, rfl⟩
  exact ⟨hm, he⟩

theorem Entry.accepts_parse_eq (e : String) (v given : Value) :
    (Entry.parse e).accepts v given = decide (Admits [e] v given) := by
  rw [Bool.eq_iff_iff, accepts_parse_iff, decide_eq_true_eq]

theorem any_accepts_eq (es : List String) (v given : Value) :
    (es.map Entry.parse).any (·.accepts v given) = decide (Admits es v given) := by
  rw [Bool.eq_iff_iff, any_accepts_iff, decide_eq_true_eq]

/-! ### Verdicts -/

/-- How a question about acceptance ends. -/
inductive Verdict
  /-- The value is accepted. -/
  | accepted
  /-- The value is refused under the classifier's answer. -/
  | rejected (given : Value)
  /-- Something could not be read, or the classifier has failed. -/
  | failed (f : Fault)
  deriving Repr, Inhabited

/-- The verdict on a value that has been given an answer. -/
def judge (es : List String) (v given : Value) : Verdict :=
  if Admits es v given then .accepted else .rejected given

theorem judge_of_admits (h : Admits es v given) :
    judge es v given = .accepted := if_pos h

theorem judge_of_not_admits (h : ¬ Admits es v given) :
    judge es v given = .rejected given := if_neg h

namespace Verdict

/-- A verdict as a truth value. -/
def told : Verdict → Except Fault Reply
  | accepted => .ok (.truth true)
  | rejected _ => .ok (.truth false)
  | failed f => .error f

/-- A verdict as a demand, where `expected` is declared. -/
def raised (expected : String) : Verdict → Except Fault Reply
  | accepted => .ok .done
  | rejected given => .error (.mismatch expected given)
  | failed f => .error f

/-- The two forms together tell verdicts apart. -/
theorem eq_of_told_of_raised {w w' : Verdict} {x x' : String} (h : w.told = w'.told)
    (h' : w.raised x = w'.raised x') : w = w' := by
  cases w with
  | accepted => cases w' <;> simp_all [told]
  | rejected given => cases w' <;> simp_all [told, raised]
  | failed f => cases w' <;> simp_all [told]

end Verdict

theorem told_judge (es : List String) (v given : Value) :
    (judge es v given).told = .ok (.truth (decide (Admits es v given))) := by
  by_cases h : Admits es v given
  · rw [judge_of_admits h, decide_eq_true h]
    rfl
  · rw [judge_of_not_admits h, decide_eq_false h]
    rfl

/-- A demand is met by what is admitted. -/
theorem raised_judge_eq_ok_iff {expected : String} {r : Reply} :
    (judge es v given).raised expected = .ok r ↔ Admits es v given ∧ r = .done := by
  by_cases h : Admits es v given
  · rw [judge_of_admits h]
    simp only [Verdict.raised, Except.ok.injEq, h, true_and, eq_comm]
  · rw [judge_of_not_admits h]
    simp only [Verdict.raised, reduceCtorEq, h, false_and]

end NominalCheck
