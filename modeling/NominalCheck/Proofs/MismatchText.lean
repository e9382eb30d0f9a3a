import Mathlib.Data.List.Infix
import NominalCheck.Proofs.Questions

/-!
# What the text of a mismatch tells

The text of a mismatch holds the given name and what was expected, and the latter may hold several
entries in a row.  Fixed words divide them.  These begin with a character that they do not hold
again, so they never begin inside of what stands before them and end outside of it: where they
occur first, there they were put.  So nothing is lost in the text as long as the parts do not hold
the words that divide them.

## Main definitions

* `Text.Occurs part s` — the text `part` occurs in `s`.
* `Text.IsDivider d` — two occurrences of `d` never overlap.
* `FailedCheck` — a check that has ended in a mismatch, with what was read and answered for it.
* `FailedCheck.IsLegible` — its parts do not hold the words that divide them.

## Main results

* `Text.append_divider_inj` — what stands before a divider and after it can be told apart.
* `Text.intercalate_inj` — so can the texts of a row.
* `mismatch_text_tells_entries_and_name` — **the text of a mismatch tells the entries and the given
  name.**
-/

namespace NominalCheck

/-! ### Dividers -/

/-- A list that does not hold `c :: l` stands before its first occurrence, if `c` is not in `l`. -/
theorem eq_nil_of_append_eq {c : Char} {l : List Char} (hc : c ∉ l) {a x y : List Char}
    (ha : ¬ (c :: l) <:+: a) (h : (c :: l) ++ x = a ++ ((c :: l) ++ y)) : a = [] := by
  rcases List.append_eq_append_iff.mp h with ⟨b, hb, -⟩ | ⟨b, hb, hrest⟩
  · -- the occurrence on the left lies inside of `a`
    exact absurd ⟨[], b, hb.symm⟩ ha
  · cases a with
    | nil => rfl
    | cons d a =>
      exfalso
      obtain ⟨rfl, hl⟩ := List.cons_eq_cons.mp hb
      cases b with
      | nil =>
        rw [List.append_nil] at hb
        exact ha (hb ▸ List.infix_rfl)
      | cons b bs =>
        -- it ends outside of `a`, where the other one begins, so it holds `c` again
        obtain ⟨hcb, -⟩ := List.cons_eq_cons.mp hrest
        refine hc ?_
        rw [hl, hcb]
        exact List.mem_append_right a List.mem_cons_self

theorem append_append_inj {c : Char} {l : List Char} (hc : c ∉ l) {g g' x x' : List Char}
    (hg : ¬ (c :: l) <:+: g) (hg' : ¬ (c :: l) <:+: g')
    (h : g ++ ((c :: l) ++ x) = g' ++ ((c :: l) ++ x')) : g = g' ∧ x = x' := by
  -- the longer one of the two is the other one and some `a`
  have hnil : ∀ b a y z : List Char, ¬ (c :: l) <:+: b ++ a →
      (c :: l) ++ y = a ++ ((c :: l) ++ z) → a = [] := by
    intro b a y z hb hrest
    refine eq_nil_of_append_eq hc (fun hi => hb ?_) hrest
    exact hi.trans (List.suffix_append b a).isInfix
  have hsame : g = g' := by
    rcases List.append_eq_append_iff.mp h with ⟨a, ha, hrest⟩ | ⟨a, ha, hrest⟩
    · rw [ha] at hg'
      rw [ha, hnil g a x x' hg' hrest, List.append_nil]
    · rw [ha] at hg
      rw [ha, hnil g' a x' x hg hrest, List.append_nil]
  subst hsame
  exact ⟨rfl, List.append_cancel_left (List.append_cancel_left h)⟩

namespace Text

/-- The text `part` occurs in `s`. -/
def Occurs (part s : String) : Prop := ∃ before after, s = before ++ part ++ after

theorem occurs_iff_isInfix (part s : String) : Occurs part s ↔ part.toList <:+: s.toList := by
  constructor
  · rintro ⟨before, after, rfl⟩
    exact ⟨before.toList, after.toList, by simp⟩
  · rintro ⟨before, after, h⟩
    refine ⟨String.ofList before, String.ofList after, String.toList_inj.mp ?_⟩
    simp [← h]

instance (part s : String) : Decidable (Occurs part s) :=
  decidable_of_iff _ (occurs_iff_isInfix part s).symm

/-- A text whose first character is only at its front, so that two occurrences never overlap. -/
def IsDivider (d : String) : Prop := ∃ c l, d.toList = c :: l ∧ c ∉ l

variable {d : String}

/-- What stands before a divider and after it can be told apart. -/
theorem append_divider_inj (hd : IsDivider d) {g g' x x' : String} (hg : ¬ Occurs d g)
    (hg' : ¬ Occurs d g') (h : g ++ d ++ x = g' ++ d ++ x') : g = g' ∧ x = x' := by
  obtain ⟨c, l, hcl, hc⟩ := hd
  rw [occurs_iff_isInfix, hcl] at hg hg'
  have hl := congrArg String.toList h
  simp only [String.toList_append, List.append_assoc, hcl] at hl
  obtain ⟨hgl, hxl⟩ := append_append_inj hc hg hg' hl
  exact ⟨String.toList_inj.mp hgl, String.toList_inj.mp hxl⟩

theorem occurs_append (d g x : String) : Occurs d (g ++ d ++ x) := ⟨g, x, rfl⟩

/-- The texts of a row can be told apart, if there are any. -/
theorem intercalate_inj (hd : IsDivider d) {es es' : List String} (hne : es ≠ []) (hne' : es' ≠ [])
    (hes : ∀ e ∈ es, ¬ Occurs d e) (hes' : ∀ e ∈ es', ¬ Occurs d e)
    (h : d.intercalate es = d.intercalate es') : es = es' := by
  induction es generalizing es' with
  | nil => exact absurd rfl hne
  | cons e es ih =>
    cases es' with
    | nil => exact absurd rfl hne'
    | cons e' es' =>
      have he : ¬ Occurs d e := hes e List.mem_cons_self
      have he' : ¬ Occurs d e' := hes' e' List.mem_cons_self
      rcases es with _ | ⟨f, es⟩ <;> rcases es' with _ | ⟨f', es'⟩
      · rw [String.intercalate_singleton, String.intercalate_singleton] at h
        rw [h]
      · -- a row of several holds the divider, so a single text is no such row
        rw [String.intercalate_singleton, String.intercalate_cons_cons] at h
        exact absurd (h ▸ occurs_append d e' _) he
      · rw [String.intercalate_singleton, String.intercalate_cons_cons] at h
        exact absurd (h ▸ occurs_append d e _) he'
      · rw [String.intercalate_cons_cons, String.intercalate_cons_cons] at h
        obtain ⟨rfl, hrest⟩ := append_divider_inj hd he he' h
        have htail : f :: es = f' :: es' :=
          ih (List.cons_ne_nil f es) (List.cons_ne_nil f' es')
            (fun x hx => hes x (List.mem_cons_of_mem e hx))
            (fun x hx => hes' x (List.mem_cons_of_mem e hx)) hrest
        rw [htail]

end Text

open Text

/-! ### The text of a mismatch -/

/-- The words between the given name and what was expected. -/
def mismatchDivider : String := "\" (expected "

/-- The text between the entries that were expected. -/
def entryDivider : String := ", "

theorem isDivider_mismatchDivider : IsDivider mismatchDivider :=
  ⟨'"', _, rfl, by decide⟩

theorem isDivider_entryDivider : IsDivider entryDivider :=
  ⟨',', _, rfl, by decide⟩

theorem mismatchText_inj {expected given expected' given' : String}
    (hg : ¬ Occurs mismatchDivider given) (hg' : ¬ Occurs mismatchDivider given')
    (h : mismatchText expected given = mismatchText expected' given') :
    expected = expected' ∧ given = given' := by
  have hopen : given ++ mismatchDivider ++ expected = given' ++ mismatchDivider ++ expected' := by
    have hclosed := (String.append_left_inj ")").mp h
    simp only [String.append_assoc] at hclosed
    have hbody := (String.append_right_inj _).mp hclosed
    simpa only [mismatchDivider, String.append_assoc] using hbody
  obtain ⟨hgiven, hexpected⟩ := append_divider_inj isDivider_mismatchDivider hg hg' hopen
  exact ⟨hexpected, hgiven⟩

/-! ### Checks that fail -/

/-- A check that has failed on a value which the classifier has given a name. -/
structure FailedCheck where
  /-- Where it was asked. -/
  session : Session
  /-- Who was asked. -/
  target : Target
  /-- The classifier of the target. -/
  classifier : Classifier
  /-- The descriptor. -/
  descriptor : Value
  /-- The value. -/
  value : Value
  /-- The entry texts of the descriptor, with their markers. -/
  entries : List String
  /-- The classifier's answer to the value. -/
  given : Value
  /-- The text of the answer. -/
  name : String
  /-- What is raised. -/
  fault : Fault
  classifierOf_eq : session.classifierOf target = .ok classifier
  entryTexts_eq : descriptor.entryTexts = .ok entries
  ask_eq : (classifier.ask session.registry.ambient session.history value).outcome = .ok given
  text?_eq : given.text? = some name
  outcome_eq : (session.ask target (.check descriptor value)).outcome = .error fault

namespace FailedCheck

/-- The parts of the text that is raised do not hold the words that divide them, and there is at
least one entry: none would be written as a single empty one is. -/
structure IsLegible (k : FailedCheck) : Prop where
  entries_ne_nil : k.entries ≠ []
  entries : ∀ e ∈ k.entries, ¬ Occurs entryDivider e
  name : ¬ Occurs mismatchDivider k.name

/-- What is raised is the mismatch between all entries and the answer. -/
theorem fault_eq (k : FailedCheck) :
    k.fault = .mismatch ("any of: " ++ entryDivider.intercalate k.entries) k.given := by
  have houtcome := Session.outcome_ask_of_ok (q := .check k.descriptor k.value)
    k.classifierOf_eq k.entryTexts_eq
  have hanswer : (k.classifier.ask k.session.registry.ambient k.session.history
      (Question.check k.descriptor k.value).value).outcome = .ok k.given := k.ask_eq
  rw [k.outcome_eq, hanswer] at houtcome
  -- the reply is concluded from the answer alone
  have h : .error k.fault = (judge k.entries k.value k.given).raised _ := houtcome
  by_cases ha : Admits k.entries k.value k.given
  · rw [judge_of_admits ha] at h
    cases h
  · rw [judge_of_not_admits ha] at h
    exact Except.error.inj h

theorem message_fault (k : FailedCheck) :
    k.fault.message = mismatchText ("any of: " ++ entryDivider.intercalate k.entries) k.name := by
  rw [k.fault_eq]
  exact congrArg (mismatchText _) (Value.displayed_of_text? k.text?_eq)

end FailedCheck

/-- **The text of a mismatch tells the entries and the given name.**  Two texts that are equal hold
the same expected text and the same given name, unless a name holds the words between them.  So
two failed checks that raise one text had the same entries, one by one and with their markers, and
the same name was given, whoever was asked and however the descriptors were laid out. -/
theorem mismatch_text_tells_entries_and_name :
    (∀ expected given expected' given' : String,
      ¬ Occurs mismatchDivider given → ¬ Occurs mismatchDivider given' →
      mismatchText expected given = mismatchText expected' given' →
      expected = expected' ∧ given = given') ∧
    ∀ k k' : FailedCheck, k.IsLegible → k'.IsLegible → k.fault.message = k'.fault.message →
      k.fault.kind = "TypeMismatchError" ∧ k'.fault.kind = "TypeMismatchError" ∧
        k.entries = k'.entries ∧ k.name = k'.name := by
  refine ⟨fun _ _ _ _ hg hg' h => mismatchText_inj hg hg' h, fun k k' hk hk' h => ?_⟩
  rw [k.message_fault, k'.message_fault] at h
  obtain ⟨hexpected, hname⟩ := mismatchText_inj hk.name hk'.name h
  have hrow := (String.append_right_inj _).mp hexpected
  have hentries := intercalate_inj isDivider_entryDivider hk.entries_ne_nil hk'.entries_ne_nil
    hk.entries hk'.entries hrow
  refine ⟨?_, ?_, hentries, hname⟩
  · rw [k.fault_eq]
    rfl
  · rw [k'.fault_eq]
    rfl

/-- A list under a constant, and a tuple under the process-wide classifier, which has another name
for whole numbers.  Both raise one text: the name ends as the divider begins, an entry ends with a
comma and the next one begins with a blank. -/
theorem legible_mismatches_of_list_and_tuple :
    let name : String := "x\" (e"
    let items : List Value := [.text "int?", .text "a,", .text " b"]
    let expected : String := "any of: int?, a,,  b"
    let constant : Classifier := .ruled (.inline 0) (.const (.text name))
    let renamed : Classifier := .ruled (.inline 1) (.rename [("int", name)])
    let k : FailedCheck :=
      { session := {}, target := .fresh constant, classifier := constant
        descriptor := .sequence .list items, value := .float Double.nan
        entries := ["int?", "a,", " b"], given := .text name, name
        fault := .mismatch expected (.text name)
        classifierOf_eq := rfl, entryTexts_eq := rfl, ask_eq := rfl, text?_eq := rfl
        outcome_eq := rfl }
    let k' : FailedCheck :=
      { session := { registry := { ambient := renamed } }, target := .ambient
        classifier := renamed, descriptor := .sequence .tuple items, value := .int 5
        entries := ["int?", "a,", " b"], given := .text name, name
        fault := .mismatch expected (.text name)
        classifierOf_eq := rfl, entryTexts_eq := rfl, ask_eq := rfl, text?_eq := rfl
        outcome_eq := rfl }
    k.IsLegible ∧ k'.IsLegible ∧ k.fault.message = k'.fault.message ∧
      k.entries = k'.entries ∧ k.name = k'.name := by
  intro name items expected constant renamed k k'
  have hentries : ∀ e ∈ ["int?", "a,", " b"], ¬ Occurs entryDivider e := by decide
  have hname : ¬ Occurs mismatchDivider name := by decide
  have hk : k.IsLegible := ⟨List.cons_ne_nil _ _, hentries, hname⟩
  have hk' : k'.IsLegible := ⟨List.cons_ne_nil _ _, hentries, hname⟩
  obtain ⟨-, -, hes, hn⟩ := mismatch_text_tells_entries_and_name.2 k k' hk hk' rfl
  exact ⟨hk, hk', rfl, hes, hn⟩

/-- An entry that holds the divider is written as two: such a text does not tell the entries. -/
example : mismatchText ("any of: " ++ entryDivider.intercalate ["a, b"]) "int"
    = mismatchText ("any of: " ++ entryDivider.intercalate ["a", "b"]) "int" := by decide

end NominalCheck
