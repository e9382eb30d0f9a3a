import NominalCheck.Proofs.Questions

/-!
# The specification of a check

What a check and its predicate form come to, for any state, any target and any descriptor, in terms
of the raw entry texts and of the one answer of the classifier.  The answer is compared with names
by its own notion of equality: a text equals itself alone, a wrapped text equals what it wraps, and
an object may equal any text it likes.

## Main results

* `Session.check_and_accepts_meet_admission` — **a check accepts exactly what the raw entry texts
  admit**, after a single call of the classifier.
* `Session.accepts_wrapped_name` — the answer need not be a text for a value to be accepted.
-/

namespace NominalCheck

namespace Session

/-- **A check accepts exactly what the raw entry texts admit.**  A descriptor that cannot be read is
the fault and nobody is called; else the classifier is called once and its fault is the fault; else
its answer decides, and is given in the one mismatch that is raised.  Where the answer is a text, it
decides by that text alone. -/
theorem check_and_accepts_meet_admission (s : Session) (t : Target) (c : Classifier)
    (hc : s.classifierOf t = .ok c) (d v : Value) :
    let check := s.ask t (.check d v)
    let accepts := s.ask t (.accepts d v)
    let answer := c.ask s.registry.ambient s.history v
    (∀ f, d.entryTexts = .error f →
      check.outcome = .error f ∧ check.calls = [] ∧
        accepts.outcome = .error f ∧ accepts.calls = []) ∧
    (∀ es, d.entryTexts = .ok es →
      -- the one call is noted under the classifier's handle, before those of a nested check
      check.calls = c.handle?.toList ++ c.innerCalls s.registry.ambient s.history v ∧
      accepts.calls = check.calls ∧
      (∀ f, answer.outcome = .error f → check.outcome = .error f ∧ accepts.outcome = .error f) ∧
      (∀ given, answer.outcome = .ok given →
        (Admits es v given →
          check.outcome = .ok .done ∧ accepts.outcome = .ok (.truth true)) ∧
        (¬ Admits es v given →
          accepts.outcome = .ok (.truth false) ∧
          ∃ f, check.outcome = .error f ∧
            f = .mismatch ("any of: " ++ ", ".intercalate es) given ∧
            f.kind = "TypeMismatchError" ∧
            f.message = "Unexpected value of type \"" ++ given.displayed ++ "\" (expected " ++
              ("any of: " ++ ", ".intercalate es) ++ ")") ∧
        (∀ n, given.text? = some n →
          (Admits es v given ↔
            (¬ Marked n ∧ n ∈ es) ∨ n ++ "?" ∈ es ∨ (v = .none ∧ ∃ e ∈ es, Marked e))))) := by
  intro check accepts answer
  refine ⟨fun f hf => ?_, fun es hes => ?_⟩
  · have hcheck := ask_of_unreadable (q := .check d v) hc hf
    have haccepts := ask_of_unreadable (q := .accepts d v) hc hf
    exact ⟨hcheck.1, hcheck.2, haccepts.1, haccepts.2⟩
  · have hcalls : check.calls = answer.calls := calls_ask_of_ok hc hes
    have hcalls' : accepts.calls = answer.calls := calls_ask_of_ok hc hes
    have hout : check.outcome = answer.outcome >>= (Question.check d v).conclude es :=
      outcome_ask_of_ok hc hes
    have hout' : accepts.outcome = answer.outcome >>= (Question.accepts d v).conclude es :=
      outcome_ask_of_ok hc hes
    refine ⟨?_, hcalls'.trans hcalls.symm, fun f hf => ?_, fun given hgiven => ?_⟩
    · rw [hcalls]
      exact Classifier.calls_ask ..
    · rw [hout, hout', hf]
      exact ⟨rfl, rfl⟩
    · rw [hout, hout', hgiven]
      -- what is left is the verdict on the answer, told and raised
      change (_ → (judge es v given).raised _ = _ ∧ (judge es v given).told = _) ∧
        (_ → (judge es v given).told = _ ∧ ∃ f, (judge es v given).raised _ = _ ∧ _) ∧ _
      refine ⟨fun ha => ?_, fun ha => ?_, fun n hn => admits_iff_of_text? hn⟩
      · rw [judge_of_admits ha]
        exact ⟨rfl, rfl⟩
      · rw [judge_of_not_admits ha]
        exact ⟨rfl, _, rfl, rfl, rfl, rfl⟩

/-- A checker whose classifier answers one name after the other, asked for the second time: the name
`int?` is admitted by the text `int??`, from which one marker is taken off. -/
theorem check_accepts_second_answer :
    let c : Classifier := .ruled (.named "names") (.sequence [.text "int", .text "int?"])
    let s : Session := { registry := { checkers := [("k", c)] }, history := [.named "names"] }
    let d : Value := .sequence .tuple [.text "int", .text "int??"]
    s.classifierOf (.stored "k") = .ok c ∧ d.entryTexts = .ok ["int", "int??"] ∧
      (s.ask (.stored "k") (.check d (.int 5))).outcome = .ok .done ∧
      (s.ask (.stored "k") (.check d (.int 5))).calls = [.named "names"] := by
  intro c s d
  have h := (check_and_accepts_meet_admission s (.stored "k") c rfl d (.int 5)).2
    ["int", "int??"] rfl
  have ha : Admits ["int", "int??"] (.int 5) (.text "int?") := by decide
  exact ⟨rfl, rfl, ((h.2.2.2 (.text "int?") rfl).1 ha).1, h.1⟩

/-- A wrapped text equals the text inside, so it names a type although it is no text: to ask for an
answer that is itself a text would be to refuse what is accepted. -/
theorem accepts_wrapped_name :
    let given : Value := .wrappedText "int"
    let c : Classifier := .ruled (.inline 0) (.const given)
    let s : Session := {}
    s.classifierOf (.fresh c) = .ok c ∧ (Value.text "int").entryTexts = .ok ["int"] ∧
      (c.ask s.registry.ambient s.history (.int 5)).outcome = .ok given ∧
      ¬ ((∃ n, given.text? = some n ∧ ¬ Marked n ∧ n ∈ ["int"]) ∨
        (∃ n, given.text? = some n ∧ n ++ "?" ∈ ["int"]) ∨
        (Value.int 5 = .none ∧ ∃ e ∈ ["int"], Marked e)) ∧
      (s.ask (.fresh c) (.accepts (.text "int") (.int 5))).outcome = .ok (.truth true) := by
  refine ⟨rfl, rfl, rfl, ?_, rfl⟩
  rintro (⟨n, hn, -⟩ | ⟨n, hn, -⟩ | ⟨hv, -⟩)
  · cases hn
  · cases hn
  · cases hv

end Session

end NominalCheck
