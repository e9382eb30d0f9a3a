import NominalCheck.Entry

/-!
# The text of an entry

Reading an entry and writing it again gives the text back, whatever stands before the closing
marker.  So what an entry means can be said of its text alone: the name that is read off a text is
`n` exactly if the text is `n` and has no closing marker, or is `n` with one marker more.

## Main definitions

* `Marked s` — the text `s` closes with the marker.

## Main results

* `Entry.render_parse` — an entry is written as it was read.
* `Entry.name_parse_eq_iff`, `Entry.optional_parse_iff` — the two fields, said of the text.
-/

namespace NominalCheck

/-- A text that closes with the marker. -/
def Marked (s : String) : Prop := ∃ name, s = name ++ "?"

theorem append_marker (name : String) : name ++ "?" = name.push Entry.marker := by
  rw [String.push_eq_append]
  rfl

theorem append_marker_inj {m n : String} : m ++ "?" = n ++ "?" ↔ m = n := by
  refine ⟨fun h => ?_, fun h => by rw [h]⟩
  have hl := congrArg String.toList h
  rw [String.toList_append, String.toList_append] at hl
  exact String.toList_inj.mp (List.append_cancel_right hl)

theorem marked_append (name : String) : Marked (name ++ "?") := ⟨name, rfl⟩

theorem marked_iff_getLast? (s : String) : Marked s ↔ s.toList.getLast? = some Entry.marker := by
  constructor
  · rintro ⟨name, rfl⟩
    simp [append_marker]
  · intro h
    obtain ⟨l, hl⟩ := List.getLast?_eq_some_iff.mp h
    refine ⟨String.ofList l, String.toList_inj.mp ?_⟩
    rw [hl, append_marker, String.toList_push, String.toList_ofList]

instance (s : String) : Decidable (Marked s) := decidable_of_iff _ (marked_iff_getLast? s).symm

namespace Entry

/-- One marker is taken off, and what stands before it is the name, markers and all. -/
@[simp] theorem parse_append_marker (name : String) : parse (name ++ "?") = ⟨name, true⟩ := by
  have hl : (name ++ "?").toList = name.toList ++ [marker] := by
    rw [append_marker, String.toList_push]
  rw [parse, hl, if_pos List.getLast?_concat, List.dropLast_concat, String.ofList_toList]

theorem parse_of_not_marked {s : String} (h : ¬ Marked s) : parse s = ⟨s, false⟩ := by
  rw [marked_iff_getLast?] at h
  rw [parse, if_neg h]

/-- An entry is written as it was read. -/
@[simp] theorem render_parse (s : String) : (parse s).render = s := by
  by_cases h : Marked s
  · obtain ⟨name, rfl⟩ := h
    rw [parse_append_marker, render_optional, append_marker]
  · rw [parse_of_not_marked h, render_plain]

theorem optional_parse_iff (s : String) : (parse s).optional = true ↔ Marked s := by
  by_cases h : Marked s
  · obtain ⟨name, rfl⟩ := h
    simp [marked_append]
  · simp [parse_of_not_marked h, h]

/-- The name read off a text is `n` if the text is `n` and unmarked, or `n` with a marker. -/
theorem name_parse_eq_iff (s n : String) :
    (parse s).name = n ↔ (¬ Marked n ∧ n = s) ∨ n ++ "?" = s := by
  by_cases h : Marked s
  · obtain ⟨name, rfl⟩ := h
    rw [parse_append_marker, append_marker_inj]
    constructor
    · rintro rfl
      exact Or.inr rfl
    · rintro (⟨hn, rfl⟩ | rfl)
      · exact absurd (marked_append name) hn
      · rfl
  · rw [parse_of_not_marked h]
    constructor
    · rintro rfl
      exact Or.inl ⟨h, rfl⟩
    · rintro (⟨-, rfl⟩ | rfl)
      · rfl
      · exact absurd (marked_append n) h

end Entry

end NominalCheck
