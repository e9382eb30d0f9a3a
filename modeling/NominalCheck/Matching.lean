import NominalCheck.Run

/-!
# Matching

Entries are tried from left to right until one accepts. An entry accepts a value whose given name
is the entry's name, and an optional one accepts an absent value whatever its name.

## Main definitions

* `Entry.accepts e v given` — the entry `e` accepts the value `v` that was named `given`.
* `trials v given es` — the events of trying the entries `es`.
* `matching es v given` — whether some entry accepts, with the events on the way.

## References

The reference's `Checker._spec_matches` is `Entry.accepts` with its event, and its
`Checker._first_match` is `matching`.
-/

namespace NominalCheck

/-- Whether an entry accepts a value that was given a name: what was given equals the entry's name,
or the entry is optional and the value absent. -/
def Entry.accepts (e : Entry) (v given : Value) : Bool :=
  given.equals e.name || (e.optional && v.isAbsent)

/-- The events of trying entries in order: each is tested, and told to have failed unless it
accepts; after the first that accepts no other is tried. -/
def trials (v given : Value) : List Entry → List Event
  | [] => []
  | e :: es =>
    if e.accepts v given then [.testing e.name v]
    else .testing e.name v :: .failed e v :: trials v given es

@[simp] theorem trials_nil (v given : Value) : trials v given [] = [] := rfl

theorem trials_cons_of_accepts {e : Entry} {v given : Value} (h : e.accepts v given = true)
    (es : List Entry) : trials v given (e :: es) = [.testing e.name v] := by
  simp [trials, h]

theorem trials_cons_of_not_accepts {e : Entry} {v given : Value} (h : e.accepts v given = false)
    (es : List Entry) :
    trials v given (e :: es) = .testing e.name v :: .failed e v :: trials v given es := by
  simp [trials, h]

/-- Whether some entry accepts a value, with the events of trying them. -/
def matching (es : List Entry) (v given : Value) : Run Bool :=
  { outcome := .ok (es.any (·.accepts v given)), events := .trying v es :: trials v given es }

/-- Whether one entry accepts a value, with the event of testing it. -/
def matchingOne (e : Entry) (v given : Value) : Run Bool :=
  { outcome := .ok (e.accepts v given), events := [.testing e.name v] }

end NominalCheck
