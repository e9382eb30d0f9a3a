/-!
# Entries

An entry names one type that a value may have. Its text is the name, followed by the marker `?` if
the value may also be absent. Reading strips a single closing marker, so a name may itself end in
markers.

## Main definitions

* `Entry` — a name and whether absence is allowed.
* `Entry.parse s` — the entry with the text `s`.
* `Entry.render e` — the text of `e`.

## References

`Entry` is the reference's `TypeSpec`, `Entry.parse` its `parse_entry` and `Entry.render` its
`TypeSpec.render`; the marker is its `OPTIONAL_MARKER`.
-/

namespace NominalCheck

/-- One type that a value may have. -/
structure Entry where
  /-- The type name that is compared. -/
  name : String
  /-- Whether an absent value is accepted as well. -/
  optional : Bool := false
  deriving DecidableEq, Repr, Inhabited, Hashable

namespace Entry

/-- The closing character that allows absence. -/
def marker : Char := '?'

/-- The text of an entry: the name, and the marker exactly if absence is allowed. -/
def render (e : Entry) : String :=
  if e.optional then e.name.push marker else e.name

/-- The entry with the text `s`: one closing marker is taken off. -/
def parse (s : String) : Entry :=
  if s.toList.getLast? = some marker then ⟨String.ofList s.toList.dropLast, true⟩ else ⟨s, false⟩

@[simp] theorem render_optional (name : String) : render ⟨name, true⟩ = name.push marker := rfl

@[simp] theorem render_plain (name : String) : render ⟨name, false⟩ = name := rfl

end Entry

end NominalCheck
