import NominalCheck.Assignments
import NominalCheck.Value.Dictionary
import NominalCheck.Value.Items

/-!
# Drafts of entries

An entry that is built from fields may be given any values for them. The marker is written if the
second field counts as true; if it does not, the name stands for the text, and has to be one.

## Main definitions

* `Draft` — the two fields of an entry, as they are given.
* `Draft.ofFields`, `Draft.ofArguments` — a draft from named fields, from fields by position.
* `Draft.text d`, `Draft.printed d` — the text of a draft and its printed form.
* `Draft.compare a b` — how two drafts compare.

## References

A draft is the reference's `TypeSpec` with any arguments for its two fields. Its text is that of
`TypeSpec.render`, and drafts compare as the reference's frozen data class does.
-/

namespace NominalCheck

/-- The two fields of an entry, as they are given. -/
structure Draft where
  /-- What is given for the name. -/
  name : Value
  /-- What is given for whether absence is allowed. -/
  optional : Value := .bool false
  deriving Repr, Inhabited

/-- How two drafts compare. -/
structure EntryComparison where
  /-- They are equal. -/
  equal : Bool
  /-- They have one hash. -/
  sameHash : Bool
  /-- They have one text. -/
  sameText : Bool
  deriving DecidableEq, Repr, Inhabited

/-- An entry as a draft of itself. -/
def Entry.toDraft (e : Entry) : Draft := ⟨.text e.name, .bool e.optional⟩

/-- What is wrong with the name of a field, if anything is. -/
def fieldFault? (field : String) : Option FieldFault :=
  if field = "name" ∨ field = "optional" then none
  else if field = "self" then some (.repeated field)
  else some (.unknown field)

namespace Draft

/-- The draft with the given fields. The first field that cannot be is told before a missing one. -/
def ofFields (fields : List (String × Value)) : Except Fault Draft :=
  let fields := Assignments.ofList fields
  match fields.findSome? fun p => fieldFault? p.1 with
  | some cause => .error (.badFields cause)
  | none => match fields.lookup "name" with
    | none => .error (.badFields .noName)
    | some name => .ok ⟨name, (fields.lookup "optional").getD (.bool false)⟩

/-- The draft with the given fields in order. -/
def ofArguments : List Value → Except Fault Draft
  | [] => .error (.badFields .noName)
  | [name] => .ok { name }
  | [name, optional] => .ok { name, optional }
  | arguments => .error (.badFields (.tooMany arguments.length))

/-- What stands for the text of a draft. -/
def render (d : Draft) : Value :=
  if d.optional.isTruthy then .text (d.name.displayed.push Entry.marker) else d.name

/-- The text of a draft. -/
def text (d : Draft) : Except Fault String :=
  match d.render.text? with
  | some s => .ok s
  | none => .error (.noEntryText (d.render.type.spokenWithin 200))

/-- The printed form of a draft. -/
def printed (d : Draft) : String :=
  "TypeSpec(name=" ++ d.name.printed ++ ", optional=" ++ d.optional.printed ++ ")"

/-- Why a draft has no hash, if it has none. -/
def hashFault? (d : Draft) : Option Fault :=
  (Value.firstUnhashable? [d.name, d.optional]).map fun t => .unhashable (Text.clipped 200 t)

/-- How two drafts compare: field by field, as keys are, and by what stands for their texts. -/
def compare (a b : Draft) : Except Fault EntryComparison :=
  match a.hashFault?.or b.hashFault? with
  | some f => .error f
  | none =>
    .ok ⟨a.name.sameKey b.name && a.optional.sameKey b.optional,
      a.name.sameHash b.name && a.optional.sameHash b.optional, a.render.sameKey b.render⟩

@[simp] theorem render_toDraft (e : Entry) : e.toDraft.render = .text e.render := by
  cases e with
  | mk name optional => cases optional <;> rfl

/-- The text of an entry is that of its draft. -/
@[simp] theorem text_toDraft (e : Entry) : e.toDraft.text = .ok e.render := by
  rw [text, render_toDraft]
  rfl

end Draft

end NominalCheck
