import NominalCheck.Value.Items

/-!
# Descriptors

A descriptor is a text, which is one entry, or a sequence of texts, which are alternatives in
order. A sequence is read to its end before any item is looked at, and the first item that is not
a text is the one reported.

## Main definitions

* `textsOf vs` — the texts of the values `vs`, or the first value without one.
* `Value.entryTexts d` — the entry texts of the descriptor `d`.
* `Value.entries d` — the parsed entries of `d`.
* `Value.entryText v`, `Value.parsedEntry v` — the text of a single entry, and the entry.

## References

The entry texts are the reference's `normalize_descriptor`, the entries its `parse_descriptor`, and
a single entry is read as by its `parse_entry`.
-/

namespace NominalCheck

/-- The texts of several values, or a fault that names the type of the first one without a text. -/
def textsOf : List Value → Except Fault (List String)
  | [] => .ok []
  | v :: vs => match v.text? with
    | some s => (textsOf vs).map (s :: ·)
    | none => .error (.itemNotText v.typeName)

@[simp] theorem textsOf_nil : textsOf [] = .ok [] := rfl

/-- Texts are their own texts. -/
@[simp] theorem textsOf_map_text (ss : List String) : textsOf (ss.map .text) = .ok ss := by
  induction ss with
  | nil => rfl
  | cons s ss ih => simp [textsOf, ih, Except.map]

/-- The entry texts of a sequence of `size` whole numbers: there are none. -/
def textsOfNumbers (size : Nat) : Except Fault (List String) :=
  match layOutFault? size with
  | some f => .error f
  | none => if size = 0 then .ok [] else .error (.itemNotText (Value.int 0).typeName)

namespace Value

/-- The entry texts of a descriptor. Byte strings are sequences, but no descriptors. The numbers of
a range need not be laid out to be refused. -/
def entryTexts (d : Value) : Except Fault (List String) :=
  match d.text? with
  | some s => .ok [s]
  | Option.none =>
    if d.isByteString then .error .notADescriptor
    else match d.bare with
      | .range start stop step => textsOfNumbers (rangeSize start stop step)
      | _ => match d.items? with
        | Option.none => .error .notADescriptor
        | some (.error f) => .error f
        | some (.ok vs) => textsOf vs

/-- A range is read like any other sequence. -/
theorem textsOfNumbers_eq (start stop step : Int) :
    textsOfNumbers (rangeSize start stop step) =
      match (Value.range start stop step).items? with
      | Option.none => .error .notADescriptor
      | some (.error f) => .error f
      | some (.ok vs) => textsOf vs := by
  simp only [textsOfNumbers, items?, bare]
  cases layOutFault? (rangeSize start stop step) with
  | some f => rfl
  | none =>
    cases rangeSize start stop step with
    | zero => rfl
    | succ n => simp [List.range_succ_eq_map, textsOf, text?, typeName, type, bare]

/-- The parsed entries of a descriptor. -/
def entries (d : Value) : Except Fault (List Entry) :=
  d.entryTexts.map (·.map Entry.parse)

/-- How a message names a value that is not an entry. -/
def subject : Value → String
  | .classObject self _ => "type object '" ++ self.spokenWithin 50 ++ "'"
  | .builtin .truth => "type object 'bool'"
  | .builtin .typeOf => "type object 'type'"
  | .object signs => signs.subject.getD ("'" ++ signs.type.spokenWithin 50 ++ "' object")
  | v => "'" ++ v.type.spokenWithin 50 ++ "' object"

/-- Why a value that has no text is not an entry. -/
def entryFault (v : Value) : Fault :=
  match v with
  | .builtin .displayed => .entryIsTextType
  | v => if v.isByteString then .entryIsBytes else .entryNotText v.subject

/-- The text of a single entry, which may be wrapped. -/
def entryText (v : Value) : Except Fault String :=
  match v.spelled? with
  | some s => .ok s
  | Option.none => .error v.entryFault

/-- A single entry that can be shown. Where the name stands alone it is the text of the entry, and a
wrapped name is no text. -/
def parsedEntry (v : Value) : Except Fault Entry :=
  match v.entryText with
  | .error f => .error f
  | .ok s =>
    if v.text?.isSome || (Entry.parse s).optional then .ok (Entry.parse s)
    else .error (.noEntryText v.type.spoken)

@[simp] theorem entryTexts_text (s : String) : (Value.text s).entryTexts = .ok [s] := rfl

@[simp] theorem entryText_text (s : String) : (Value.text s).entryText = .ok s := rfl

@[simp] theorem parsedEntry_text (s : String) :
    (Value.text s).parsedEntry = .ok (Entry.parse s) := rfl

end Value

end NominalCheck
