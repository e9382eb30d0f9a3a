import NominalCheck.Classifier

/-!
# Checkers

A checker puts questions about values to its classifier. Each question reads its descriptor first,
then calls the classifier once, then tries the entries; the throwing form and the predicate differ
only in what they make of a value that no entry accepts.

## Main definitions

* `Checker` — a classifier, the process-wide one, and the calls made so far.
* `Checker.check`, `Checker.accepts` — a value against a descriptor.
* `Checker.assertEntry`, `Checker.acceptsEntry` — a value against one entry.
* `Checker.classify` — the classifier's answer itself.

## References

The five questions are the methods `check`, `matches`, `assert_type`, `matches_type` and `classify`
of the reference's `Checker`.
-/

namespace NominalCheck

/-- A classifier in its surroundings. -/
structure Checker where
  /-- The classifier that the checker holds. -/
  classifier : Classifier
  /-- The process-wide classifier, which nested checks use. -/
  ambient : Classifier
  /-- The classifier calls made so far. -/
  history : List Handle

/-- What a check declares: all its entries, even if there is one or none. -/
def expectedText (es : List Entry) : String :=
  "any of: " ++ ", ".intercalate (es.map Entry.render)

namespace Checker

/-- The classifier's answer to a value. -/
def classify (k : Checker) (v : Value) : Run Value :=
  k.classifier.ask k.ambient k.history v

/-- Whether the value is accepted by an entry of the descriptor. -/
def accepts (k : Checker) (descriptor v : Value) : Run Bool := do
  let entries ← Run.ofExcept descriptor.entries
  let given ← k.classify v
  matching entries v given

/-- Faults unless the value is accepted by an entry of the descriptor. -/
def check (k : Checker) (descriptor v : Value) : Run Unit := do
  .tell (.check descriptor v)
  let entries ← Run.ofExcept descriptor.entries
  let given ← k.classify v
  let accepted ← matching entries v given
  if accepted then return () else .fail (.mismatch (expectedText entries) given)

/-- Whether the value is accepted by one entry. -/
def acceptsEntry (k : Checker) (entry v : Value) : Run Bool := do
  let text ← Run.ofExcept entry.entryText
  let given ← k.classify v
  matchingOne (Entry.parse text) v given

/-- Faults unless the value is accepted by one entry. -/
def assertEntry (k : Checker) (entry v : Value) : Run Unit := do
  let text ← Run.ofExcept entry.entryText
  let given ← k.classify v
  let accepted ← matchingOne (Entry.parse text) v given
  if accepted then return () else .fail (.mismatch (Entry.parse text).render given)

end Checker

end NominalCheck
