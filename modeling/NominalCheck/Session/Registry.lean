import NominalCheck.Classifier

/-!
# Registries

Who classifies: the process-wide classifier, and one classifier for each stored checker. Nothing
enters but what can be applied; the doors differ only in how they refuse.

## Main definitions

* `Registry` — the process-wide classifier and those of the stored checkers.
* `vet`, `vetConfig` — the two doors.
* `Edit` — the operations on a registry.
* `Registry.edit` — their effect.

## References

The process-wide classifier is that of the reference's `_default`. The doors are its `CheckerConfig`
and its `_validated`; the edits are its `set_classifier`, `reset_classifier`, `get_classifier`,
`Checker`, `Checker.with_classifier`, and assignments to a checker's configuration.
-/

namespace NominalCheck

/-- The process-wide classifier and those of the stored checkers. -/
structure Registry where
  /-- The process-wide classifier. -/
  ambient : Classifier := .native
  /-- The classifiers of the stored checkers, by name. -/
  checkers : List (String × Classifier) := []
  deriving Repr, Inhabited

/-- Lets a classifier in if it can be applied, else faults with its type. -/
def vet (c : Classifier) : Except Fault Classifier :=
  if c.isCallable then .ok c else .error (.notAClassifier c.typeName)

/-- The name under which the configuration of a checker is reported. -/
def configTitle : String := "CheckerConfig"

/-- The report on the classifier of a checker's configuration. -/
def configReport (complaint : Complaint) (c : Classifier) : Report :=
  .of configTitle [⟨complaint, "classifier", c.toValue⟩]

/-- Lets a classifier in if it can be applied, else faults with a report. -/
def vetConfig (c : Classifier) : Except Fault Classifier :=
  if c.isCallable then .ok c else .error (.invalid (configReport .callableType c))

/-- The two doors let the same classifiers in. -/
theorem vet_eq_ok_iff (c d : Classifier) : vet c = .ok d ↔ vetConfig c = .ok d := by
  by_cases h : c.isCallable <;> simp [vet, vetConfig, h]

namespace Registry

/-- The classifier of a stored checker. -/
def find? (r : Registry) (id : String) : Option Classifier :=
  r.checkers.lookup id

/-- The classifier of a checker that should be stored. -/
def fetch (r : Registry) (id : String) : Except Fault Classifier :=
  match r.find? id with
  | some c => .ok c
  | none => .error (.noChecker id)

/-- Stores a checker, in place of an earlier one of the same name. -/
def store (r : Registry) (id : String) (c : Classifier) : Registry :=
  { r with checkers := (id, c) :: r.checkers.filter (·.1 != id) }

@[simp] theorem ambient_store (r : Registry) (id : String) (c : Classifier) :
    (r.store id c).ambient = r.ambient := rfl

theorem lookup_filter_ne (id : String) (l : List (String × Classifier)) {other : String}
    (h : other ≠ id) : (l.filter (·.1 != id)).lookup other = l.lookup other := by
  induction l with
  | nil => rfl
  | cons p l ih =>
    obtain ⟨i, c⟩ := p
    by_cases hi : i = id
    · subst hi
      have : (other == i) = false := by simpa using h
      simp [List.lookup_cons, this, ih]
    · simp [List.lookup_cons, hi, ih]

/-- What is stored under a name is found there, and nothing changes elsewhere. -/
theorem find?_store (r : Registry) (id : String) (c : Classifier) (other : String) :
    (r.store id c).find? other = if other = id then some c else r.find? other := by
  by_cases h : other = id
  · simp [find?, store, h]
  · have : (other == id) = false := by simpa using h
    simp [find?, store, List.lookup_cons, this, lookup_filter_ne id r.checkers h, h]

end Registry

/-- An operation on a registry. -/
inductive Edit
  /-- Gives the process a classifier. -/
  | setAmbient (c : Classifier)
  /-- Gives the process the native classifier. -/
  | resetAmbient
  /-- Stores a checker with a classifier, or with the native one. -/
  | create (id : String) (c : Option Classifier)
  /-- Stores a checker made from another with a classifier of its own. -/
  | derive (base id : String) (c : Classifier)
  /-- Gives a checker the configuration of another. -/
  | copyConfig (target source : String)
  /-- Assigns to the configuration of a checker, which is fixed. -/
  | assignConfig (id : String) (c : Classifier)
  /-- Asks for the process-wide classifier. -/
  | showAmbient
  /-- Asks for the classifier of a checker. -/
  | showChecker (id : String)
  deriving Repr, Inhabited

/-- The registry after an operation, with the classifier that the operation answers, if any. -/
def Registry.edit (r : Registry) : Edit → Except Fault (Option Classifier × Registry)
  | .setAmbient c => do
    let c ← vet c
    return (none, { r with ambient := c })
  | .resetAmbient => return (none, { r with ambient := .native })
  | .create id c => do
    let c ← vetConfig (c.getD .native)
    return (some c, r.store id c)
  | .derive base id c => do
    let _ ← r.fetch base
    let c ← vet c
    return (some c, r.store id c)
  | .copyConfig target source => do
    let c ← r.fetch source
    let _ ← r.fetch target
    return (none, r.store target c)
  | .assignConfig id c => do
    let _ ← r.fetch id
    .error (.invalid (configReport .frozenInstance c))
  | .showAmbient => return (some r.ambient, r)
  | .showChecker id => do
    let c ← r.fetch id
    return (some c, r)

end NominalCheck
