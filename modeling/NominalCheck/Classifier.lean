import NominalCheck.Descriptor
import NominalCheck.Matching

/-!
# Classifiers

A classifier answers the type name of a value, or whatever else stands for it. The native one
answers the name of the exact type. A ruled one follows a rule that looks at the native name or at
the number of calls before, or else is any function of that number and the value. A nested one
answers with the verdict of a check under the process-wide classifier.

## Main definitions

* `Rule` — the rules.
* `Classifier` — the classifiers, and the values that are given for one.
* `Classifier.isCallable c` — `c` can be applied to a value.
* `Classifier.ask c ambient history v` — the answer of `c` to `v`, where `ambient` is the
  process-wide classifier and `history` the calls made before.

## References

The native one is the reference's `native_classify`; to ask one is its `Checker.classify`, and what
a nested one asks is the reference's module-level `matches`.
-/

namespace NominalCheck

/-- How a classifier finds its answer. -/
inductive Rule
  /-- Always the same answer. -/
  | const (answer : Value)
  /-- One answer after the other, the last one again and again. -/
  | sequence (answers : List Value)
  /-- The native name, unless the list has another for it. -/
  | rename (names : List (String × String))
  /-- The native name behind a fixed text. -/
  | prefixed (lead : String)
  /-- No answer but an exception. -/
  | failing (e : Raised)
  /-- Whatever a user's function answers or raises, after a number of earlier calls. -/
  | function (answer : Nat → Value → Except Raised Value)
  deriving Inhabited

/-- A classifier, or a value that is given for one. -/
inductive Classifier
  /-- The name of the exact type. -/
  | native
  /-- A value as it is; it classifies if it can be applied, and answers as told here unless its
  answers are known. A function without a result answers the absence value. -/
  | value (v : Value) (answer : Value → Except Raised Value := fun _ => .ok .none)
  /-- A classifier that follows a rule. -/
  | ruled (handle : Handle) (rule : Rule)
  /-- A classifier that answers with the verdict on a descriptor. -/
  | nested (handle : Handle) (descriptor : Value)
  deriving Inhabited

/-- The answer of a rule to a value after `n` earlier calls. -/
def Rule.answer (rule : Rule) (n : Nat) (v : Value) : Except Fault Value :=
  match rule with
  | .const answer => .ok answer
  | .sequence answers => match answers[n]?.or answers.getLast? with
    | some answer => .ok answer
    | none => .error (.raised ⟨"IndexError", "list index out of range"⟩)
  | .rename names => .ok (.text ((names.lookup v.typeName).getD v.typeName))
  | .prefixed lead => .ok (.text (lead ++ v.typeName))
  | .failing e => .error (.raised e)
  | .function answer => (answer n v).mapError .raised

/-- The answer of `f` applied to `v`: what it is known to say, or else what `answer` says. -/
def Value.apply (f : Value) (answer : Value → Except Raised Value) (v : Value) :
    Except Fault Value :=
  match f.bare with
  | .builtin g => g.answer v
  | _ => if f.isCallable then (answer v).mapError .raised else .error (.notCallable f.typeName)

/-- What user code raises is no lack of a function. -/
theorem mapError_raised_ne_notCallable {α : Type} (x : Except Raised α) (name : String) :
    x.mapError Fault.raised ≠ .error (.notCallable name) := by
  intro h
  cases x <;> cases h

/-- A value that is callable never fails for not being so. -/
theorem Value.apply_ne_notCallable {f : Value} (h : f.isCallable = true)
    (answer : Value → Except Raised Value) (v : Value) (name : String) :
    f.apply answer v ≠ .error (.notCallable name) := by
  unfold Value.apply
  split
  · next g _ => exact g.answer_ne_notCallable v name
  · rw [if_pos h]
    exact mapError_raised_ne_notCallable (answer v) name

namespace Classifier

/-- Whether a classifier can be applied to a value. -/
def isCallable : Classifier → Bool
  | .value v _ => v.isCallable
  | _ => true

/-- The type name of a classifier, as the value it is. -/
def typeName : Classifier → String
  | .value v _ => v.typeName
  | _ => "function"

/-- A classifier as a value. -/
def toValue : Classifier → Value
  | .value v _ => v
  | _ => .object { type := ⟨"function", .basic⟩, callable := true }

/-- The word by which a classifier is told from others. -/
def label : Classifier → String
  | .native => "native"
  | .value _ _ => "other"
  | .ruled (.named name) _ => name
  | .nested (.named name) _ => name
  | .ruled (.inline _) _ => "inline"
  | .nested (.inline _) _ => "inline"

instance : Repr Classifier := ⟨fun c _ => c.label⟩

/-- The answer of a process-wide classifier. A nested one asks itself again, unless its descriptor
is malformed. -/
def askAmbient (c : Classifier) (history : List Handle) (v : Value) : Run Value :=
  match c with
  | .native => pure (.text v.typeName)
  | .value f answer => .ofExcept (f.apply answer v)
  | .ruled handle rule => do
    .call handle
    .ofExcept (rule.answer (history.count handle) v)
  | .nested handle descriptor => do
    .call handle
    let _ ← Run.ofExcept descriptor.entries
    .fail .endless

/-- The word for a verdict. -/
def verdict (accepted : Bool) : Value :=
  .text (if accepted then "yes" else "no")

/-- The answer of a classifier, where `ambient` is the process-wide one. -/
def ask (c ambient : Classifier) (history : List Handle) (v : Value) : Run Value :=
  match c with
  | .nested handle descriptor => do
    .call handle
    let entries ← Run.ofExcept descriptor.entries
    let given ← ambient.askAmbient (history ++ [handle]) v
    let accepted ← matching entries v given
    return verdict accepted
  | c => c.askAmbient history v

end Classifier

end NominalCheck
