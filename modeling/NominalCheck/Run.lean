import NominalCheck.Fault
import NominalCheck.Trace.Event

/-!
# Runs

A run answers or faults, and on its way it calls classifiers and tells events. The calls name the
classifiers by their handles, so that the calls made so far are a history that later runs can
count in.

## Main definitions

* `Handle` — which classifier it is.
* `Run α` — an outcome with the calls and events on the way to it.
* `Run.tell`, `Run.call`, `Run.ofExcept` — the elementary runs; runs are composed as a monad.

## References

A call is one that the reference's `Checker.classify` makes, and an event one that the reference
gives to its loggers.
-/

namespace NominalCheck

/-- Which of the classifiers it is, as several may follow the same rule. -/
inductive Handle
  /-- A classifier under a name. -/
  | named (name : String)
  /-- A classifier written down in place. -/
  | inline (place : Nat)
  deriving DecidableEq, Repr, Inhabited

/-- An outcome with the classifier calls and the events on the way to it. -/
structure Run (α : Type) where
  /-- The answer or the fault. -/
  outcome : Except Fault α
  /-- The classifiers called, in order. -/
  calls : List Handle := []
  /-- The events told, in order. -/
  events : List Event := []

namespace Run

/-- The run that answers `a` at once. -/
def pure {α : Type} (a : α) : Run α := { outcome := .ok a }

/-- The first run, and after its answer the second. -/
def bind {α β : Type} (r : Run α) (f : α → Run β) : Run β :=
  match r.outcome with
  | .error e => { outcome := .error e, calls := r.calls, events := r.events }
  | .ok a =>
    let s := f a
    { outcome := s.outcome, calls := r.calls ++ s.calls, events := r.events ++ s.events }

instance : Monad Run where
  pure := Run.pure
  bind := Run.bind

/-- The run that tells one event. -/
def tell (e : Event) : Run Unit := { outcome := .ok (), events := [e] }

/-- The run that notes the call of one classifier. -/
def call (h : Handle) : Run Unit := { outcome := .ok (), calls := [h] }

/-- The run with a given outcome and nothing on the way. -/
def ofExcept {α : Type} (outcome : Except Fault α) : Run α := { outcome := outcome }

/-- The run that faults at once. -/
def fail {α : Type} (f : Fault) : Run α := { outcome := .error f }

@[simp] theorem pure_eq {α : Type} (a : α) : (Pure.pure a : Run α) = { outcome := .ok a } := rfl

/-- After a fault nothing more happens. -/
theorem bind_of_error {α β : Type} {r : Run α} {e : Fault} (h : r.outcome = .error e)
    (f : α → Run β) :
    r >>= f = { outcome := .error e, calls := r.calls, events := r.events } := by
  simp [Bind.bind, Run.bind, h]

/-- After an answer the calls and events of both runs follow one another. -/
theorem bind_of_ok {α β : Type} {r : Run α} {a : α} (h : r.outcome = .ok a) (f : α → Run β) :
    r >>= f = { outcome := (f a).outcome, calls := r.calls ++ (f a).calls,
                events := r.events ++ (f a).events } := by
  simp [Bind.bind, Run.bind, h]

end Run

end NominalCheck
