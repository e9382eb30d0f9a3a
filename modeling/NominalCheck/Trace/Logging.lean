import NominalCheck.Trace.Line

/-!
# Logging

Events go to the package's logger. A logger lets events of its level or above pass, a logger
without a level takes that of the root. What passes goes to each handler of the package and, unless
that is stopped, of the root; where there is none, a warning is still written, by itself.

## Main definitions

* `Logger` — a level, handlers, and whether events go on to the root.
* `Logging` — the package's logger and the root.
* `Logging.configure` — installs one handler in place of all others.
* `Logging.lets l e` — the event passes.
* `Logging.lines l e` — the lines that come of an event.

## References

`Logging.configure` is the reference's `configure_logging`; the handler it installs writes to the
error channel. What passes and what becomes of it follows the documentation of the logging library
that the reference uses.
-/

namespace NominalCheck

/-- A logger. -/
structure Logger where
  /-- The least severity that passes; zero if the logger has no level of its own. -/
  level : Nat := 0
  /-- The formats of the handlers. -/
  handlers : List Format := []
  /-- Whether events go on to the root. -/
  propagate : Bool := true
  deriving DecidableEq, Repr, Inhabited

/-- The loggers that events meet. -/
structure Logging where
  /-- The logger of the package. -/
  package : Logger := {}
  /-- The root of all loggers. -/
  root : Logger := { level := Level.warning.severity }
  deriving DecidableEq, Repr, Inhabited

namespace Logging

/-- The level that decides what passes. -/
def effectiveLevel (l : Logging) : Nat :=
  if l.package.level = 0 then l.root.level else l.package.level

/-- The handlers that an event reaches. -/
def handlers (l : Logging) : List Format :=
  l.package.handlers ++ if l.package.propagate then l.root.handlers else []

/-- Whether an event passes; where it does not, no record is made of it. -/
def lets (l : Logging) (e : Event) : Bool :=
  l.effectiveLevel ≤ e.level.severity

/-- The lines that come of an event. -/
def lines (l : Logging) (e : Event) : List Line :=
  if l.lets e = false then []
  else if l.handlers.isEmpty then
    if e.level.severity < Level.warning.severity then [] else [⟨.bare, e⟩]
  else l.handlers.map (⟨·, e⟩)

/-- The format chosen by the switches: JSON, or columns that are coloured on a terminal. -/
def formatFor (json terminal : Bool) : Format :=
  if json then .json else .console terminal

/-- Installs one handler on the package's logger in place of all others, sets its level, and stops
its events from going on. -/
def configure (l : Logging) (verbose json terminal : Bool) : Logging :=
  { l with
    package :=
      { level := (if verbose then Level.debug else Level.warning).severity
        handlers := [formatFor json terminal]
        propagate := false } }

@[simp] theorem root_configure (l : Logging) (verbose json terminal : Bool) :
    (l.configure verbose json terminal).root = l.root := rfl

/-- Of two configurations the later one alone shows. -/
@[simp] theorem configure_configure (l : Logging) (v j t v' j' t' : Bool) :
    (l.configure v j t).configure v' j' t' = l.configure v' j' t' := rfl

end Logging

end NominalCheck
