/-
# One recorder per process

A process has one place for a recorder, which is taken once and for good, and counts go to whoever
has it.  The first `install` builds a recorder, keeps a handle to it and offers it for the place:
if the place is free, the recorder takes it and counts everything from then on; if another
recorder has it, one warning is reported, and the library's recorder, which is handed out all the
same, stays empty.  Later installs hand out the handle that was kept.

A handle is the number of the recorder among those that were built.  What a family is said to
count is fixed (`Family.help`), so that describing the families leaves nothing to keep.
-/

import MailGateway.Log.Event
import MailGateway.Metrics.Exposition

namespace MailGateway
namespace Metrics

/-- Which of the recorders that were built a page is asked from. -/
abbrev Handle := Nat

/-- Who receives the counts of a process. -/
inductive Owner where
  | nobody
  | library (handle : Handle)
  | other
  deriving DecidableEq, Repr

/-- The place for a recorder, the handle that was kept, and the registries of the recorders that
were built. -/
structure Slot where
  owner : Owner
  kept : Option Handle
  built : List Registry
  deriving DecidableEq, Repr

namespace Slot

/-- A process that has just begun. -/
def fresh : Slot := ⟨.nobody, none, []⟩

/-- Another recorder asks for the place; told is whether it got it. -/
def takeByOther (s : Slot) : Slot × Bool :=
  match s.owner with
  | .nobody => ({ s with owner := .other }, true)
  | _ => (s, false)

/-- A recorder that was built asks for the place. -/
def offer (s : Slot) (handle : Handle) : Slot × List Log.Event :=
  match s.owner with
  | .nobody => ({ s with owner := .library handle }, [])
  | _ => (s, [.recorderTaken])

/-- Sets the library's recorder up, and keeps its handle. -/
def install (s : Slot) : Slot × List Log.Event :=
  match s.kept with
  | some _ => (s, [])
  | none =>
    let handle := s.built.length
    let (offered, events) := offer { s with built := s.built ++ [Registry.empty] } handle
    ({ offered with kept := some handle }, events)

/-- Something is recorded; only the recorder in the place learns of it. -/
def record (s : Slot) (change : Registry → Registry) : Slot :=
  match s.owner with
  | .library handle => { s with built := s.built.modify handle change }
  | _ => s

/-- Adds to a counter. -/
def add (s : Slot) (k : Key) (amount : UInt64) : Slot := s.record (·.add k amount)

/-- Counts a series. -/
def count (s : Slot) (series : Series) : Slot := s.record (·.count series)

/-- The page of a recorder that was built. -/
def page (s : Slot) (handle : Handle) : Exposition :=
  ((s.built[handle]?).getD .empty).exposition

/-- The page of the recorder that was handed out. -/
def render (s : Slot) : Exposition := s.page (s.kept.getD 0)

end Slot
end Metrics
end MailGateway
