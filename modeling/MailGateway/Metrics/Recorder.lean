/-
# The recorder

A recorder is the list of its increments, last first; the value of a series is how
often it stands there.  So a value depends on what was counted and not on the order.
-/

import MailGateway.Metrics.Series

namespace MailGateway
namespace Metrics

/-- What has been counted, last first. -/
structure Recorder where
  increments : List Series
  deriving DecidableEq, Repr

namespace Recorder

/-- Nothing has been counted. -/
def empty : Recorder := ⟨[]⟩

/-- Counts one more of a series. -/
def count (r : Recorder) (s : Series) : Recorder := ⟨s :: r.increments⟩

/-- Counts each series of a list, in order. -/
def countAll (r : Recorder) (ss : List Series) : Recorder := ss.foldl count r

/-- The value of a series. -/
def value (r : Recorder) (s : Series) : Nat := r.increments.count s

/-- The series that have a value, each once. -/
def series (r : Recorder) : List Series := r.increments.eraseDups

@[simp] theorem value_empty (s : Series) : empty.value s = 0 := rfl

theorem value_count (r : Recorder) (s t : Series) :
    (r.count s).value t = r.value t + if s = t then 1 else 0 := by
  simp [count, value, List.count_cons]

end Recorder
end Metrics
end MailGateway
