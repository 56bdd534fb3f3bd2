/-
# The registry

What the exporter keeps: the amounts that were added to each counter, and the observations of
each summary.  A counter is a number of 64 bits, and goes on from zero when it has reached
their end.  It is there from the first addition on, be it an addition of nothing.

| metric | is there | shows |
| --- | --- | --- |
| counter | once something was added | the sum, in 64 bits |
| summary | once something was observed | how often |
-/

import MailGateway.Metrics.Recorder

namespace MailGateway
namespace Metrics

/-- What was added to counters and what was observed of summaries, last first. -/
structure Registry where
  additions : List (Key × UInt64)
  observations : List Key
  deriving DecidableEq, Repr, Inhabited

namespace Registry

/-- Nothing was added and nothing observed. -/
def empty : Registry := ⟨[], []⟩

/-- Adds to a counter. -/
def add (g : Registry) (k : Key) (amount : UInt64) : Registry :=
  { g with additions := (k, amount) :: g.additions }

/-- Observes a summary once more. -/
def observe (g : Registry) (k : Key) : Registry := { g with observations := k :: g.observations }

/-- The sum of what was added to a counter. -/
def total (g : Registry) (k : Key) : UInt64 :=
  ((g.additions.filter fun x => x.1 = k).map (·.2)).foldr (· + ·) 0

/-- The counters, each once, with their sums. -/
def counters (g : Registry) : List (Key × UInt64) :=
  (g.additions.map (·.1)).eraseDups.map fun k => (k, g.total k)

/-- The summaries, each once, and how often each was observed. -/
def summaries (g : Registry) : List (Key × Nat) :=
  g.observations.eraseDups.map fun k => (k, g.observations.count k)

/-- Counts a series: one more for a counter, one observation for a summary. -/
def count (g : Registry) (s : Series) : Registry :=
  if s.family.isSummary then g.observe s.key else g.add s.key 1

end Registry

/-- The registry that a recorder has filled. -/
def Recorder.registry (r : Recorder) : Registry :=
  r.increments.foldr (fun s g => g.count s) .empty

end Metrics
end MailGateway
