import ClusterCensus.Binary64.Rounding

/-!
# Moments and ages

A moment is what some clock showed, in microseconds, and the offset of that clock from universal
time; a clock without an offset is taken to show universal time.

Ages and times on record lines are whole numbers of milliseconds or seconds. The microseconds are
first divided into seconds, then multiplied out, each step rounded to binary64, and the fraction
is dropped at the end: the rounding is part of the format.
-/
namespace ClusterCensus

open ClusterCensus.Binary64

/-- A reading of a clock. -/
structure Moment where
  /-- Microseconds between the start of 1970 and the time shown, by the clock itself. -/
  reading : Int
  /-- Microseconds that the clock is ahead of universal time. -/
  offset : Option Int
deriving DecidableEq, Inhabited

namespace Moment

/-- Microseconds since the start of 1970 in universal time. -/
def instant (m : Moment) : Int :=
  m.reading - m.offset.getD 0

/-- Microseconds as seconds on the binary64 grid. -/
def gridSeconds (micros : Int) : Rat :=
  nearest ((micros : Rat) / 1000000)

/-- Microseconds as whole milliseconds. -/
def wholeMillis (micros : Int) : Int :=
  truncate (nearest (gridSeconds micros * 1000))

/-- Microseconds as whole seconds. -/
def wholeSeconds (micros : Int) : Int :=
  truncate (gridSeconds micros)

def millisBetween (start finish : Moment) : Int :=
  wholeMillis (finish.instant - start.instant)

def epochMillis (m : Moment) : Int :=
  wholeMillis m.instant

def epochSeconds (m : Moment) : Int :=
  wholeSeconds m.instant

end Moment
end ClusterCensus
