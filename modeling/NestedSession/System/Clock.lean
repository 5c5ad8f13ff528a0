/-!
# System/Clock — spans of time, and what a clock can count

A span is a number of nanoseconds.  Settings give spans in seconds and milliseconds, each a 64-bit
count, so every span is below `2^64` seconds.  The steady clock counts seconds in 63 bits: a moment
too far ahead does not exist (`Moment.after?`).
-/

namespace NestedSession

/-- A span of time, in nanoseconds. -/
abbrev Span := Nat

namespace Span

/-- A span of whole seconds. -/
def ofSeconds (s : UInt64) : Span := s.toNat * 1000000000

/-- A span of whole milliseconds. -/
def ofMillis (ms : UInt64) : Span := ms.toNat * 1000000

/-- The smallest step of a waiting loop, one millisecond. -/
def millisecond : Span := 1000000

end Span

/-- A reading of the steady clock, in nanoseconds. -/
structure Moment where
  nanoseconds : Nat
  deriving DecidableEq, Repr, Inhabited

namespace Moment

/-- The first reading that the clock cannot show: its seconds are a signed 64-bit number. -/
def limit : Nat := Nat.pow 2 63 * 1000000000

/-- **The moment a span ahead**, if the clock can ever show it. -/
def after? (m : Moment) (span : Span) : Option Moment :=
  if m.nanoseconds + span < limit then some ⟨m.nanoseconds + span⟩ else none

end Moment

/-- A clock that lets no time pass and counts what it was asked for. -/
structure SleepTally where
  slept : UInt64
  sleeps : Nat
  deriving DecidableEq, Repr, Inhabited

namespace SleepTally

/-- Nothing was asked for yet. -/
def zero : SleepTally := ⟨0, 0⟩

/-- **Ask for a sleep.**  A span of `2^64` nanoseconds or more counts as one less than that; the
sum is a 64-bit word and wraps. -/
def sleep (t : SleepTally) (span : Span) : SleepTally :=
  ⟨t.slept + UInt64.ofNat (min span (UInt64.size - 1)), t.sleeps + 1⟩

end SleepTally

end NestedSession
