import FrontierBus.Word

/-!
# Time

Spans of time and moments are numbers of nanoseconds; moments count from the beginning of the
clock. A span is at most `Duration.longest`: 64 bits of seconds and the nanoseconds of a second. A
moment has a bit less for its seconds, so not every span can be added to it: a moment behind
`Moment.last` has no number, and whoever asks for one panics.
-/

namespace FrontierBus

namespace Duration

/-- The nanoseconds of a second. -/
def second : Nat := 1000000000

/-- The nanoseconds of a millisecond. -/
def millisecond : Nat := 1000000

/-- The longest span. -/
def longest : Nat := (Word.count64 - 1) * second + (second - 1)

/-- A number of milliseconds. -/
def ofMillis (count : Nat) : Nat :=
  count * millisecond

/-- The whole milliseconds of a span. -/
def toMillis (span : Nat) : Nat :=
  span / millisecond

end Duration

/-- The last moment that has a number. -/
def Moment.last : Nat :=
  (Word.count64 / 2 - 1) * Duration.second + (Duration.second - 1)

/-- A world with a clock, in which one can wait. -/
class Clock (World : Type) where
  /-- The present moment. -/
  now : World → Nat
  /-- The world at a moment, or as it is if the moment has passed. -/
  pauseUntil : Nat → World → World

end FrontierBus
