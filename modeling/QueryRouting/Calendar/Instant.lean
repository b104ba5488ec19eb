import QueryRouting.Calendar.TimeOfDay

/-!
# Instants

Points in time as seconds since the start of 1970, rounded down, and the
nanoseconds gone since that second began.  As in a time of day, a second may run on for
a leap second.

## Main definitions

* `Instant`, `Instant.of?` — an instant, and the check on its parts.
* `Instant.micros` — microseconds since the start of 1970, rounded down.
* `Instant.ofMillis?` — the instant of a number of milliseconds.
-/

namespace QueryRouting

namespace Instant

/-- The first second of the calendar. -/
def firstSecond : Int := -8334601228800

/-- The last second of the calendar. -/
def lastSecond : Int := 8210266876799

end Instant

/-- A point in time, possibly within a leap second. -/
@[ext]
structure Instant where
  second : Int
  nanosecond : Nat
  second_mem : Instant.firstSecond ≤ second ∧ second ≤ Instant.lastSecond
  nanosecond_lt : nanosecond < 2 * nanosPerSecond
  deriving Repr

namespace Instant

instance : DecidableEq Instant := fun _ _ => decidable_of_iff _ Instant.ext_iff.symm

/-- The instant of a second and the nanoseconds since it began.  Only the last second of
a minute may run on. -/
def of? (second : Int) (nanosecond : Nat) : Option Instant :=
  if hs : firstSecond ≤ second ∧ second ≤ lastSecond then
    if hn : nanosecond < nanosPerSecond ∨ (second % 60 = 59 ∧ nanosecond < 2 * nanosPerSecond) then
      some ⟨second, nanosecond, hs, by omega⟩
    else none
  else none

/-- Whether the instant lies within a leap second. -/
def isLeap (t : Instant) : Bool := nanosPerSecond ≤ t.nanosecond

theorem isLeap_eq_false_iff {t : Instant} :
    t.isLeap = false ↔ t.nanosecond < nanosPerSecond := by
  simp [isLeap]

/-- Microseconds since the start of 1970, rounded down. -/
def micros (t : Instant) : Int := t.second * 1000000 + (t.nanosecond / 1000 : Nat)

/-- The instant a number of milliseconds after the start of 1970. -/
def ofMillis? (n : Int) : Option Instant := of? (n / 1000) ((n % 1000).toNat * 1000000)

end Instant

end QueryRouting
