import QueryRouting.Text.Numeral

/-!
# Times of day

A second of the day and the nanoseconds gone since it began.  A second may run on for
another one, a leap second: then the nanoseconds reach up to two thousand million.  A
clock shows this at the last second of a minute only, but the nanoseconds of a time may
be changed afterwards, so any second of a time may run on.

## Main definitions

* `TimeOfDay`, `TimeOfDay.of?`, `TimeOfDay.ofClock?` — a time, and the checks on its parts.
* `TimeOfDay.nanos`, `TimeOfDay.ofNanos?` — nanoseconds since midnight.
* `TimeOfDay.render` — the text, as in `23:59:60.500`.
-/

namespace QueryRouting

/-- The number of nanoseconds in a second. -/
def nanosPerSecond : Nat := 1000000000

/-- The number of nanoseconds in a day. -/
def nanosPerDay : Nat := 86400 * nanosPerSecond

/-- A time of day, possibly within a leap second. -/
structure TimeOfDay where
  second : Nat
  nanosecond : Nat
  second_lt : second < 86400
  nanosecond_lt : nanosecond < 2 * nanosPerSecond
  deriving DecidableEq, Repr

namespace TimeOfDay

/-- The time of a second of the day and nanoseconds since it began.  Only the last second
of a minute may run on. -/
def of? (second nanosecond : Nat) : Option TimeOfDay :=
  if hs : second < 86400 then
    if hn : nanosecond < nanosPerSecond ∨ (second % 60 = 59 ∧ nanosecond < 2 * nanosPerSecond) then
      some ⟨second, nanosecond, hs, by omega⟩
    else none
  else none

/-- The time that a clock shows. -/
def ofClock? (hour minute second nanosecond : Nat) : Option TimeOfDay :=
  if hour < 24 ∧ minute < 60 ∧ second < 60 then
    of? (hour * 3600 + minute * 60 + second) nanosecond
  else none

/-- Whether the time lies within a leap second. -/
def isLeap (t : TimeOfDay) : Bool := nanosPerSecond ≤ t.nanosecond

theorem isLeap_eq_false_iff {t : TimeOfDay} :
    t.isLeap = false ↔ t.nanosecond < nanosPerSecond := by
  simp [isLeap]

/-- Nanoseconds since midnight. -/
def nanos (t : TimeOfDay) : Nat := t.second * nanosPerSecond + t.nanosecond

/-- The time a number of nanoseconds after midnight of the same day. -/
def ofNanos? (n : Nat) : Option TimeOfDay := of? (n / nanosPerSecond) (n % nanosPerSecond)

/-- The hour, the minute and the second. -/
def clock (t : TimeOfDay) : Nat × Nat × Nat :=
  (t.second / 3600, t.second / 60 % 60, t.second % 60)

/-- A fraction of a second with a point and three, six or nine digits, the fewest
that are exact; nothing for zero. -/
def fraction (nanos : Nat) : List Char :=
  if nanos = 0 then []
  else if nanos % 1000000 = 0 then '.' :: Numeral.padded 3 (nanos / 1000000)
  else if nanos % 1000 = 0 then '.' :: Numeral.padded 6 (nanos / 1000)
  else '.' :: Numeral.padded 9 nanos

/-- The text of a time.  A leap second is written as the second after the one that runs on,
at the end of a minute as second sixty. -/
def render (t : TimeOfDay) : String :=
  let (hour, minute, second) := t.clock
  let second := if t.isLeap then second + 1 else second
  String.ofList <| Numeral.padded 2 hour ++ ':' :: Numeral.padded 2 minute ++
    ':' :: Numeral.padded 2 second ++ fraction (t.nanosecond % nanosPerSecond)

example : (ofClock? 23 59 59 1500000000).map render = some "23:59:60.500" := by decide

end TimeOfDay

end QueryRouting
