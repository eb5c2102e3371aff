import BuildController.Time.Date

/-! Instants of universal time, down to the nanosecond. Any second may last two: the instants of the
leap second that follows it have a thousand million nanoseconds and more, so they are instants of
their own between the seconds around them. -/
namespace BuildController

structure Instant where
  date : Date
  hour : Nat
  minute : Nat
  second : Nat
  nanosecond : Nat
  hour_lt : hour < 24
  minute_lt : minute < 60
  second_lt : second < 60
  nanosecond_lt : nanosecond < 2_000_000_000
  deriving DecidableEq, Repr

namespace Instant

/-- The parts of an instant from the largest to the smallest; instants are ordered by the first
part that differs. -/
def parts (t : Instant) : List Int :=
  [t.date.year, t.date.month, t.date.day, t.hour, t.minute, t.second, t.nanosecond]

instance : LE Instant := ⟨fun s t => List.le s.parts t.parts⟩

instance (s t : Instant) : Decidable (s ≤ t) :=
  inferInstanceAs (Decidable (List.le s.parts t.parts))

/-- The instant with the given parts. A second 60 is the leap second at the end of its minute. -/
def ofParts? (date : Date) (hour minute second nanosecond : Nat) : Option Instant :=
  if h : hour < 24 ∧ minute < 60 ∧ second ≤ 60 ∧ nanosecond < 1_000_000_000 then
    if last : second = 60 then
      some ⟨date, hour, minute, 59, nanosecond + 1_000_000_000, h.1, h.2.1, by decide, by omega⟩
    else some ⟨date, hour, minute, second, nanosecond, h.1, h.2.1, by omega, by omega⟩
  else none

/-- The date that lies the given number of days, at most one, from another. -/
def shiftDate? (date : Date) (days : Int) : Option Date :=
  if days = 0 then some date
  else if 0 < days then date.next?
  else date.previous?

/-- The universal time of a local time that is ahead of it by `ahead` minutes, less than a day.
Seconds are unaffected, so a leap second stays one at the end of a minute. -/
def ofLocal? (date : Date) (hour minute second nanosecond : Nat) (ahead : Int) :
    Option Instant := do
  let minutes : Int := hour * 60 + minute - ahead
  let date ← shiftDate? date (minutes.fdiv 1440)
  let inDay := (minutes.fmod 1440).toNat
  ofParts? date (inDay / 60) (inDay % 60) second nanosecond

end Instant

end BuildController
