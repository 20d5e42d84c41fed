import TransitStore.Calendar.Date

/-!
# Instants

An instant is a second of universal time, from the start of 1970 to the end of
the last date.
-/

namespace TransitStore.Calendar

/-- A second of universal time. -/
structure Instant where
  /-- Seconds since the start of 1970. -/
  seconds : Nat
  /-- The instant lies on a date. -/
  seconds_lt : (seconds : Int) < (lastDay + 1) * 86400
deriving DecidableEq

namespace Instant

/-- The instant with a count of seconds, if there is one. -/
def ofSeconds? (seconds : Nat) : Option Instant :=
  if h : (seconds : Int) < (lastDay + 1) * 86400 then some ⟨seconds, h⟩ else none

/-- A number with leading zeros up to a width. -/
def padded (width n : Nat) : String :=
  let digits := toString n
  "".pushn '0' (width - digits.length) ++ digits

/-- The written form, such as `2025-01-12T00:00:00+00:00`.  A year of more than
four digits takes a sign. -/
def text (t : Instant) : String :=
  let (year, month, day) := civilOf (t.seconds / 86400 : Nat)
  let second := t.seconds % 86400
  let yearText := (if 9999 < year then "+" else "") ++ padded 4 year.toNat
  yearText ++ "-" ++ padded 2 month ++ "-" ++ padded 2 day ++ "T" ++
    padded 2 (second / 3600) ++ ":" ++ padded 2 (second / 60 % 60) ++ ":" ++
    padded 2 (second % 60) ++ "+00:00"

end Instant

end TransitStore.Calendar
