import TransitStore.Calendar.Date
import TransitStore.Error

/-!
# Import options

What a feed does not say itself: where its calendar starts, how many days it
covers and how far its time zone is from universal time.
-/

namespace TransitStore.Import

/-- The choices of an import. -/
structure Options where
  /-- The first calendar day.  Without it the first day of the feed is taken. -/
  calendarStart : Option Calendar.Date := none
  /-- The number of calendar days.  More than 32 are not kept. -/
  days : UInt32 := 32
  /-- The distance of the time zone to universal time, in seconds. -/
  utcOffset : Int32 := 0

namespace Options

/-- The number of calendar days that are kept. -/
def keptDays (options : Options) : Nat := min options.days.toNat 32

/-- Seconds in a quarter of an hour. -/
def quarter : Int := 900

/-- The distance to universal time in whole quarters of an hour, counted toward
zero, if vehicle journeys can hold it. -/
def timeOffset? (options : Options) : Except Error Int8 :=
  let quarters := Int.tdiv options.utcOffset.toInt quarter
  if -128 ≤ quarters ∧ quarters ≤ 127 then .ok (Int8.ofInt quarters)
  else .error (.invalidReference (.utcOffset options.utcOffset.toInt))

end Options

end TransitStore.Import
