import Std.Data.HashMap
import TransitStore.Feed.Record
import TransitStore.Import.Options

/-!
# Service days of a feed

The days of a service become a set of calendar days, held as the bits of a word.
Exceptions of the feed are worked in one after the other.
-/

namespace TransitStore.Import

open Calendar (Date Weekday)

/-- The earliest of some dates. -/
def earliest? : List Date → Option Date
  | [] => none
  | d :: rest => some (rest.foldl Date.earlier d)

/-- The first calendar day: the chosen one or else the first day of the feed. -/
def calendarStart? (feed : Feed) (options : Options) : Except Error Date :=
  match options.calendarStart with
  | some start => .ok start
  | none =>
    match earliest? (feed.services.map (·.start) ++ feed.exceptions.map (·.date)) with
    | some start => .ok start
    | none => .error (.invalidReference .noCalendar)

/-- The set with only the day `day`. -/
def dayBit (day : Nat) : UInt32 := UInt32.ofNat (1 <<< day)

/-- Whether a service runs on a day of the week. -/
def weekdayFlag (service : Feed.Service) : Weekday → Bool
  | .monday => service.monday
  | .tuesday => service.tuesday
  | .wednesday => service.wednesday
  | .thursday => service.thursday
  | .friday => service.friday
  | .saturday => service.saturday
  | .sunday => service.sunday

/-- Whether a service runs on a date by its days of the week. -/
def runsOn (service : Feed.Service) (date : Date) : Bool :=
  service.start.dayNumber ≤ date.dayNumber && date.dayNumber ≤ service.finish.dayNumber &&
    weekdayFlag service date.weekday

/-- The calendar days of a service by its days of the week. -/
def activeDays (start : Date) (days : Nat) (service : Feed.Service) : UInt32 :=
  (List.range days).foldl
    (fun set day =>
      match start.addDays? day with
      | some date => if runsOn service date then set ||| dayBit day else set
      | none => set)
    0

/-- The calendar days of services, by identifier. -/
abbrev ServiceDays := Std.HashMap String UInt32

/-- The calendar days of services without exceptions.  Of services with the same
identifier the last one counts. -/
def serviceDays (start : Date) (days : Nat) (services : List Feed.Service) : ServiceDays :=
  services.foldl (fun found service => found.insert service.id (activeDays start days service)) ∅

/-- The number of a date among so many calendar days. -/
def calendarDay? (start : Date) (days : Nat) (date : Date) : Option Nat :=
  let day := start.daysTo date
  if 0 ≤ day ∧ day < days then some day.toNat else none

/-- Works an exception in. -/
def withException (start : Date) (days : Nat) (found : ServiceDays)
    (exception : Feed.ServiceException) : ServiceDays :=
  match calendarDay? start days exception.date with
  | none => found
  | some day =>
    let set := found.getD exception.serviceId 0
    let set := if exception.runs then set ||| dayBit day else set &&& ~~~(dayBit day)
    found.insert exception.serviceId set

/-- The calendar days of the services of a feed, by identifier. -/
def daysOf (feed : Feed) (start : Date) (days : Nat) : ServiceDays :=
  feed.exceptions.foldl (withException start days) (serviceDays start days feed.services)

end TransitStore.Import
