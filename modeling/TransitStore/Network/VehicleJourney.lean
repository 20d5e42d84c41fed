import TransitStore.CoarseTime
import TransitStore.Span
import TransitStore.Table.Basic

/-!
# Vehicle journeys

A vehicle journey is one run of a vehicle along a journey pattern.  Its times at
the pattern's points are a run of rows of the stop time table, relative to the
time it begins at.
-/

namespace TransitStore

/-! ## Stop times -/

/-- When a vehicle arrives at a stop and departs from it. -/
structure StopTime where
  arrival : CoarseTime
  departure : CoarseTime
deriving DecidableEq, Repr

instance : Record StopTime where
  structureName := "StopTimes"
  label := "stop times"
  width := .bits32
  slack := 1024
  fields := [
    .of "arrivals" "StopTimeArrivals" StopTime.arrival,
    .of "departures" "StopTimeDepartures" StopTime.departure]
  ofWords w := ⟨Cell.ofWord (w 0), Cell.ofWord (w 1)⟩

instance : Draft StopTime StopTime := ⟨pure⟩

/-! ## Vehicle journeys -/

/-- A vehicle journey. -/
structure VehicleJourney where
  /-- The identifier's place in the pool. -/
  id : UInt32
  /-- The first row of the stop times, one for each point of the pattern. -/
  stopTimesOffset : UInt32
  /-- The time of day that the stop times count from. -/
  beginTime : CoarseTime
  /-- Flags. -/
  attributes : UInt16
  /-- The days the journey runs on: bit `d` is the day `d` of the calendar. -/
  active : UInt32
  /-- The distance of the time zone to universal time, in quarters of an hour. -/
  timeOffset : Int8
  /-- The first row of the transfers to other vehicle journeys. -/
  forwardTransfersOffset : UInt32
  /-- The number of these. -/
  forwardTransfersCount : UInt8
  /-- The first row of the transfers from other vehicle journeys. -/
  backwardTransfersOffset : UInt32
  /-- The number of these. -/
  backwardTransfersCount : UInt8
deriving DecidableEq, Repr

/-- A vehicle journey with its text. -/
structure VehicleJourney.Draft where
  id : String
  /-- The first row of the stop times. -/
  stopTimesOffset : UInt32
  /-- The time of day that the stop times count from. -/
  beginTime : CoarseTime
  /-- Flags. -/
  attributes : UInt16
  /-- The days the journey runs on. -/
  active : UInt32
  /-- The distance of the time zone to universal time, in quarters of an hour. -/
  timeOffset : Int8
  /-- The first row of the transfers to other vehicle journeys. -/
  forwardTransfersOffset : UInt32
  /-- The number of these. -/
  forwardTransfersCount : UInt8
  /-- The first row of the transfers from other vehicle journeys. -/
  backwardTransfersOffset : UInt32
  /-- The number of these. -/
  backwardTransfersCount : UInt8
deriving DecidableEq, Repr

instance : Record VehicleJourney where
  structureName := "VehicleJourneys"
  label := "vehicle journeys"
  width := .bits32
  slack := 256
  fields := [
    .of "ids" "VehicleJourneyIds" VehicleJourney.id,
    .of "stop_times_offsets" "VehicleJourneyStopTimesOffsets" VehicleJourney.stopTimesOffset,
    .of "begin_times" "VehicleJourneyBeginTimes" VehicleJourney.beginTime,
    .of "attributes" "VehicleJourneyAttributes" VehicleJourney.attributes,
    .of "active" "VehicleJourneyActive" VehicleJourney.active,
    .of "time_offsets" "VehicleJourneyTimeOffsets" VehicleJourney.timeOffset,
    .of "transfers_forward_offsets" "VehicleJourneyTransfersForwardOffsets"
      VehicleJourney.forwardTransfersOffset,
    .of "n_transfers_forward" "VehicleJourneyTransfersForwardCounts"
      VehicleJourney.forwardTransfersCount,
    .of "transfers_backward_offsets" "VehicleJourneyTransfersBackwardOffsets"
      VehicleJourney.backwardTransfersOffset,
    .of "n_transfers_backward" "VehicleJourneyTransfersBackwardCounts"
      VehicleJourney.backwardTransfersCount]
  ofWords w := ⟨Cell.ofWord (w 0), Cell.ofWord (w 1), Cell.ofWord (w 2), Cell.ofWord (w 3),
    Cell.ofWord (w 4), Cell.ofWord (w 5), Cell.ofWord (w 6), Cell.ofWord (w 7),
    Cell.ofWord (w 8), Cell.ofWord (w 9)⟩

instance : Draft VehicleJourney.Draft VehicleJourney where
  intern d := do
    let id ← Pool.intern d.id
    return { d with id }

/-- Whether a set of days has a day. -/
def hasDay (days : UInt32) (day : Nat) : Bool := day < 32 && days.toNat.testBit day

theorem hasDay_eq_getLsbD (days : UInt32) (day : Nat) :
    hasDay days day = days.toBitVec.getLsbD day := by
  by_cases inside : day < 32
  · simp [hasDay, inside, BitVec.getLsbD]
  · rw [BitVec.getLsbD_of_ge _ _ (Nat.not_lt.1 inside)]
    simp [hasDay, inside]

@[simp] theorem hasDay_zero (day : Nat) : hasDay 0 day = false := by
  simp [hasDay_eq_getLsbD]

@[simp] theorem hasDay_or (a b : UInt32) (day : Nat) :
    hasDay (a ||| b) day = (hasDay a day || hasDay b day) := by
  simp [hasDay_eq_getLsbD]

theorem hasDay_and_not (a b : UInt32) (day : Nat) :
    hasDay (a &&& ~~~b) day = (hasDay a day && !hasDay b day) := by
  by_cases inside : day < 32
  · simp [hasDay_eq_getLsbD, inside]
  · simp [hasDay, inside]

namespace VehicleJourney

/-- The flag of vehicles that take wheelchairs. -/
def wheelchairAccessible : UInt16 := 1

/-- The flag of vehicles that take bikes. -/
def bikeAccepted : UInt16 := 2

/-- Whether the journey runs on a day of the calendar. -/
def isActiveOn (v : VehicleJourney) (day : Nat) : Bool := hasDay v.active day

/-- The rows of the stop times along a pattern of `stops` points, if they lie
inside a table of `stopTimes` rows. -/
def stopTimes? (v : VehicleJourney) (stops stopTimes : Nat) : Option (Span stopTimes) :=
  Span.run? stopTimes v.stopTimesOffset.toNat stops

/-- The rows of the transfers to other vehicle journeys, if they lie inside a
table of `transfers` rows. -/
def forwardTransfers? (v : VehicleJourney) (transfers : Nat) : Option (Span transfers) :=
  Span.run? transfers v.forwardTransfersOffset.toNat v.forwardTransfersCount.toNat

/-- The rows of the transfers from other vehicle journeys, if they lie inside a
table of `transfers` rows. -/
def backwardTransfers? (v : VehicleJourney) (transfers : Nat) : Option (Span transfers) :=
  Span.run? transfers v.backwardTransfersOffset.toNat v.backwardTransfersCount.toNat

end VehicleJourney

/-! ## Transfers between vehicle journeys -/

instance : Record JourneyRef where
  structureName := "VehicleTransfers"
  label := "vehicle transfers"
  width := .bits32
  slack := 256
  fields := [.of "refs" "VehicleTransferRefs" id]
  ofWords w := Cell.ofWord (w 0)

instance : Draft JourneyRef JourneyRef := ⟨pure⟩

end TransitStore
