import Mathlib
import TransitStore.Proofs.Guarded.Columns
import TransitStore.StopList

/-!
# Guarded queries

The queries of an opened container on its columns.  They find elements only with checked
looks, and the runs of rows they give are checked against the length of one column.  Each
gives what the query of the container does, for all arguments.
-/

namespace TransitStore

namespace Guarded

/-- The rows from one place of a table up to another. -/
structure Rows where
  /-- The first row. -/
  start : Nat
  /-- The row behind the last one. -/
  stop : Nat
deriving DecidableEq, Repr

/-- The rows, in order. -/
def Rows.list (r : Rows) : List Nat := List.range' r.start (r.stop - r.start)

end Guarded

/-- The places of a run. -/
def Span.places {n : Nat} (s : Span n) : Guarded.Rows := ⟨s.start, s.stop⟩

@[simp] theorem Span.start_places {n : Nat} (s : Span n) : s.places.start = s.start := rfl

@[simp] theorem Span.stop_places {n : Nat} (s : Span n) : s.places.stop = s.stop := rfl

namespace Guarded

open Snapshot (Shows)

variable (image : ByteArray)

/-! ## Elements -/

/-- An element of a column, by its row. -/
def value? {e : Entity} {α : Type} [Cell α] (key : Key e α) (row : Nat) : Option α :=
  (key.read image)[row]?

/-- The bytes of the pool at a place. -/
def poolGet? (place : UInt32) (count : Nat) : Option (Array UInt8) := do
  let stop ← checkedAdd place.toNat count
  slice? (poolBytes image) place.toNat stop

/-- The text of the pool at a place: the bytes up to the first zero byte of what lies
behind the place. -/
def poolText? (place : UInt32) : Option String := do
  let tail ← slice? (poolBytes image) place.toNat (poolBytes image).size
  let stop ← tail.findIdx? (· = 0)
  String.fromUTF8? ⟨tail.extract 0 stop⟩

/-- The text at the place in a row of a column. -/
def text? {e : Entity} (key : Key e UInt32) (row : Nat) : Option String := do
  let place ← value? image key row
  poolText? image place

/-- Whether a set of days has a day. -/
def hasDay (days : UInt32) (day : UInt32) : Guarded Bool := do
  let bit ← bit32 day.toNat
  return days &&& bit != 0

/-- Whether a vehicle journey runs on a day.  The bit is made only for a day that a set
of days has. -/
def isActiveOn (vehicleJourney day : UInt32) : Guarded Bool :=
  if day < 32 then
    match value? image VehicleJourneys.active vehicleJourney.toNat with
    | some days => hasDay days day
    | none => return false
  else return false

/-! ## Runs -/

/-- The run of `count` rows from `offset`, if it lies inside `length` rows. -/
def run? (offset count length : Nat) : Option Rows := do
  let stop ← checkedAdd offset count
  if stop ≤ length then some ⟨offset, stop⟩ else none

/-- The run whose offset and count stand in a row of two columns. -/
def runOf? {e : Entity} {α : Type} [Cell α] (offsets : Key e UInt32) (counts : Key e α)
    (number : α → Nat) (row length : Nat) : Option Rows := do
  let offset ← value? image offsets row
  let count ← value? image counts row
  run? offset.toNat (number count) length

def pointsRange? (pattern : UInt16) (points : Nat) : Option Rows :=
  runOf? image Patterns.pointOffsets Patterns.stopCounts UInt16.toNat pattern.toNat points

def vehicleJourneysRange? (pattern : UInt16) (vehicleJourneys : Nat) : Option Rows :=
  runOf? image Patterns.vehicleJourneyOffsets Patterns.vehicleJourneyCounts UInt16.toNat
    pattern.toNat vehicleJourneys

def forwardTransfersRange? (vehicleJourney : UInt32) (transfers : Nat) : Option Rows :=
  runOf? image VehicleJourneys.forwardTransfersOffsets VehicleJourneys.forwardTransfersCounts
    UInt8.toNat vehicleJourney.toNat transfers

def backwardTransfersRange? (vehicleJourney : UInt32) (transfers : Nat) : Option Rows :=
  runOf? image VehicleJourneys.backwardTransfersOffsets VehicleJourneys.backwardTransfersCounts
    UInt8.toNat vehicleJourney.toNat transfers

def stopTimesRange? (vehicleJourney : UInt32) (stops stopTimes : Nat) : Option Rows := do
  let offset ← value? image VehicleJourneys.stopTimesOffsets vehicleJourney.toNat
  run? offset.toNat stops stopTimes

/-- The rows of the transfers from a stop point in a table of `transfers` rows. -/
def transfersRange (stop : UInt16) (transfers : Nat) : Guarded (Option Rows) :=
  let offsets := StopPoints.transfersOffsets.read image
  match offsets[stop.toNat]? with
  | none => return none
  | some start => do
    let next ← add stop.toNat 1
    let finish := (offsets[next]?.map UInt32.toNat).getD transfers
    return if start.toNat ≤ finish ∧ finish ≤ transfers then some ⟨start.toNat, finish⟩ else none

/-- A row of the transfer table. -/
def transfer? (row : Nat) : Option Transfer := do
  let targetStop ← value? image Transfers.targetStops row
  let duration ← value? image Transfers.durations row
  return { targetStop, duration }

/-- A row of the stop time table. -/
def stopTime? (row : Nat) : Option StopTime := do
  let arrival ← value? image StopTimes.arrivals row
  let departure ← value? image StopTimes.departures row
  return { arrival, departure }

/-! ## Queries -/

/-- The patterns that the stop index has for a stop point. -/
def journeyPatternsAtStop (stop : UInt16) : Guarded (Array UInt16) :=
  let offsets := indexOffsets image
  match offsets[stop.toNat]? with
  | none => return #[]
  | some start => do
    let next ← add stop.toNat 1
    match offsets[next]? with
    | none => return #[]
    | some finish =>
      return (slice? (indexPatterns image) start.toNat finish.toNat).getD #[]

def patternStopPoints? (pattern : UInt16) : Option (Array UInt16) := do
  let points := Points.stopPoints.read image
  let run ← pointsRange? image pattern points.size
  slice? points run.start run.stop

def patternVehicleJourneys? (pattern : UInt16) : Option Rows :=
  vehicleJourneysRange? image pattern (rowCount image .vehicleJourney)

def vehicleJourneyStopTimes? (pattern : UInt16) (vehicleJourney : UInt32) : Option Rows := do
  let stops ← value? image Patterns.stopCounts pattern.toNat
  stopTimesRange? image vehicleJourney stops.toNat (rowCount image .stopTime)

def transfersFrom (stop : UInt16) : Guarded (Option Rows) :=
  transfersRange image stop (rowCount image .transfer)

/-- The first stop point with an identifier, if its row is a number of 16 bits. -/
def findStopPoint? (id : String) : Option UInt16 := do
  let row ← (StopPoints.ids.read image).findIdx? fun place => poolText? image place == some id
  if row < UInt16.size then some (UInt16.ofNat row) else none

/-- The entry of a stop point in the stop list, if its identifier is a text of the pool. -/
def stopLocation? (stop : Nat) : Guarded (Option StopLocation) := do
  let stop ← narrow16 stop
  return do
    let coord ← value? image StopPoints.coords stop.toNat
    let id ← text? image StopPoints.ids stop.toNat
    return ⟨id, (text? image StopPoints.names stop.toNat).getD "", coord⟩

/-- Puts the entry of a stop point behind those of others. -/
def addLocation (stops : List StopLocation) (stop : Nat) : Guarded (List StopLocation) := do
  let found ← stopLocation? image stop
  return stops ++ found.toList

/-- The stop list. -/
def stopLocations : Guarded (List StopLocation) :=
  (List.range (rowCount image .stopPoint)).foldlM (addLocation image) []

/-! ## What they give -/

variable {image : ByteArray} {path : String} {c : Container}

theorem value?_eq {e : Entity} {α : Type} [Cell α] [LawfulCell α] (key : Key e α)
    (shows : Shows path image c) (row : Nat) :
    value? image key row = (e.table c).rows[row]?.map key.part := by
  rw [value?, key.read_eq shows, Array.getElem?_map]

theorem index_read {e : Entity} {α : Type} [Cell α] [LawfulCell α] (key : Key e α)
    (shows : Shows path image c) {row : Nat} {r : e.Row}
    (at_ : (e.table c).rows[row]? = some r) : index (key.read image) row = .ok (key.part r) := by
  refine index_of_getElem? ?_
  rw [key.read_eq shows, Array.getElem?_map, at_]
  rfl

theorem run?_eq {offset count length : Nat} (short : length < wordSize) :
    run? offset count length = (Span.run? length offset count).map Span.places := by
  unfold run? checkedAdd Span.run? Span.between?
  by_cases inside : offset + count ≤ length
  · have small : offset + count < wordSize := Nat.lt_of_le_of_lt inside short
    simp [small, inside, Span.places]
  · by_cases small : offset + count < wordSize <;> simp [small, inside]

/-- The elements of a run stand in the array from its first row on. -/
theorem getElem?_of_slice {α : Type} {xs : Array α} {s : Span xs.size} {j : Nat} {a : α}
    (at_ : s.slice[j]? = some a) : xs[s.start + j]? = some a := by
  rw [Span.getElem?_slice, Option.ite_none_right_eq_some] at at_
  exact at_.2

/-- The last element of a run stands in front of the run's end. -/
theorem getElem?_of_getLast? {α : Type} {xs : Array α} {s : Span xs.size} {a : α}
    (last : s.slice.getLast? = some a) : xs[s.stop - 1]? = some a := by
  have length : s.slice.length = s.stop - s.start := Span.length_slice s
  have some_ : s.slice ≠ [] := by
    intro none_
    rw [none_] at last
    cases last
  have nonempty := List.length_pos_of_ne_nil some_
  have place : s.start + (s.slice.length - 1) = s.stop - 1 := by omega
  rw [List.getLast?_eq_getElem?] at last
  rw [← place]
  exact getElem?_of_slice last

theorem list_places {n : Nat} (s : Span n) : s.places.list = s.rows.map Fin.val :=
  (Span.map_val_rows s).symm

/-- A loop over the rows of a run whose rounds each put some elements behind a list. -/
theorem foldlM_places {β : Type} {n : Nat} (s : Span n) {round : List β → Nat → Guarded (List β)}
    {more : Fin n → List β} (step : ∀ i : Fin n, ∀ out, round out i = .ok (out ++ more i))
    (out : List β) :
    s.places.list.foldlM round out = .ok (out ++ s.rows.flatMap more) := by
  rw [list_places, List.foldlM_map]
  exact foldlM_append (fun i _ => step i) out

theorem extract_places {α β : Type} {xs : Array α} (f : α → β) (s : Span xs.size) :
    (xs.map f).extract s.start s.stop = (s.slice.map f).toArray := by
  apply Array.ext'
  rw [Array.toList_extract, List.extract_eq_take_drop, Array.toList_map, Span.slice_eq,
    List.map_take, List.map_drop]
  rfl

theorem slice?_places {α β : Type} {xs : Array α} (f : α → β) (s : Span xs.size) :
    slice? (xs.map f) s.start s.stop = some (s.slice.map f).toArray := by
  have inside : s.start ≤ s.stop ∧ s.stop ≤ (xs.map f).size := by
    simpa using ⟨s.start_le_stop, s.stop_le⟩
  rw [slice?, if_pos inside, extract_places]

theorem slice_places {α β : Type} {xs : Array α} (f : α → β) (s : Span xs.size) :
    slice (xs.map f) s.start s.stop = .ok (s.slice.map f).toArray := by
  have inside : s.start ≤ s.stop ∧ s.stop ≤ (xs.map f).size := by
    simpa using ⟨s.start_le_stop, s.stop_le⟩
  rw [slice, if_pos inside, extract_places]

/-! ### Texts -/

theorem poolGet?_eq (shows : Shows path image c) (place : UInt32) (count : Nat) :
    poolGet? image place count = c.pool.get? place.toNat count := by
  have short : c.pool.bytes.values.size < wordSize :=
    Nat.lt_of_le_of_lt shows.pool.short (by decide)
  unfold poolGet? checkedAdd slice? Pool.get?
  rw [poolBytes_eq shows]
  by_cases inside : place.toNat + count ≤ c.pool.bytes.values.size
  · have small : place.toNat + count < wordSize := Nat.lt_of_le_of_lt inside short
    simp [small, inside, Pool.size, Column.size]
  · by_cases small : place.toNat + count < wordSize <;>
      simp [small, inside, Pool.size, Column.size]

theorem extract_size {bytes : Array UInt8} (place : Nat) :
    bytes.extract place bytes.size = (bytes.toList.drop place).toArray := by
  apply Array.ext'
  rw [Array.toList_extract, List.extract_eq_take_drop, List.take_of_length_le]
  simp

/-- The first zero byte from a place on is the first one of what lies behind the place. -/
theorem zeroAmong_eq_findIdx? {bytes : Array UInt8} {count place : Nat}
    (all : place + count = bytes.size) : Pool.zeroAmong bytes count place =
      ((bytes.toList.drop place).findIdx? (· = 0)).map (place + ·) := by
  induction count generalizing place with
  | zero =>
    rw [List.drop_of_length_le (by simp; omega)]
    rfl
  | succ count ih =>
    have inside : place < bytes.toList.length := by simp; omega
    rw [Pool.zeroAmong, ih (by omega), List.drop_eq_getElem_cons inside, List.findIdx?_cons,
      ← Array.getElem?_toList, List.getElem?_eq_getElem inside]
    rw [Array.getElem_toList]
    by_cases zero : bytes[place] = 0
    · simp [zero]
    · simp [zero, Nat.add_comm, Nat.add_left_comm, Function.comp_def]

theorem poolText?_eq (shows : Shows path image c) (place : UInt32) :
    poolText? image place = c.pool.text? place := by
  unfold poolText? Pool.text? slice?
  rw [poolBytes_eq shows]
  by_cases inside : place.toNat ≤ c.pool.bytes.values.size
  · have all : place.toNat + (c.pool.size - place.toNat) = c.pool.bytes.values.size := by
      rw [Pool.size, Column.size]
      omega
    simp only [inside, le_refl, and_self, if_true, Option.bind_eq_bind, Option.bind_some,
      zeroAmong_eq_findIdx? all, extract_size, List.findIdx?_toArray]
    cases found : (c.pool.bytes.values.toList.drop place.toNat).findIdx? (· = 0) with
    | none => rfl
    | some stop =>
      obtain ⟨before, -⟩ := List.findIdx?_eq_some_iff_getElem.1 found
      rw [← extract_size]
      simp only [Option.bind_some, Option.map_some, Array.extract_extract]
      rw [List.length_drop, Array.length_toList] at before
      congr 3
      all_goals omega
  · have none_ : c.pool.size - place.toNat = 0 := by
      rw [Pool.size, Column.size]
      omega
    simp only [inside, false_and, if_false, none_, Pool.zeroAmong]
    rfl

theorem text?_eq {e : Entity} (key : Key e UInt32) (shows : Shows path image c) (row : Nat) :
    text? image key row = (e.table c).rows[row]?.bind fun r => c.pool.text? (key.part r) := by
  unfold text?
  rw [value?_eq key shows]
  simp only [poolText?_eq shows, Option.bind_eq_bind, Option.bind_map]
  rfl

theorem findStopPoint?_eq (shows : Shows path image c) (id : String) :
    (findStopPoint? image id).map UInt16.toNat = c.findStopPoint? id := by
  have search : (StopPoints.ids.read image).findIdx?
      (fun place => poolText? image place == some id) = c.findStopPoint? id := by
    rw [Key.read_eq _ shows, Array.findIdx?_map]
    simp only [Function.comp_def, poolText?_eq shows]
    rfl
  rw [findStopPoint?, search]
  cases found : c.findStopPoint? id with
  | none => rfl
  | some row =>
    obtain ⟨inside, -⟩ := Array.findIdx?_eq_some_iff_getElem.1 found
    have small : row < UInt16.size := Nat.lt_trans inside (stopPoints_lt16 shows)
    simp [small, UInt16.toNat_ofNat_of_lt' small]

/-! ### Days -/

theorem hasDay_eq {days day : UInt32} (small : day < 32) :
    hasDay days day = .ok (TransitStore.hasDay days day.toNat) := by
  have small : day.toNat < 32 := small
  have power : (2 ^ day.toNat) < UInt32.size := Nat.pow_lt_pow_right (by decide) small
  rw [hasDay, bit32_of_lt small, ok_bind, TransitStore.hasDay, decide_eq_true small, Bool.true_and]
  refine congrArg Except.ok ?_
  have word : (days &&& UInt32.ofNat (2 ^ day.toNat)).toNat =
      (days.toNat.testBit day.toNat).toNat * 2 ^ day.toNat := by
    rw [UInt32.toNat_and, UInt32.toNat_ofNat_of_lt' power, Nat.and_two_pow]
  rw [Bool.eq_iff_iff, bne_iff_ne, ne_eq, ← UInt32.toNat_inj, word]
  cases days.toNat.testBit day.toNat <;> simp

theorem isActiveOn_eq (shows : Shows path image c) (vehicleJourney day : UInt32) :
    isActiveOn image vehicleJourney day =
      .ok ((c.vehicleJourneys.rows[vehicleJourney.toNat]?.map (·.isActiveOn day.toNat)).getD
        false) := by
  unfold isActiveOn
  rw [value?_eq _ shows]
  by_cases small : day < 32
  · rw [if_pos small]
    show (match c.vehicleJourneys.rows[vehicleJourney.toNat]?.map VehicleJourney.active with
      | some days => hasDay days day
      | none => return false) = _
    cases c.vehicleJourneys.rows[vehicleJourney.toNat]? with
    | none => rfl
    | some v => exact hasDay_eq small
  · have large : ¬day.toNat < 32 := small
    rw [if_neg small]
    cases c.vehicleJourneys.rows[vehicleJourney.toNat]? with
    | none => rfl
    | some v =>
      simp [VehicleJourney.isActiveOn, TransitStore.hasDay, large]

/-! ### Runs -/

theorem runOf?_eq {e : Entity} {α : Type} [Cell α] [LawfulCell α] (offsets : Key e UInt32)
    (counts : Key e α) (number : α → Nat) (shows : Shows path image c) (row : Nat) {length : Nat}
    (short : length < wordSize) : runOf? image offsets counts number row length =
      (e.table c).rows[row]?.bind fun r =>
        (Span.run? length (offsets.part r).toNat (number (counts.part r))).map Span.places := by
  rw [runOf?, value?_eq offsets shows, value?_eq counts shows]
  cases (e.table c).rows[row]? with
  | none => rfl
  | some r => exact run?_eq short

theorem pointsRange?_eq (shows : Shows path image c) (pattern : UInt16) {points : Nat}
    (short : points < wordSize) : pointsRange? image pattern points =
      c.journeyPatterns.rows[pattern.toNat]?.bind fun p => (p.points? points).map Span.places :=
  runOf?_eq Patterns.pointOffsets Patterns.stopCounts _ shows _ short

theorem vehicleJourneysRange?_eq (shows : Shows path image c) (pattern : UInt16)
    {vehicleJourneys : Nat} (short : vehicleJourneys < wordSize) :
    vehicleJourneysRange? image pattern vehicleJourneys =
      c.journeyPatterns.rows[pattern.toNat]?.bind fun p =>
        (p.vehicleJourneys? vehicleJourneys).map Span.places :=
  runOf?_eq Patterns.vehicleJourneyOffsets Patterns.vehicleJourneyCounts _ shows _ short

theorem forwardTransfersRange?_eq (shows : Shows path image c) (vehicleJourney : UInt32)
    {transfers : Nat} (short : transfers < wordSize) :
    forwardTransfersRange? image vehicleJourney transfers =
      c.vehicleJourneys.rows[vehicleJourney.toNat]?.bind fun v =>
        (v.forwardTransfers? transfers).map Span.places :=
  runOf?_eq VehicleJourneys.forwardTransfersOffsets VehicleJourneys.forwardTransfersCounts _ shows
    _ short

theorem backwardTransfersRange?_eq (shows : Shows path image c) (vehicleJourney : UInt32)
    {transfers : Nat} (short : transfers < wordSize) :
    backwardTransfersRange? image vehicleJourney transfers =
      c.vehicleJourneys.rows[vehicleJourney.toNat]?.bind fun v =>
        (v.backwardTransfers? transfers).map Span.places :=
  runOf?_eq VehicleJourneys.backwardTransfersOffsets VehicleJourneys.backwardTransfersCounts _
    shows _ short

theorem stopTimesRange?_eq (shows : Shows path image c) (vehicleJourney : UInt32) (stops : Nat)
    {stopTimes : Nat} (short : stopTimes < wordSize) :
    stopTimesRange? image vehicleJourney stops stopTimes =
      c.vehicleJourneys.rows[vehicleJourney.toNat]?.bind fun v =>
        (v.stopTimes? stops stopTimes).map Span.places := by
  have offset : value? image VehicleJourneys.stopTimesOffsets vehicleJourney.toNat =
      c.vehicleJourneys.rows[vehicleJourney.toNat]?.map (·.stopTimesOffset) :=
    value?_eq _ shows _
  rw [stopTimesRange?, offset]
  cases c.vehicleJourneys.rows[vehicleJourney.toNat]? with
  | none => rfl
  | some v => exact run?_eq short

/-- There is a word with one more than the number of a stop point. -/
theorem succ_lt_wordSize (stop : UInt16) : stop.toNat + 1 < wordSize :=
  Nat.lt_of_le_of_lt stop.toNat_lt (by decide)

theorem transfersRange_eq (shows : Shows path image c) (stop : UInt16) {transfers : Nat} :
    transfersRange image stop transfers =
      .ok ((c.stopPoints.transfers? stop.toNat transfers).map Span.places) := by
  have offsets : StopPoints.transfersOffsets.read image =
      c.stopPoints.rows.map (·.transfersOffset) := Key.read_eq _ shows
  have small := succ_lt_wordSize stop
  unfold transfersRange Table.transfers?
  simp only [offsets, Array.getElem?_map, add_of_lt small, ok_bind, Option.map_map]
  cases c.stopPoints.rows[stop.toNat]? with
  | none => rfl
  | some p =>
    simp only [Option.map_some, Option.bind_some, pure_eq_ok, Span.between?]
    have finish : (c.stopPoints.rows[stop.toNat + 1]?.map
        (UInt32.toNat ∘ fun p => p.transfersOffset)).getD transfers =
          (c.stopPoints.rows[stop.toNat + 1]?.map (·.transfersOffset.toNat)).getD transfers := rfl
    rw [finish]
    split <;> rfl

/-! ### Rows -/

theorem transfer?_eq (shows : Shows path image c) (row : Nat) :
    transfer? image row = c.transfers.rows[row]? := by
  have targetStop : value? image Transfers.targetStops row =
      c.transfers.rows[row]?.map (·.targetStop) := value?_eq _ shows _
  have duration : value? image Transfers.durations row =
      c.transfers.rows[row]?.map (·.duration) := value?_eq _ shows _
  rw [transfer?, targetStop, duration]
  cases c.transfers.rows[row]? <;> rfl

theorem stopTime?_eq (shows : Shows path image c) (row : Nat) :
    stopTime? image row = c.stopTimes.rows[row]? := by
  have arrival : value? image StopTimes.arrivals row =
      c.stopTimes.rows[row]?.map (·.arrival) := value?_eq _ shows _
  have departure : value? image StopTimes.departures row =
      c.stopTimes.rows[row]?.map (·.departure) := value?_eq _ shows _
  rw [stopTime?, arrival, departure]
  cases c.stopTimes.rows[row]? <;> rfl

/-! ### Queries of the container -/

theorem journeyPatternsAtStop_eq (shows : Shows path image c) (stop : UInt16) :
    journeyPatternsAtStop image stop = .ok (c.journeyPatternsAtStop stop.toNat).toArray := by
  have small := succ_lt_wordSize stop
  unfold journeyPatternsAtStop Container.journeyPatternsAtStop StopIndex.patternsFor
  simp only [indexOffsets_eq shows, indexPatterns_eq shows, add_of_lt small, ok_bind]
  cases c.stopIndex.offsets.values[stop.toNat]? with
  | none => rfl
  | some start =>
    dsimp only
    cases c.stopIndex.offsets.values[stop.toNat + 1]? with
    | none => rfl
    | some finish =>
      dsimp only
      cases there : Span.between? c.stopIndex.patterns.values.size start.toNat finish.toNat with
      | none =>
        have outside : ¬(Span.between? c.stopIndex.patterns.values.size start.toNat
            finish.toNat).isSome = true := by simp [there]
        rw [slice?, if_neg fun inside => outside (Span.isSome_between?.2 inside)]
        rfl
      | some s =>
        obtain ⟨first, last⟩ := Span.between?_eq_some_iff.1 there
        have whole := slice?_places id s
        rw [Array.map_id, List.map_id] at whole
        rw [← first, ← last, whole]
        rfl

theorem patternStopPoints?_eq (shows : Shows path image c) (pattern : UInt16) :
    patternStopPoints? image pattern =
      (c.patternStopPoints? pattern.toNat).map List.toArray := by
  have points : Points.stopPoints.read image = c.journeyPatternPoints.rows.map (·.stopPoint) :=
    Key.read_eq _ shows
  have short : c.journeyPatternPoints.rows.size < wordSize :=
    rows_lt_wordSize shows .journeyPatternPoint
  unfold patternStopPoints? Container.patternStopPoints? Container.patternPoints?
  simp only [points, Array.size_map, pointsRange?_eq shows pattern short]
  cases c.journeyPatterns.rows[pattern.toNat]? with
  | none => rfl
  | some p =>
    dsimp only [Option.bind_some]
    cases p.points? c.journeyPatternPoints.rows.size with
    | none => rfl
    | some run => exact slice?_places _ run

theorem patternVehicleJourneys?_eq (shows : Shows path image c) (pattern : UInt16) :
    patternVehicleJourneys? image pattern =
      (c.patternVehicleJourneys? pattern.toNat).map Span.places := by
  have short : c.vehicleJourneys.rows.size < wordSize := rows_lt_wordSize shows .vehicleJourney
  have count : rowCount image .vehicleJourney = c.vehicleJourneys.rows.size := rowCount_eq shows _
  rw [patternVehicleJourneys?, count, vehicleJourneysRange?_eq shows pattern short,
    Container.patternVehicleJourneys?, Option.map_bind]
  rfl

theorem vehicleJourneyStopTimes?_eq (shows : Shows path image c) (pattern : UInt16)
    (vehicleJourney : UInt32) : vehicleJourneyStopTimes? image pattern vehicleJourney =
      (c.vehicleJourneyStopTimes? pattern.toNat vehicleJourney.toNat).map Span.places := by
  have short : c.stopTimes.rows.size < wordSize := rows_lt_wordSize shows .stopTime
  have stops : value? image Patterns.stopCounts pattern.toNat =
      c.journeyPatterns.rows[pattern.toNat]?.map (·.stopCount) := value?_eq _ shows _
  have count : rowCount image .stopTime = c.stopTimes.rows.size := rowCount_eq shows _
  unfold vehicleJourneyStopTimes? Container.vehicleJourneyStopTimes?
  rw [stops, count]
  cases c.journeyPatterns.rows[pattern.toNat]? with
  | none => rfl
  | some p =>
    dsimp only [Option.map_some, Option.bind_eq_bind, Option.bind_some]
    rw [stopTimesRange?_eq shows _ _ short, Option.map_bind]
    rfl

/-- The stop times of a vehicle journey that is in the table, along a pattern that is. -/
theorem vehicleJourneyStopTimes?_of_rows (shows : Shows path image c) {pattern : UInt16}
    {p : JourneyPattern} (at_ : c.journeyPatterns.rows[pattern.toNat]? = some p)
    {vehicleJourney : UInt32} (inTable : vehicleJourney.toNat < c.vehicleJourneys.rows.size) :
    vehicleJourneyStopTimes? image pattern vehicleJourney =
      (c.vehicleJourneys.rows[vehicleJourney.toNat].stopTimes? p.stopCount.toNat
        c.stopTimes.rows.size).map Span.places := by
  rw [vehicleJourneyStopTimes?_eq shows, Container.vehicleJourneyStopTimes?, at_,
    Array.getElem?_eq_getElem inTable]
  rfl

theorem stopLocation?_eq (shows : Shows path image c) {stop : Nat} {p : StopPoint}
    (at_ : c.stopPoints.rows[stop]? = some p) :
    stopLocation? image stop = .ok (StopLocation.of? c.pool p) := by
  obtain ⟨inside, -⟩ := Array.getElem?_eq_some_iff.1 at_
  obtain ⟨row, narrowed, rfl⟩ := exists_narrow16 (Nat.lt_trans inside (stopPoints_lt16 shows))
  have coord : value? image StopPoints.coords row.toNat =
      c.stopPoints.rows[row.toNat]?.map (·.coord) := value?_eq _ shows _
  have id : text? image StopPoints.ids row.toNat =
      c.stopPoints.rows[row.toNat]?.bind fun p => c.pool.text? p.id := text?_eq _ shows _
  have name : text? image StopPoints.names row.toNat =
      c.stopPoints.rows[row.toNat]?.bind fun p => c.pool.text? p.name := text?_eq _ shows _
  rw [stopLocation?, narrowed, ok_bind, coord, id, name, at_]
  dsimp only [Option.map_some, Option.bind_some, Option.bind_eq_bind, StopLocation.of?]
  cases c.pool.text? p.id <;> rfl

theorem stopLocations_eq (shows : Shows path image c) :
    stopLocations image = .ok c.stopLocations := by
  have stops : rowCount image .stopPoint = c.stopPoints.rows.size := rowCount_eq shows _
  have step : ∀ i p, c.stopPoints.rows[i]? = some p → ∀ out,
      addLocation image out i = .ok (out ++ (StopLocation.of? c.pool p).toList) := by
    intro i p at_ out
    rw [addLocation, stopLocation?_eq shows at_]
    rfl
  rw [stopLocations, stops, foldlM_rows step, List.nil_append, Container.stopLocations,
    List.filterMap_eq_flatMap_toList]
  conv_rhs => rw [← List.zipIdx_map_fst 0 c.stopPoints.rows.toList, List.flatMap_map]

theorem transfersFrom_eq (shows : Shows path image c) (stop : UInt16) :
    transfersFrom image stop = .ok ((c.transfersFrom? stop.toNat).map Span.places) := by
  rw [transfersFrom, rowCount_eq shows, transfersRange_eq shows]
  rfl

end Guarded

end TransitStore
