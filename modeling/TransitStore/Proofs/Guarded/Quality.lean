import Mathlib
import TransitStore.Audit.Quality
import TransitStore.Proofs.Guarded.Access

/-!
# The guarded check of quality

The check of quality on the columns of an opened image, one issue behind the other on a
report.  It takes slices of the attributes of points, and reads arrivals and departures by
rows that were checked against the length of the stop time table: against the first of
its columns, not against the one that is read.  It makes no fault and reports what the
check of the container does (`checkQuality_eq`).
-/

namespace TransitStore.Guarded

open Snapshot (Shows)
open Audit (QualityIssue)

/-- A report with one more issue behind it, if it is one. -/
def note (report : List QualityIssue) (bad : Bool) (issue : QualityIssue) : List QualityIssue :=
  if bad then report ++ [issue] else report

variable (image : ByteArray)

/-! ## Boarding -/

/-- Reports the issues of one pattern's first and last point. -/
def checkEnds (report : List QualityIssue) (number : Nat) : Guarded (List QualityIssue) := do
  let attributes := Points.attributes.read image
  let pattern ← narrow16 number
  match pointsRange? image pattern attributes.size with
  | none => return report
  | some run =>
    let run ← slice attributes run.start run.stop
    match run[0]?, run.back? with
    | some first, some last =>
      let report := note report (first &&& JourneyPatternPoint.alighting != 0)
        (.alightingAtFirstStop pattern.toNat)
      return note report (last &&& JourneyPatternPoint.boarding != 0)
        (.boardingAtLastStop pattern.toNat)
    | _, _ => return report

def checkBoarding (report : List QualityIssue) : Guarded (List QualityIssue) :=
  (List.range (rowCount image .journeyPattern)).foldlM (checkEnds image) report

/-! ## Coordinates -/

/-- Reports a coordinate where no stop point is. -/
def checkCoordinate (report : List QualityIssue) (row : Nat) : Guarded (List QualityIssue) := do
  let coord ← index (StopPoints.coords.read image) row
  if Audit.isPlausible coord then return report
  let stop ← narrow16 row
  return report ++ [.coordinateOutOfRange stop.toNat coord]

def checkCoordinates (report : List QualityIssue) : Guarded (List QualityIssue) :=
  (List.range (StopPoints.coords.read image).size).foldlM (checkCoordinate image) report

/-! ## Times -/

/-- Whether the first arrival is not at zero.  The arrival is read only at the first stop. -/
def startsLate (row stop : Nat) : Guarded Bool :=
  if stop = 0 then do
    let arrival ← index (StopTimes.arrivals.read image) row
    return arrival != 0
  else return false

/-- Whether a vehicle departs before it arrives. -/
def departsEarly (row : Nat) : Guarded Bool := do
  let departure ← index (StopTimes.departures.read image) row
  let arrival ← index (StopTimes.arrivals.read image) row
  return departure < arrival

/-- Whether a vehicle arrives before it leaves the stop before.  There is one only behind
the first stop. -/
def arrivesEarly (row stop : Nat) : Guarded Bool :=
  if 0 < stop then do
    let arrival ← index (StopTimes.arrivals.read image) row
    let before ← sub row 1
    let departed ← index (StopTimes.departures.read image) before
    return arrival < departed
  else return false

/-- Reports the issues of one stop time. -/
def checkStopTime (vehicleJourney : UInt32) (start : Nat) (report : List QualityIssue)
    (row : Nat) : Guarded (List QualityIssue) := do
  let stop ← sub row start
  let late ← startsLate image row stop
  let report := note report late (.firstArrivalNotZero vehicleJourney.toNat)
  let early ← departsEarly image row
  let report := note report early (.departureBeforeArrival vehicleJourney.toNat stop)
  let negative ← arrivesEarly image row stop
  return note report negative (.negativeTravelTime vehicleJourney.toNat stop)

/-- Reports the issues of one vehicle journey's times along a pattern. -/
def checkJourneyTimes (pattern : UInt16) (report : List QualityIssue) (row : Nat) :
    Guarded (List QualityIssue) := do
  let vehicleJourney ← narrow32 row
  match vehicleJourneyStopTimes? image pattern vehicleJourney with
  | none => return report
  | some run => run.list.foldlM (checkStopTime image vehicleJourney run.start) report

/-- Reports the issues of the times of a pattern's vehicle journeys. -/
def checkPatternTimes (report : List QualityIssue) (number : Nat) :
    Guarded (List QualityIssue) := do
  let pattern ← narrow16 number
  match patternVehicleJourneys? image pattern with
  | none => return report
  | some run => run.list.foldlM (checkJourneyTimes image pattern) report

def checkTimes (report : List QualityIssue) : Guarded (List QualityIssue) :=
  (List.range (rowCount image .journeyPattern)).foldlM (checkPatternTimes image) report

/-! ## Transfers -/

/-- The transfers from a stop point, none if their rows make no sense. -/
def transfersOf (stop : UInt16) : Guarded (List Transfer) := do
  match ← transfersFrom image stop with
  | none => return []
  | some run => return run.list.filterMap (transfer? image)

/-- Reports a transfer whose first reverse is missing or takes another time. -/
def checkReverse (source : UInt16) (report : List QualityIssue) (row : Nat) :
    Guarded (List QualityIssue) := do
  match transfer? image row with
  | none => return report
  | some forward =>
    let target := forward.targetStop
    let incoming ← transfersOf image target
    match incoming.find? (·.targetStop == source) with
    | none => return report ++ [.missingReverseTransfer source.toNat target.toNat]
    | some reverse =>
      return note report (reverse.duration != forward.duration)
        (.asymmetricTransfer source.toNat target.toNat)

/-- Reports the issues of the transfers from a stop point. -/
def checkStopTransfers (report : List QualityIssue) (number : Nat) :
    Guarded (List QualityIssue) := do
  let stop ← narrow16 number
  match ← transfersFrom image stop with
  | none => return report
  | some run => run.list.foldlM (checkReverse image stop) report

def checkSymmetry (report : List QualityIssue) : Guarded (List QualityIssue) :=
  (List.range (rowCount image .stopPoint)).foldlM (checkStopTransfers image) report

/-- Reports all issues. -/
def checkQuality : Guarded (List QualityIssue) := do
  let report ← checkBoarding image []
  let report ← checkCoordinates image report
  let report ← checkTimes image report
  checkSymmetry image report

/-! ## What is reported -/

variable {image : ByteArray} {path : String} {c : Container}

theorem note_eq (report : List QualityIssue) (bad : Bool) (issue : QualityIssue) :
    note report bad issue = report ++ if bad then [issue] else [] := by
  cases bad <;> simp [note]

/-! ### Boarding -/

theorem checkEnds_eq (shows : Shows path image c) {i : Nat} {p : JourneyPattern}
    (at_ : c.journeyPatterns.rows[i]? = some p) (report : List QualityIssue) :
    checkEnds image report i = .ok (report ++ Audit.boardingIssuesOf c i p) := by
  obtain ⟨inside, -⟩ := Array.getElem?_eq_some_iff.1 at_
  obtain ⟨pattern, narrowed, rfl⟩ :=
    exists_narrow16 (Nat.lt_trans inside (patterns_lt16 shows))
  have attributes : Points.attributes.read image =
      c.journeyPatternPoints.rows.map (·.attributes) := Key.read_eq _ shows
  have short : c.journeyPatternPoints.rows.size < wordSize :=
    rows_lt_wordSize shows .journeyPatternPoint
  simp only [checkEnds, narrowed, ok_bind, attributes, Array.size_map,
    pointsRange?_eq shows pattern short, at_, Option.bind_some, Audit.boardingIssuesOf]
  cases p.points? c.journeyPatternPoints.rows.size with
  | none => simp
  | some run =>
    have slice_ : slice (c.journeyPatternPoints.rows.map (·.attributes)) run.places.start
        run.places.stop = .ok (run.slice.map (·.attributes)).toArray := slice_places _ run
    simp only [Option.map_some, slice_, ok_bind, List.getElem?_toArray, List.back?_toArray,
      List.getLast?_map, ← List.head?_eq_getElem?]
    cases run.slice with
    | nil => simp
    | cons first rest =>
      simp only [List.head?_cons, List.getLast?_cons, Option.map_some, Option.any_some, note_eq,
        List.append_assoc, pure_eq_ok]
      rfl

theorem checkBoarding_eq (shows : Shows path image c) (report : List QualityIssue) :
    checkBoarding image report = .ok (report ++ Audit.boardingIssues c) := by
  rw [checkBoarding, rowCount_eq shows]
  exact foldlM_rows (fun i p at_ report => checkEnds_eq shows at_ report) report

/-! ### Coordinates -/

theorem checkCoordinate_eq (shows : Shows path image c) {i : Nat} {stop : StopPoint}
    (at_ : c.stopPoints.rows[i]? = some stop) (report : List QualityIssue) :
    checkCoordinate image report i = .ok (report ++
      if Audit.isPlausible stop.coord then [] else [.coordinateOutOfRange i stop.coord]) := by
  obtain ⟨inside, -⟩ := Array.getElem?_eq_some_iff.1 at_
  obtain ⟨number, narrowed, rfl⟩ :=
    exists_narrow16 (Nat.lt_trans inside (stopPoints_lt16 shows))
  have coord : index (StopPoints.coords.read image) number.toNat = .ok stop.coord :=
    index_read _ shows at_
  simp only [checkCoordinate, coord, ok_bind, narrowed]
  split <;> simp

theorem checkCoordinates_eq (shows : Shows path image c) (report : List QualityIssue) :
    checkCoordinates image report = .ok (report ++ Audit.coordinateIssues c) := by
  have size : (StopPoints.coords.read image).size = c.stopPoints.rows.size := by
    rw [Key.read_eq _ shows, Array.size_map]
    rfl
  rw [checkCoordinates, size]
  exact foldlM_rows (fun i stop at_ report => checkCoordinate_eq shows at_ report) report

/-! ### Times -/

/-- The issues of a stop time behind a departure from the stop before, if there is one. -/
def timeIssuesAt (vehicleJourney stop : Nat) (departed : Option CoarseTime) (t : StopTime) :
    List QualityIssue :=
  (if departed.isNone && t.arrival != 0 then [.firstArrivalNotZero vehicleJourney] else []) ++
    (if t.departure < t.arrival then [.departureBeforeArrival vehicleJourney stop] else []) ++
      if departed.any (t.arrival < ·) then [.negativeTravelTime vehicleJourney stop] else []

/-- The departure from the row before, if a run has one. -/
def departedBefore (c : Container) (start stop : Nat) : Option CoarseTime :=
  if stop = 0 then none else c.stopTimes.rows[start + stop - 1]?.map (·.departure)

/-- A row behind the first one of a run has a row before it. -/
theorem departedBefore_succ {start stop : Nat} {t : StopTime}
    (at_ : c.stopTimes.rows[start + stop]? = some t) :
    departedBefore c start (stop + 1) = some t.departure := by
  rw [departedBefore, if_neg (Nat.succ_ne_zero _), ← Nat.add_assoc, Nat.add_sub_cancel, at_]
  rfl

section

variable {start stop : Nat} {t : StopTime}

theorem startsLate_eq (shows : Shows path image c)
    (at_ : c.stopTimes.rows[start + stop]? = some t) :
    startsLate image (start + stop) stop =
      .ok ((departedBefore c start stop).isNone && t.arrival != 0) := by
  have arrival : index (StopTimes.arrivals.read image) (start + stop) = .ok t.arrival :=
    index_read _ shows at_
  cases stop with
  | zero =>
    rw [startsLate, if_pos rfl, arrival]
    rfl
  | succ stop =>
    obtain ⟨inside, -⟩ := Array.getElem?_eq_some_iff.1 at_
    have before := Array.getElem?_eq_getElem (show start + stop < c.stopTimes.rows.size by omega)
    rw [startsLate, if_neg (Nat.succ_ne_zero _), departedBefore_succ before]
    rfl

theorem arrivesEarly_eq (shows : Shows path image c)
    (at_ : c.stopTimes.rows[start + stop]? = some t) :
    arrivesEarly image (start + stop) stop =
      .ok ((departedBefore c start stop).any (t.arrival < ·)) := by
  have arrival : index (StopTimes.arrivals.read image) (start + stop) = .ok t.arrival :=
    index_read _ shows at_
  cases stop with
  | zero => rfl
  | succ stop =>
    obtain ⟨inside, -⟩ := Array.getElem?_eq_some_iff.1 at_
    have before := Array.getElem?_eq_getElem (show start + stop < c.stopTimes.rows.size by omega)
    have place : sub (start + (stop + 1)) 1 = .ok (start + stop) := sub_of_le (by omega)
    have departed : index (StopTimes.departures.read image) (start + stop) =
        .ok c.stopTimes.rows[start + stop].departure := index_read _ shows before
    rw [arrivesEarly, if_pos (Nat.succ_pos _), arrival, ok_bind, place, ok_bind, departed,
      departedBefore_succ before]
    rfl

theorem checkStopTime_eq (shows : Shows path image c)
    (at_ : c.stopTimes.rows[start + stop]? = some t) (vehicleJourney : UInt32)
    (report : List QualityIssue) :
    checkStopTime image vehicleJourney start report (start + stop) = .ok (report ++
      timeIssuesAt vehicleJourney.toNat stop (departedBefore c start stop) t) := by
  have arrival : index (StopTimes.arrivals.read image) (start + stop) = .ok t.arrival :=
    index_read _ shows at_
  have departure : index (StopTimes.departures.read image) (start + stop) = .ok t.departure :=
    index_read _ shows at_
  have place : sub (start + stop) start = .ok stop := by
    rw [sub_of_le (Nat.le_add_right _ _), Nat.add_sub_cancel_left]
  simp only [checkStopTime, departsEarly, place, startsLate_eq shows at_, arrival, departure,
    arrivesEarly_eq shows at_, ok_bind, pure_eq_ok, note_eq, timeIssuesAt, List.append_assoc,
    decide_eq_true_eq]

end

theorem foldlM_checkStopTime (shows : Shows path image c) {start stop : Nat} {ts : List StopTime}
    (there : ∀ j t, ts[j]? = some t → c.stopTimes.rows[start + (stop + j)]? = some t)
    (vehicleJourney : UInt32) (report : List QualityIssue) :
    (List.range' (start + stop) ts.length).foldlM (checkStopTime image vehicleJourney start)
        report = .ok (report ++ Audit.timeIssuesFrom vehicleJourney.toNat stop
          (departedBefore c start stop) ts) := by
  induction ts generalizing stop report with
  | nil => simp [Audit.timeIssuesFrom]
  | cons t ts ih =>
    have at_ : c.stopTimes.rows[start + stop]? = some t := there 0 t rfl
    have later := forall_getElem?_tail
      (P := fun i t => c.stopTimes.rows[start + i]? = some t) there
    rw [List.length_cons, List.range'_succ, List.foldlM_cons,
      checkStopTime_eq shows at_ vehicleJourney report, ok_bind, Nat.add_assoc, ih later,
      departedBefore_succ at_, Audit.timeIssuesFrom, timeIssuesAt, List.append_assoc,
      List.append_assoc]

theorem checkJourneyTimes_eq (shows : Shows path image c) {pattern : UInt16} {p : JourneyPattern}
    (at_ : c.journeyPatterns.rows[pattern.toNat]? = some p)
    (v : Fin c.vehicleJourneys.rows.size) (report : List QualityIssue) :
    checkJourneyTimes image pattern report v = .ok (report ++ Audit.journeyTimeIssues c p v) := by
  obtain ⟨v, inTable⟩ := v
  obtain ⟨vehicleJourney, narrowed, rfl⟩ :=
    exists_narrow32 (Nat.lt_trans inTable (rows_lt32 shows .vehicleJourney))
  simp only [checkJourneyTimes, narrowed, ok_bind,
    vehicleJourneyStopTimes?_of_rows shows at_ inTable, Audit.journeyTimeIssues]
  dsimp only [Fin.getElem_fin]
  cases c.vehicleJourneys.rows[vehicleJourney.toNat].stopTimes? p.stopCount.toNat
    c.stopTimes.rows.size with
  | none => simp
  | some run =>
    have there : ∀ j t, run.slice[j]? = some t →
        c.stopTimes.rows[run.start + (0 + j)]? = some t := by
      intro j t at_
      rw [Nat.zero_add]
      exact getElem?_of_slice at_
    have rounds := foldlM_checkStopTime shows there vehicleJourney report
    rwa [Span.length_slice, Nat.add_zero] at rounds

theorem checkPatternTimes_eq (shows : Shows path image c) {i : Nat} {p : JourneyPattern}
    (at_ : c.journeyPatterns.rows[i]? = some p) (report : List QualityIssue) :
    checkPatternTimes image report i = .ok (report ++
      match p.vehicleJourneys? c.vehicleJourneys.rows.size with
      | none => []
      | some run => run.rows.flatMap (Audit.journeyTimeIssues c p)) := by
  obtain ⟨inside, -⟩ := Array.getElem?_eq_some_iff.1 at_
  obtain ⟨pattern, narrowed, rfl⟩ :=
    exists_narrow16 (Nat.lt_trans inside (patterns_lt16 shows))
  simp only [checkPatternTimes, narrowed, ok_bind, patternVehicleJourneys?_eq shows,
    Container.patternVehicleJourneys?, at_, Option.bind_some]
  cases p.vehicleJourneys? c.vehicleJourneys.rows.size with
  | none => simp
  | some run => exact foldlM_places run (checkJourneyTimes_eq shows at_) report

theorem checkTimes_eq (shows : Shows path image c) (report : List QualityIssue) :
    checkTimes image report = .ok (report ++ Audit.timeIssues c) := by
  have rounds := foldlM_rows
    (fun i p at_ report => checkPatternTimes_eq shows (i := i) at_ report) report
  rw [checkTimes, rowCount_eq shows, Audit.timeIssues]
  rw [← List.zipIdx_map_fst 0 c.journeyPatterns.rows.toList, List.flatMap_map]
  exact rounds

/-! ### Transfers -/

theorem transfersOf_eq (shows : Shows path image c) (stop : UInt16) :
    transfersOf image stop = .ok (Audit.transfersOf c stop.toNat) := by
  rw [transfersOf, transfersFrom_eq shows, Audit.transfersOf]
  cases c.transfersFrom? stop.toNat with
  | none => rfl
  | some run =>
    have rows : run.places.list.filterMap (transfer? image) = run.slice := by
      have row : ∀ i : Fin c.transfers.rows.size,
          transfer? image i = some c.transfers.rows[i] := by
        intro i
        rw [transfer?_eq shows]
        exact Array.getElem?_eq_getElem i.isLt
      rw [list_places, List.filterMap_map]
      simp only [Function.comp_def, row]
      exact congrFun (List.filterMap_eq_map ..) _
    exact congrArg Except.ok rows

theorem checkReverse_eq (shows : Shows path image c) (source : UInt16)
    (row : Fin c.transfers.rows.size) (report : List QualityIssue) :
    checkReverse image source report row = .ok (report ++
      (Audit.transferIssue? c source.toNat c.transfers.rows[row]).toList) := by
  rw [checkReverse, transfer?_eq shows, Array.getElem?_eq_getElem row.isLt]
  dsimp only [Fin.getElem_fin]
  have same : ∀ t : Transfer, (t.targetStop == source) = (t.targetStop.toNat == source.toNat) := by
    intro t
    rw [Bool.eq_iff_iff, beq_iff_eq, beq_iff_eq, UInt16.toNat_inj]
  rw [transfersOf_eq shows, ok_bind, Audit.transferIssue?]
  simp only [same]
  cases (Audit.transfersOf c c.transfers.rows[row.val].targetStop.toNat).find?
    (·.targetStop.toNat == source.toNat) with
  | none => rfl
  | some reverse =>
    dsimp only
    by_cases equal : reverse.duration = c.transfers.rows[row.val].duration
    · simp [equal, note]
    · simp [equal, note]

theorem checkStopTransfers_eq (shows : Shows path image c) {i : Nat}
    (inside : i < c.stopPoints.rows.size) (report : List QualityIssue) :
    checkStopTransfers image report i = .ok (report ++
      (Audit.transfersOf c i).filterMap (Audit.transferIssue? c i)) := by
  obtain ⟨source, narrowed, rfl⟩ :=
    exists_narrow16 (Nat.lt_trans inside (stopPoints_lt16 shows))
  rw [checkStopTransfers, narrowed, ok_bind, transfersFrom_eq shows, ok_bind, Audit.transfersOf]
  cases c.transfersFrom? source.toNat with
  | none => simp
  | some run =>
    have rounds := foldlM_places run (checkReverse_eq shows source) report
    show run.places.list.foldlM (checkReverse image source) report =
      .ok (report ++ run.slice.filterMap (Audit.transferIssue? c source.toNat))
    rw [List.filterMap_eq_flatMap_toList, Span.slice, List.flatMap_map]
    exact rounds

theorem checkSymmetry_eq (shows : Shows path image c) (report : List QualityIssue) :
    checkSymmetry image report = .ok (report ++ Audit.transferIssues c) := by
  rw [checkSymmetry, rowCount_eq shows]
  exact foldlM_append
    (fun i mem report => checkStopTransfers_eq shows (List.mem_range.1 mem) report) report

/-- The check of quality makes no fault on an opened image, and reports what it reports
on the container. -/
theorem checkQuality_eq (shows : Shows path image c) :
    checkQuality image = .ok (Audit.qualityIssues c) := by
  simp only [checkQuality, checkBoarding_eq shows, checkCoordinates_eq shows, checkTimes_eq shows,
    checkSymmetry_eq shows, ok_bind, Audit.qualityIssues, List.nil_append]

end TransitStore.Guarded
