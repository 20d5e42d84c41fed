import Mathlib
import TransitStore.Proofs.Audit.References
import TransitStore.Proofs.Guarded.Access

/-!
# The guarded check of references

The check of references on the columns of an opened image.  It looks up the element it
complains about once more by its row, compares neighbors in windows of two elements, and
numbers patterns and vehicle journeys with words of 16 and 32 bits.  It makes no fault and
finds what the check of the container does (`checkReferences_eq`).
-/

namespace TransitStore.Guarded

open Snapshot (Shows)
open Audit (pass firstBroken)

/-- The check of one column: fails with the first element that is bad, by its row. -/
def checkColumn {α : Type} (values : Array α) (bad : α → Bool)
    (broken : Nat → α → BrokenReference) : Checked BrokenReference Unit :=
  match values.findIdx? bad with
  | some row => do
    let value ← lift (index values row)
    throw (broken row value)
  | none => pure ()

/-- Checks that a column of texts stays inside a pool of `poolSize` bytes. -/
def checkTexts (what : String) (places : Array UInt32) (poolSize : Nat) :
    Checked BrokenReference Unit :=
  checkColumn places (fun place => poolSize ≤ place.toNat) fun row place =>
    .text what row place.toNat poolSize

/-- Checks that a column of row numbers stays inside a table of `count` rows. -/
def checkRows {α : Type} (what : String) (values : Array α) (target : String) (count : Nat)
    (number : α → Nat) : Checked BrokenReference Unit :=
  checkColumn values (fun value => count ≤ number value) fun row value =>
    .rowNumber what row target (number value) count

/-- Whether the second of two neighbors in a column is less than the first. -/
def descendsAt (offsets : Array UInt32) (place : Nat) : Guarded Bool := do
  let pair := offsets.extract place (place + 2)
  let first ← index pair 0
  let second ← index pair 1
  return second < first

variable (image : ByteArray)

/-- Checks that a stop point's transfers do not start behind those of the next one. -/
def checkOrder (offsets : Array UInt32) (stop : Nat) : Checked BrokenReference Unit := do
  if ← lift (descendsAt offsets stop) then
    -- The wording has the number of the next stop point.
    let _ ← lift (add stop 1)
    throw (.transferOrder stop)

/-- Checks that each stop point's transfers start where its predecessor's end, or
later, and that the last ones start inside their table. -/
def checkTransfers (transfers : Nat) : Checked BrokenReference Unit := do
  let offsets := StopPoints.transfersOffsets.read image
  (List.range (offsets.size - 1)).forM (checkOrder offsets)
  match offsets.back? with
  | some last =>
    if transfers < last.toNat then throw (.transferEnd last.toNat transfers)
  | none => pure ()

/-- Checks the runs of a pattern. -/
def checkPattern (number : Nat) : Checked BrokenReference Unit := do
  let pattern ← lift (narrow16 number)
  let _ ← require (pointsRange? image pattern (rowCount image .journeyPatternPoint))
    (.pointRun pattern.toNat)
  let run ← require (patternVehicleJourneys? image pattern) (.vehicleJourneyRun pattern.toNat)
  run.list.forM fun row => do
    let vehicleJourney ← lift (narrow32 row)
    let _ ← require (vehicleJourneyStopTimes? image pattern vehicleJourney)
      (.stopTimeRun vehicleJourney.toNat)

/-- Checks the runs of a vehicle journey's transfers. -/
def checkJourney (row : Nat) : Checked BrokenReference Unit := do
  let vehicleJourney ← lift (narrow32 row)
  let transfers := rowCount image .vehicleTransfer
  if (forwardTransfersRange? image vehicleJourney transfers).isNone ||
      (backwardTransfersRange? image vehicleJourney transfers).isNone then
    throw (.transferRun vehicleJourney.toNat)

/-- Checks a transfer to a vehicle journey. -/
def checkVehicleTransfer (row : Nat) (r : JourneyRef) : Checked BrokenReference Unit :=
  match value? image Patterns.vehicleJourneyCounts r.pattern.toNat with
  | some count =>
    if r.offset < count then pure ()
    else throw (.vehicleTransfer row r.offset.toNat r.pattern.toNat)
  | none => throw (.vehicleTransfer row r.offset.toNat r.pattern.toNat)

/-- Checks all transfers to vehicle journeys. -/
def checkVehicleTransfers : Checked BrokenReference Unit :=
  let refs := transferRefs.read image
  (List.range refs.size).forM fun row => do
    let r ← lift (index refs row)
    checkVehicleTransfer image row r

/-- Checks the stop index. -/
def checkStopIndex : Checked BrokenReference Unit := do
  let offsets := indexOffsets image
  let patterns := indexPatterns image
  if offsets.isEmpty then return
  let size ← lift (add (rowCount image .stopPoint) 1)
  if offsets.size ≠ size then throw (.indexSize offsets.size (rowCount image .stopPoint))
  let descends ← lift ((List.range (offsets.size - 1)).anyM (descendsAt offsets))
  if descends || (offsets.back?.getD 0).toNat != patterns.size then throw .indexOrder
  checkRows StopIndex.label patterns "journey pattern" (rowCount image .journeyPattern)
    UInt16.toNat

/-- Checks columns of texts, one after the other. -/
def checkAllTexts {e : Entity} (what : String) (keys : List (Key e UInt32)) :
    Checked BrokenReference Unit :=
  keys.forM fun key => checkTexts what (key.read image) (poolBytes image).size

/-- Checks a column of rows of a table. -/
def checkKey {e : Entity} {α : Type} [Cell α] (what : String) (key : Key e α) (number : α → Nat)
    (target : String) (owner : Entity) : Checked BrokenReference Unit :=
  checkRows what (key.read image) target (rowCount image owner) number

/-- Checks the name of the time zone. -/
def checkTimezone : Checked BrokenReference Unit :=
  match (Snapshot.readMetadata image).timezone with
  | some timezone => checkTexts "timezone" #[timezone] (poolBytes image).size
  | none => pure ()

/-- Finds the first reference that leads nowhere. -/
def checkReferences : Checked BrokenReference Unit := do
  checkTimezone image
  checkAllTexts image "stop areas" [StopAreas.ids, StopAreas.names, StopAreas.timezones]
  checkAllTexts image "stop points" [StopPoints.ids, StopPoints.names, StopPoints.platformCodes]
  checkKey image "stop points" StopPoints.stopAreas UInt16.toNat "stop area" .stopArea
  checkTransfers image (rowCount image .transfer)
  checkKey image "transfers" Transfers.targetStops UInt16.toNat "stop point" .stopPoint
  checkAllTexts image "operators" [Operators.ids, Operators.urls, Operators.names]
  checkAllTexts image "physical modes" [PhysicalModes.ids, PhysicalModes.names]
  checkAllTexts image "commercial modes" [CommercialModes.ids, CommercialModes.names]
  checkAllTexts image "lines" [Lines.ids, Lines.codes, Lines.names, Lines.colors, Lines.textColors]
  checkKey image "lines" Lines.operators UInt8.toNat "operator" .operator
  checkKey image "lines" Lines.physicalModes UInt8.toNat "physical mode" .physicalMode
  checkKey image "routes" Routes.lines UInt16.toNat "line" .line
  checkKey image "journey pattern points" Points.stopPoints UInt16.toNat "stop point" .stopPoint
  checkAllTexts image "journey pattern points" [Points.headsigns]
  checkKey image "journey patterns" Patterns.routes UInt16.toNat "route" .route
  checkKey image "journey patterns" Patterns.commercialModes UInt8.toNat "commercial mode"
    .commercialMode
  checkAllTexts image "vehicle journeys" [VehicleJourneys.ids]
  (List.range (rowCount image .journeyPattern)).forM (checkPattern image)
  (List.range (rowCount image .vehicleJourney)).forM (checkJourney image)
  checkVehicleTransfers image
  checkStopIndex image

/-! ## One column -/

variable {image : ByteArray} {path : String} {c : Container}

theorem findSome?_zipIdx {ρ ε : Type} (bad : ρ → Bool) (broken : Nat → ρ → ε) (l : List ρ)
    (k : Nat) : ((l.zipIdx k).findSome? fun (r, i) => if bad r then some (broken i r) else none) =
      (l.findIdx? bad).bind fun i => l[i]?.map (broken (k + i)) := by
  induction l generalizing k with
  | nil => rfl
  | cons r l ih =>
    rw [List.zipIdx_cons, List.findSome?_cons, List.findIdx?_cons]
    by_cases first : bad r
    · simp [first]
    · simp [first, ih, Option.bind_map, Nat.add_assoc, Nat.add_comm 1]

theorem firstBroken_eq {ρ : Type} (rows : Array ρ) (broken? : Nat → ρ → Option BrokenReference) :
    firstBroken rows broken? =
      pass (rows.toList.zipIdx.findSome? fun (r, i) => broken? i r) := by
  rw [firstBroken, ← Array.findSome?_toList, Array.toList_zipIdx]

/-- A column is checked like the part of the records that it has. -/
theorem checkColumn_eq {ρ α : Type} (rows : Array ρ) (part : ρ → α) (bad : α → Bool)
    (broken : Nat → α → BrokenReference) : checkColumn (rows.map part) bad broken =
      settled (firstBroken rows fun i r =>
        if bad (part r) then some (broken i (part r)) else none) := by
  have first : (rows.toList.zipIdx.findSome? fun (r, i) =>
      if bad (part r) then some (broken i (part r)) else none) =
        (rows.findIdx? (bad ∘ part)).bind fun i => rows[i]?.map fun r => broken i (part r) := by
    have search := findSome?_zipIdx (bad ∘ part) (fun i r => broken i (part r)) rows.toList 0
    rw [← List.findIdx?_toArray] at search
    simpa using search
  rw [checkColumn, firstBroken_eq, first, Array.findIdx?_map]
  cases found : rows.findIdx? (bad ∘ part) with
  | none => rfl
  | some row =>
    obtain ⟨inside, -⟩ := Array.findIdx?_eq_some_iff_getElem.1 found
    have at_ : rows[row]? = some rows[row] := Array.getElem?_eq_getElem inside
    have value : index (rows.map part) row = .ok (part rows[row]) :=
      index_of_getElem? (by rw [Array.getElem?_map, at_]; rfl)
    simp only [value, lift_ok, pure_bind, at_, Option.bind_some, Option.map_some]
    rfl

theorem checkAllTexts_eq (shows : Shows path image c) {e : Entity} (what : String)
    (keys : List (Key e UInt32)) : checkAllTexts image what keys =
      settled (keys.forM fun key =>
        Audit.checkTexts what (e.table c).rows c.pool.size key.part) := by
  apply forM_settled
  intro key _
  rw [checkTexts, key.read_eq shows, poolBytes_eq shows, checkColumn_eq]
  simp only [decide_eq_true_eq]
  rfl

theorem checkKey_eq (shows : Shows path image c) {e : Entity} {α : Type} [Cell α] [LawfulCell α]
    (what : String) (key : Key e α) (number : α → Nat) (target : String) (owner : Entity) :
    checkKey image what key number target owner =
      settled (Audit.checkRows what (e.table c).rows target (owner.table c).size fun r =>
        number (key.part r)) := by
  rw [checkKey, checkRows, key.read_eq shows, rowCount_eq shows, checkColumn_eq]
  simp only [decide_eq_true_eq]
  rfl

/-! ## Loops over rows -/

theorem forM_zipIdx {ρ : Type} {broken? : Nat → ρ → Option BrokenReference}
    {round : Nat → Checked BrokenReference Unit} (l : List ρ) (k : Nat)
    (step : ∀ i r, l[i]? = some r → round (k + i) = settled (pass (broken? (k + i) r))) :
    (List.range' k l.length).forM round =
      settled (pass ((l.zipIdx k).findSome? fun (r, i) => broken? i r)) := by
  induction l generalizing k with
  | nil => rfl
  | cons r l ih =>
    have later := forall_getElem?_tail
      (P := fun i r => round i = settled (pass (broken? i r))) step
    have first : round k = settled (pass (broken? k r)) := step 0 r rfl
    show (round k >>= fun _ => (List.range' (k + 1) l.length).forM round) = _
    rw [first, ih (k + 1) later, List.zipIdx_cons, List.findSome?_cons]
    dsimp only
    cases broken? k r <;> rfl

/-- A loop over the first rows of a table that looks at each row like a check does, which
finds nothing in the other rows. -/
theorem forM_front {ρ : Type} {rows : Array ρ} {broken? : Nat → ρ → Option BrokenReference}
    {round : Nat → Checked BrokenReference Unit} {count : Nat} (le : count ≤ rows.size)
    (step : ∀ i r, i < count → rows[i]? = some r → round i = settled (pass (broken? i r)))
    (rest : ∀ i r, count ≤ i → rows[i]? = some r → broken? i r = none) :
    (List.range count).forM round = settled (firstBroken rows broken?) := by
  have length : (rows.toList.take count).length = count :=
    List.length_take_of_le (by rwa [Array.length_toList])
  have rounds : (List.range' 0 (rows.toList.take count).length).forM round =
      settled (pass ((rows.toList.take count).zipIdx.findSome? fun (r, i) => broken? i r)) := by
    refine forM_zipIdx _ 0 fun i r at_ => ?_
    have lt : i < count := length ▸ (List.getElem?_eq_some_iff.1 at_).1
    rw [List.getElem?_take_of_lt lt, Array.getElem?_toList] at at_
    rw [Nat.zero_add]
    exact step i r lt at_
  have nothing : (((rows.toList.drop count).zipIdx count).findSome? fun (r, i) => broken? i r) =
      none := by
    rw [List.findSome?_eq_none_iff]
    rintro ⟨r, i⟩ mem
    obtain ⟨behind, at_⟩ := List.mk_mem_zipIdx_iff_le_and_getElem?_sub.1 mem
    rw [List.getElem?_drop, Nat.add_sub_cancel' behind, Array.getElem?_toList] at at_
    exact rest i r behind at_
  have split : (rows.toList.zipIdx.findSome? fun (r, i) => broken? i r) =
      ((rows.toList.take count).zipIdx.findSome? fun (r, i) => broken? i r) := by
    conv_lhs => rw [← List.take_append_drop count rows.toList]
    rw [List.zipIdx_append, List.findSome?_append, length, Nat.zero_add, nothing, Option.or_none]
  rw [firstBroken_eq, split, ← rounds, length, List.range_eq_range']

/-- A loop over the rows of a table that looks at each row like a check does. -/
theorem forM_rows {ρ : Type} {rows : Array ρ} {broken? : Nat → ρ → Option BrokenReference}
    {round : Nat → Checked BrokenReference Unit}
    (step : ∀ i r, rows[i]? = some r → round i = settled (pass (broken? i r))) :
    (List.range rows.size).forM round = settled (firstBroken rows broken?) :=
  forM_front (Nat.le_refl _) (fun i r _ => step i r) fun _ _ behind at_ =>
    absurd (Array.getElem?_eq_some_iff.1 at_).1 (Nat.not_lt.2 behind)

/-- A loop over the rows of a run that looks at each row like a search does. -/
theorem forM_run {n : Nat} (s : Span n) {broken? : Fin n → Option BrokenReference}
    {round : Nat → Checked BrokenReference Unit}
    (step : ∀ i : Fin n, round i = settled (pass (broken? i))) :
    s.places.list.forM round = settled (pass (s.rows.findSome? broken?)) := by
  rw [list_places]
  induction s.rows with
  | nil => rfl
  | cons i rest ih =>
    show (round i >>= fun _ => (rest.map Fin.val).forM round) = _
    rw [step i, ih, List.findSome?_cons]
    cases broken? i <;> rfl

/-! ## The parts of the check -/

theorem descendsAt_eq {offsets : Array UInt32} {place : Nat} {first second : UInt32}
    (at_ : offsets[place]? = some first) (behind : offsets[place + 1]? = some second) :
    descendsAt offsets place = .ok (second < first) := by
  have inside : place + 1 < offsets.size := (Array.getElem?_eq_some_iff.1 behind).1
  have pair : ∀ i < 2, (offsets.extract place (place + 2))[i]? = offsets[place + i]? := by
    intro i lt
    rw [Array.getElem?_extract, if_pos]
    omega
  have first_ : index (offsets.extract place (place + 2)) 0 = .ok first :=
    index_of_getElem? (by rw [pair 0 (by decide)]; exact at_)
  have second_ : index (offsets.extract place (place + 2)) 1 = .ok second :=
    index_of_getElem? (by rw [pair 1 (by decide)]; exact behind)
  simp only [descendsAt, first_, second_, ok_bind, pure_eq_ok]

/-- The two neighbors of a window are the offsets of a stop point and of the next one. -/
theorem checkOrder_eq {stops : Array StopPoint} {i : Nat} {stop next : StopPoint}
    (small : i + 1 < wordSize) (at_ : stops[i]? = some stop) (behind : stops[i + 1]? = some next) :
    checkOrder (stops.map (·.transfersOffset)) i =
      settled (pass (if next.transfersOffset < stop.transfersOffset then some (.transferOrder i)
        else none)) := by
  have offset {j : Nat} {p : StopPoint} (at_ : stops[j]? = some p) :
      (stops.map (·.transfersOffset))[j]? = some p.transfersOffset := by
    rw [Array.getElem?_map, at_]
    rfl
  simp only [checkOrder, descendsAt_eq (offset at_) (offset behind), lift_ok, pure_bind,
    add_of_lt small, decide_eq_true_eq]
  split <;> rfl

theorem checkTransfers_eq (shows : Shows path image c) (transfers : Nat) :
    checkTransfers image transfers =
      settled (Audit.checkTransfers c.stopPoints.rows transfers) := by
  have offsets : StopPoints.transfersOffsets.read image =
      c.stopPoints.rows.map (·.transfersOffset) := Key.read_eq _ shows
  unfold checkTransfers Audit.checkTransfers
  simp only [offsets, Array.size_map, settled_bind, Array.back?_map]
  congr 1
  · -- There is no window for the last stop point, where the check finds nothing.
    refine forM_front (Nat.sub_le _ 1) ?_ ?_
    · intro i stop lt at_
      have inside : i + 1 < c.stopPoints.rows.size := by omega
      have behind := Array.getElem?_eq_getElem inside
      rw [behind]
      exact checkOrder_eq (Nat.lt_trans inside (rows_lt_wordSize shows .stopPoint)) at_ behind
    · intro i stop behind at_
      have last : c.stopPoints.rows[i + 1]? = none := by
        rw [Array.getElem?_eq_none_iff]
        omega
      rw [last]
  · funext _
    cases c.stopPoints.rows.back? with
    | none => rfl
    | some last =>
      dsimp only [Option.map_some]
      split <;> rfl

theorem checkPattern_eq (shows : Shows path image c) {i : Nat} {p : JourneyPattern}
    (at_ : c.journeyPatterns.rows[i]? = some p) :
    checkPattern image i = settled (pass (Audit.brokenPattern? c i p)) := by
  obtain ⟨inside, -⟩ := Array.getElem?_eq_some_iff.1 at_
  obtain ⟨pattern, narrowed, rfl⟩ :=
    exists_narrow16 (Nat.lt_trans inside (patterns_lt16 shows))
  have points : rowCount image .journeyPatternPoint = c.journeyPatternPoints.size :=
    rowCount_eq shows _
  have short : c.journeyPatternPoints.size < wordSize := rows_lt_wordSize shows .journeyPatternPoint
  simp only [checkPattern, narrowed, lift_ok, pure_bind, points,
    pointsRange?_eq shows pattern short, patternVehicleJourneys?_eq shows,
    Container.patternVehicleJourneys?, at_, Option.bind_some, Audit.brokenPattern?]
  cases p.points? c.journeyPatternPoints.size with
  | none => rfl
  | some run =>
    cases p.vehicleJourneys? c.vehicleJourneys.rows.size with
    | none => rfl
    | some run =>
      dsimp only [Option.map_some, require_some, pure_bind]
      refine forM_run run ?_
      rintro ⟨v, inTable⟩
      obtain ⟨vehicleJourney, narrowed, rfl⟩ :=
        exists_narrow32 (Nat.lt_trans inTable (rows_lt32 shows .vehicleJourney))
      simp only [narrowed, lift_ok, pure_bind,
        vehicleJourneyStopTimes?_of_rows shows at_ inTable, Table.size]
      cases c.vehicleJourneys.rows[vehicleJourney.toNat].stopTimes? p.stopCount.toNat
        c.stopTimes.rows.size with
      | none => rfl
      | some run => rfl

theorem checkJourney_eq (shows : Shows path image c) {i : Nat} {v : VehicleJourney}
    (at_ : c.vehicleJourneys.rows[i]? = some v) :
    checkJourney image i = settled (pass (Audit.brokenJourney? c.vehicleTransfers.size i v)) := by
  obtain ⟨inside, -⟩ := Array.getElem?_eq_some_iff.1 at_
  obtain ⟨vehicleJourney, narrowed, rfl⟩ :=
    exists_narrow32 (Nat.lt_trans inside (rows_lt32 shows .vehicleJourney))
  have transfers : rowCount image .vehicleTransfer = c.vehicleTransfers.size := rowCount_eq shows _
  have short : c.vehicleTransfers.size < wordSize := rows_lt_wordSize shows .vehicleTransfer
  simp only [checkJourney, narrowed, lift_ok, pure_bind, transfers, at_, Option.bind_some,
    forwardTransfersRange?_eq shows vehicleJourney short,
    backwardTransfersRange?_eq shows vehicleJourney short, Option.isNone_map,
    Audit.brokenJourney?, Bool.or_eq_true]
  split <;> rfl

theorem checkVehicleTransfer_eq (shows : Shows path image c) (i : Nat) (r : JourneyRef) :
    checkVehicleTransfer image i r =
      settled (pass (Audit.brokenVehicleTransfer? c.journeyPatterns.rows i r)) := by
  have count : value? image Patterns.vehicleJourneyCounts r.pattern.toNat =
      c.journeyPatterns.rows[r.pattern.toNat]?.map (·.vehicleJourneyCount) := value?_eq _ shows _
  rw [checkVehicleTransfer, Audit.brokenVehicleTransfer?, count]
  cases c.journeyPatterns.rows[r.pattern.toNat]? with
  | none => rfl
  | some p =>
    dsimp only [Option.map_some]
    split <;> rfl

theorem checkVehicleTransfers_eq (shows : Shows path image c) : checkVehicleTransfers image =
    settled (firstBroken c.vehicleTransfers.rows
      (Audit.brokenVehicleTransfer? c.journeyPatterns.rows)) := by
  have refs : transferRefs.read image = c.vehicleTransfers.rows := by
    rw [Key.read_eq _ shows]
    exact Array.map_id _
  rw [checkVehicleTransfers, refs]
  refine forM_rows fun i r at_ => ?_
  rw [index_of_getElem? at_, lift_ok, pure_bind]
  exact checkVehicleTransfer_eq shows i r

theorem anyM_descendsAt {offsets : Array UInt32} {k m : Nat} (all : k + (m + 1) = offsets.size) :
    (List.range' k m).anyM (descendsAt offsets) =
      .ok (Audit.descends (offsets.toList.drop k)) := by
  induction m generalizing k with
  | zero =>
    have inside : k < offsets.toList.length := by simp; omega
    rw [List.drop_eq_getElem_cons inside, List.drop_of_length_le (by simp; omega)]
    rfl
  | succ m ih =>
    have inside : k < offsets.size := by omega
    have behind : k + 1 < offsets.size := by omega
    have rest := ih (k := k + 1) (by omega)
    have next : offsets.toList.drop (k + 1) =
        offsets[k + 1] :: offsets.toList.drop (k + 1 + 1) := by
      rw [List.drop_eq_getElem_cons (by simpa using behind)]
      rfl
    have first : offsets.toList.drop k = offsets[k] :: offsets.toList.drop (k + 1) := by
      rw [List.drop_eq_getElem_cons (by simpa using inside)]
      rfl
    have descends := descendsAt_eq (Array.getElem?_eq_getElem inside)
      (Array.getElem?_eq_getElem behind)
    rw [List.range'_succ, List.anyM_cons, descends, ok_bind, rest, first, next, Audit.descends]
    cases decide (offsets[k + 1] < offsets[k]) <;> rfl

theorem descends_eq (offsets : Array UInt32) :
    (List.range (offsets.size - 1)).anyM (descendsAt offsets) =
      .ok (Audit.descends offsets.toList) := by
  rw [List.range_eq_range']
  cases size : offsets.size with
  | zero =>
    rw [Array.eq_empty_of_size_eq_zero size]
    rfl
  | succ n => exact anyM_descendsAt (by omega)

theorem checkStopIndex_eq (shows : Shows path image c) :
    checkStopIndex image = settled (Audit.checkStopIndex c) := by
  have stops : rowCount image .stopPoint = c.stopPoints.rows.size := rowCount_eq shows _
  have patterns : rowCount image .journeyPattern = c.journeyPatterns.rows.size :=
    rowCount_eq shows _
  have rows : checkRows StopIndex.label c.stopIndex.patterns.values "journey pattern"
      c.journeyPatterns.rows.size UInt16.toNat =
        settled (Audit.checkRows StopIndex.label c.stopIndex.patterns.values "journey pattern"
          c.journeyPatterns.size UInt16.toNat) := by
    have column := checkColumn_eq c.stopIndex.patterns.values id
      (fun p => c.journeyPatterns.rows.size ≤ p.toNat) fun row p =>
        .rowNumber StopIndex.label row "journey pattern" p.toNat c.journeyPatterns.rows.size
    simp only [Array.map_id, decide_eq_true_eq] at column
    exact column
  unfold checkStopIndex Audit.checkStopIndex
  simp only [indexOffsets_eq shows, indexPatterns_eq shows, stops, patterns,
    add_of_lt (stopPoints_succ_lt shows),
    descends_eq, lift_ok, pure_bind, rows, Table.size]
  split_ifs <;> rfl

theorem checkTimezone_eq (shows : Shows path image c) : checkTimezone image =
    settled (Audit.checkTexts "timezone" c.metadata.timezone.toArray c.pool.size id) := by
  rw [checkTimezone, ← shows.metadata, poolBytes_eq shows]
  cases c.metadata.timezone with
  | none => rfl
  | some place =>
    have one := checkColumn_eq #[place] id (fun p => c.pool.size ≤ p.toNat) fun row p =>
      .text "timezone" row p.toNat c.pool.size
    simp only [Array.map_id, decide_eq_true_eq] at one
    exact one

/-- The check of references makes no fault on an opened image, and finds what it finds
on the container. -/
theorem checkReferences_eq (shows : Shows path image c) :
    checkReferences image = settled (Audit.checkReferences c) := by
  have transfers : rowCount image .transfer = c.transfers.size := rowCount_eq shows _
  have patterns : (List.range (rowCount image .journeyPattern)).forM (checkPattern image) =
      settled (firstBroken c.journeyPatterns.rows (Audit.brokenPattern? c)) := by
    rw [rowCount_eq shows]
    exact forM_rows fun i p at_ => checkPattern_eq shows at_
  have journeys : (List.range (rowCount image .vehicleJourney)).forM (checkJourney image) =
      settled (firstBroken c.vehicleJourneys.rows
        (Audit.brokenJourney? c.vehicleTransfers.size)) := by
    rw [rowCount_eq shows]
    exact forM_rows fun i v at_ => checkJourney_eq shows at_
  unfold checkReferences Audit.checkReferences
  simp only [checkTimezone_eq shows, checkAllTexts_eq shows, checkKey_eq shows, transfers,
    checkTransfers_eq shows, patterns, journeys, checkVehicleTransfers_eq shows,
    checkStopIndex_eq shows, ← settled_bind, List.forM_eq_forM, List.forM_cons, List.forM_nil,
    bind_assoc, pure_bind]
  rfl

end TransitStore.Guarded
