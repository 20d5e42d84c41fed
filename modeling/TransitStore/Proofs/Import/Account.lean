import Mathlib
import TransitStore.Proofs.Container.Ledger
import TransitStore.Proofs.Import.Trips

/-!
# What an import tells a container

An import that succeeds has added the rows of a feed to the tables in order.  The journey
patterns are laid one behind the other: the points, the stop times and the vehicle
journeys of each start where those of the one before it end (`Lays`), and the rows say
so.  All this is read off the ledger of the container (`account_addFeed`).
-/

namespace TransitStore

/-! ## Tables of a ledger -/

namespace Ledger

variable (l : Ledger)

def stopAreas : List StopArea.Draft := l.rows .stopArea

def stopPoints : List StopPoint.Draft := l.rows .stopPoint

def transfers : List Transfer := l.rows .transfer

def operators : List Operator.Draft := l.rows .operator

def physicalModes : List PhysicalMode.Draft := l.rows .physicalMode

def commercialModes : List CommercialMode.Draft := l.rows .commercialMode

def lines : List Line.Draft := l.rows .line

def routes : List Route := l.rows .route

def points : List JourneyPatternPoint.Draft := l.rows .journeyPatternPoint

def patterns : List JourneyPattern := l.rows .journeyPattern

def stopTimes : List StopTime := l.rows .stopTime

def journeys : List VehicleJourney.Draft := l.rows .vehicleJourney

end Ledger

namespace Import

open Entity Container

variable {c c' : Container} {l : Ledger}

/-- Rows were told of an entity, behind those that were told before. -/
structure Tells (e : Entity) (rows : List e.NewRow) (before after : Ledger) : Prop where
  rows : after.rows e = before.rows e ++ rows
  others : ∀ other ≠ e, after.rows other = before.rows other

theorem tells_of_add {e : Entity} {rows : List e.NewRow} {start : Nat} (same : Matches c l)
    (h : (Container.add rows : Edit Container Nat) c = .ok start c') :
    start = (l.rows e).length ∧ ∃ l', Matches c' l' ∧ Tells e rows l l' := by
  obtain ⟨first, same'⟩ := same.of_add h
  exact ⟨first, _, same', l.rows_enter_add e rows, fun other ne => l.rows_enter_add_of_ne ne rows⟩

/-! ## Lines -/

/-- Rows are the lines of the routes of a feed. -/
def LineRows (feed : Feed) (lines : List Line.Draft) : Prop :=
  feed.routes.mapM (lineDraft? (operatorLookup feed.agencies) feed.agencies.length
    (modesOf feed.routes)) = .ok lines

/-- Each route has a line with its identifier. -/
theorem LineRows.ids {feed : Feed} {lines : List Line.Draft} (made : LineRows feed lines) :
    lines.map (·.id) = feed.routes.map (·.id) :=
  map_eq_map_of_forall₂ ((mapM_eq_ok_iff.1 made).imp fun _ _ made => (lineDraft?_eq_ok made).1.symm)

/-- The lines of a feed were told to a new container, with the operators and modes there are. -/
structure TellsLines (feed : Feed) (lines : List Line.Draft) (l : Ledger) : Prop where
  made : LineRows feed lines
  operators : l.operators = feed.agencies.map operatorDraft
  physicalModes : l.physicalModes = (modesOf feed.routes).map Mode.physical
  commercialModes : l.commercialModes = (modesOf feed.routes).map Mode.commercial
  rows : l.lines = lines
  /-- Each line has a route of its own. -/
  routes : l.routes = (List.range lines.length).map fun line => Route.mk (UInt16.ofNat line)
  others : ∀ e ∉ lineTables, l.rows e = []

theorem tellsLines_addLines {feed : Feed} {lines : List Line.Draft}
    (h : addLines feed {} = .ok lines c) : ∃ l, Matches c l ∧ TellsLines feed lines l := by
  obtain ⟨_, c₁, add₁, h₁⟩ := Edit.bind_eq_ok.1 h
  obtain ⟨_, c₂, add₂, h₂⟩ := Edit.bind_eq_ok.1 h₁
  obtain ⟨_, c₃, add₃, h₃⟩ := Edit.bind_eq_ok.1 h₂
  obtain ⟨drafts, made, h₄⟩ := Edit.ofExcept_bind_eq_ok.1 h₃
  obtain ⟨_, c₄, add₄, h₅⟩ := Edit.bind_eq_ok.1 h₄
  obtain ⟨_, c₅, add₅, h₆⟩ := Edit.bind_eq_ok.1 h₅
  obtain ⟨rfl, rfl⟩ := Edit.pure_eq_ok.1 h₆
  obtain ⟨-, l₁, same₁, told₁⟩ := tells_of_add (e := operator) matches_new add₁
  obtain ⟨-, l₂, same₂, told₂⟩ := tells_of_add (e := physicalMode) same₁ add₂
  obtain ⟨-, l₃, same₃, told₃⟩ := tells_of_add (e := commercialMode) same₂ add₃
  obtain ⟨-, l₄, same₄, told₄⟩ := tells_of_add (e := line) same₃ add₄
  obtain ⟨-, l₅, same₅, told₅⟩ := tells_of_add (e := route) same₄ add₅
  refine ⟨l₅, same₅, made, ?_, ?_, ?_, ?_, ?_, ?_⟩
  · have kept : l₅.rows operator = l₁.rows operator :=
      (told₅.others operator nofun).trans ((told₄.others operator nofun).trans
        ((told₃.others operator nofun).trans (told₂.others operator nofun)))
    exact kept.trans told₁.rows
  · have kept : l₅.rows physicalMode = l₂.rows physicalMode :=
      (told₅.others physicalMode nofun).trans ((told₄.others physicalMode nofun).trans
        (told₃.others physicalMode nofun))
    have rows := kept.trans told₂.rows
    rw [told₁.others physicalMode nofun] at rows
    exact rows
  · have kept : l₅.rows commercialMode = l₃.rows commercialMode :=
      (told₅.others commercialMode nofun).trans (told₄.others commercialMode nofun)
    have rows := kept.trans told₃.rows
    rw [told₂.others commercialMode nofun, told₁.others commercialMode nofun] at rows
    exact rows
  · have before : l₃.rows line = [] :=
      (told₃.others line nofun).trans ((told₂.others line nofun).trans (told₁.others line nofun))
    have rows := (told₅.others line nofun).trans told₄.rows
    rw [before] at rows
    exact rows
  · have before : l₄.rows route = [] :=
      (told₄.others route nofun).trans ((told₃.others route nofun).trans
        ((told₂.others route nofun).trans (told₁.others route nofun)))
    have rows := told₅.rows
    rw [before] at rows
    exact rows
  · intro e other
    simp only [lineTables, List.mem_cons, List.not_mem_nil, or_false, not_or] at other
    obtain ⟨ne₁, ne₂, ne₃, ne₄, ne₅⟩ := other
    rw [told₅.others e ne₅, told₄.others e ne₄, told₃.others e ne₃, told₂.others e ne₂,
      told₁.others e ne₁]

/-! ## Stop points -/

/-- The walks of a feed. -/
abbrev feedWalks (feed : Feed) : Walks := walksOf feed (stopLookup feed) (stopPoints feed).length

/-- Rows are the stop points of a feed, with areas of the feed and with the places where their
walks start. -/
def StopRows (feed : Feed) (areas : Areas) (drafts : List StopPoint.Draft) : Prop :=
  areasOf feed (feedTimezone feed) = .ok areas ∧
    stopDrafts (stopPoints feed) (feedWalks feed).waits areas.rows
      (startsOf 0 (feedWalks feed).lists) = .ok drafts

theorem StopRows.ids {feed : Feed} {areas : Areas} {drafts : List StopPoint.Draft}
    (rows : StopRows feed areas drafts) : drafts.map (·.id) = (stopPoints feed).map (·.id) := by
  obtain ⟨placed, made⟩ := rows
  have known := known_walksOf feed
  refine map_of_stopDrafts (fun _ _ _ _ => rfl) made known.waits (areasOf_eq_ok placed).size ?_
  rw [length_startsOf, known.length_lists]

/-- The stop areas, the stop points and the walks of a feed were told. -/
structure TellsStops (feed : Feed) (areas : Areas) (drafts : List StopPoint.Draft)
    (before after : Ledger) : Prop where
  made : StopRows feed areas drafts
  areas : after.stopAreas = before.stopAreas ++ areas.areas.toList
  stopPoints : after.stopPoints = before.stopPoints ++ drafts
  transfers : after.transfers = before.transfers ++ (feedWalks feed).lists.flatten
  /-- The tables of lines and patterns stay. -/
  others : ∀ e ∉ stopTables, after.rows e = before.rows e

/-- Lists of transfers were told, one behind the other. -/
theorem tells_walks {lists : List (List Transfer)} (same : Matches c l)
    (h : (lists.forM fun list => do let _ ← Container.add list) c = .ok () c') :
    ∃ l', Matches c' l' ∧ Tells transfer lists.flatten l l' := by
  induction lists generalizing c l with
  | nil =>
    obtain ⟨-, rfl⟩ := Edit.pure_eq_ok.1 h
    exact ⟨l, same, (List.append_nil _).symm, fun _ _ => rfl⟩
  | cons list lists ih =>
    rw [List.forM] at h
    obtain ⟨_, middle, first, rest⟩ := Edit.bind_eq_ok.1 h
    obtain ⟨_, middle, add, done⟩ := Edit.bind_eq_ok.1 first
    obtain ⟨-, rfl⟩ := Edit.pure_eq_ok.1 done
    obtain ⟨-, l₁, same₁, told⟩ := tells_of_add (e := transfer) same add
    obtain ⟨l', same', told'⟩ := ih same₁ rest
    refine ⟨l', same', ?_, fun e ne => (told'.others e ne).trans (told.others e ne)⟩
    have first : l₁.transfers = l.transfers ++ list := told.rows
    have rest : l'.transfers = l₁.transfers ++ lists.flatten := told'.rows
    rw [first, List.append_assoc, ← List.flatten_cons] at rest
    exact rest

theorem tellsStops_addStops {feed : Feed} (same : Matches c l)
    (h : addStops feed (stopLookup feed) c = .ok () c') :
    ∃ areas drafts l', Matches c' l' ∧ TellsStops feed areas drafts l l' := by
  obtain ⟨areas, placed, h₁⟩ := Edit.ofExcept_bind_eq_ok.1 h
  obtain ⟨_, c₁, add₁, h₂⟩ := Edit.bind_eq_ok.1 h₁
  obtain ⟨drafts, made, h₃⟩ := Edit.ofExcept_bind_eq_ok.1 h₂
  obtain ⟨_, c₂, add₂, walk⟩ := Edit.bind_eq_ok.1 h₃
  obtain ⟨-, l₁, same₁, told₁⟩ := tells_of_add (e := stopArea) same add₁
  obtain ⟨-, l₂, same₂, told₂⟩ := tells_of_add (e := stopPoint) same₁ add₂
  obtain ⟨l₃, same₃, told₃⟩ := tells_walks same₂ walk
  refine ⟨areas, drafts, l₃, same₃, ⟨placed, made⟩, ?_, ?_, ?_, ?_⟩
  · have kept : l₃.rows stopArea = l₁.rows stopArea :=
      (told₃.others stopArea nofun).trans (told₂.others stopArea nofun)
    exact kept.trans told₁.rows
  · have rows := (told₃.others stopPoint nofun).trans told₂.rows
    rw [told₁.others stopPoint nofun] at rows
    exact rows
  · have before : l₂.rows transfer = l.rows transfer :=
      (told₂.others transfer nofun).trans (told₁.others transfer nofun)
    have rows := told₃.rows
    rw [before] at rows
    exact rows
  · intro e other
    simp only [stopTables, List.mem_cons, List.not_mem_nil, or_false, not_or] at other
    obtain ⟨ne₁, ne₂, ne₃⟩ := other
    rw [told₃.others e ne₃, told₂.others e ne₂, told₁.others e ne₁]

/-! ## Journey patterns -/

/-- The vehicle journeys of trips whose stop times stand one behind the other. -/
def journeyDrafts (days : ServiceDays) (timeOffset : Int8) :
    (stopTimes : Nat) → List FollowedTrip → List VehicleJourney.Draft
  | _, [] => []
  | stopTimes, t :: trips =>
    journeyDraft days timeOffset t stopTimes ::
      journeyDrafts days timeOffset (stopTimes + t.stopTimes.length) trips

/-- The journey pattern of trips with one key. -/
def patternOf (modes : Array UInt8) (points journeys : Nat) (key : PatternKey)
    (trips : List FollowedTrip) : JourneyPattern where
  pointOffset := UInt32.ofNat points
  stopCount := UInt16.ofNat key.stops.length
  vehicleJourneyOffset := UInt32.ofNat journeys
  vehicleJourneyCount := UInt16.ofNat trips.length
  attributes := trips.foldl (fun flags t => flags ||| t.attributes) 0
  route := key.line
  commercialMode := modes[key.line.toNat]?.getD 0

/-- The journey patterns whose points and vehicle journeys stand one behind the other. -/
def patternsOf (modes : Array UInt8) :
    (points journeys : Nat) → List Piece → List JourneyPattern
  | _, _, [] => []
  | points, journeys, (key, trips) :: pieces =>
    patternOf modes points journeys key trips ::
      patternsOf modes (points + key.points.length) (journeys + trips.length) pieces

theorem journeyDrafts_append (days : ServiceDays) (timeOffset : Int8) (start : Nat)
    (trips more : List FollowedTrip) : journeyDrafts days timeOffset start (trips ++ more) =
      journeyDrafts days timeOffset start trips ++
        journeyDrafts days timeOffset (start + (trips.flatMap (·.stopTimes)).length) more := by
  induction trips generalizing start with
  | nil => rfl
  | cons t trips ih =>
    rw [List.cons_append, journeyDrafts, journeyDrafts, ih, List.flatMap_cons, List.length_append,
      Nat.add_assoc, List.cons_append]

theorem patternsOf_append (modes : Array UInt8) (points journeys : Nat)
    (pieces more : List Piece) :
    patternsOf modes points journeys (pieces ++ more) = patternsOf modes points journeys pieces ++
      patternsOf modes (points + (pieces.flatMap (·.1.points)).length)
        (journeys + (pieces.flatMap (·.2)).length) more := by
  induction pieces generalizing points journeys with
  | nil => rfl
  | cons piece pieces ih =>
    rw [List.cons_append, patternsOf, patternsOf, ih, List.flatMap_cons, List.flatMap_cons,
      List.length_append, List.length_append, Nat.add_assoc, Nat.add_assoc, List.cons_append]

/-- Journey patterns were told with their points, their vehicle journeys and the stop times
of these, each behind those that were told before. -/
structure Lays (days : ServiceDays) (timeOffset : Int8) (modes : Array UInt8)
    (pieces : List Piece) (before after : Ledger) : Prop where
  points : after.points = before.points ++ pieces.flatMap (·.1.points)
  stopTimes : after.stopTimes =
    before.stopTimes ++ (pieces.flatMap (·.2)).flatMap (·.stopTimes)
  journeys : after.journeys = before.journeys ++
    journeyDrafts days timeOffset before.stopTimes.length (pieces.flatMap (·.2))
  patterns : after.patterns = before.patterns ++
    patternsOf modes before.points.length before.journeys.length pieces
  /-- A journey pattern can count its points. -/
  counted : ∀ piece ∈ pieces, piece.1.stops.length ≤ 65535
  others : ∀ e ∉ tripTables, after.rows e = before.rows e

variable {days : ServiceDays} {timeOffset : Int8} {modes : Array UInt8}

theorem Lays.nil (l : Ledger) : Lays days timeOffset modes [] l l where
  points := (List.append_nil _).symm
  stopTimes := (List.append_nil _).symm
  journeys := (List.append_nil _).symm
  patterns := (List.append_nil _).symm
  counted := nofun
  others _ _ := rfl

theorem length_journeyDrafts (start : Nat) (trips : List FollowedTrip) :
    (journeyDrafts days timeOffset start trips).length = trips.length := by
  induction trips generalizing start with
  | nil => rfl
  | cons t trips ih => rw [journeyDrafts, List.length_cons, List.length_cons, ih]

theorem Lays.append {pieces more : List Piece} {l' l'' : Ledger}
    (first : Lays days timeOffset modes pieces l l')
    (second : Lays days timeOffset modes more l' l'') :
    Lays days timeOffset modes (pieces ++ more) l l'' where
  points := by rw [second.points, first.points, List.flatMap_append, List.append_assoc]
  stopTimes := by
    rw [second.stopTimes, first.stopTimes, List.flatMap_append, List.flatMap_append,
      List.append_assoc]
  journeys := by
    rw [second.journeys, first.journeys, first.stopTimes, List.length_append,
      List.flatMap_append, journeyDrafts_append, List.append_assoc]
  patterns := by
    rw [second.patterns, first.patterns, first.points, first.journeys, List.length_append,
      List.length_append, length_journeyDrafts, patternsOf_append, List.append_assoc]
  counted piece mem := (List.mem_append.1 mem).elim (first.counted piece) (second.counted piece)
  others e other := (second.others e other).trans (first.others e other)

/-- Stop times of trips were told, one list behind the other. -/
theorem tells_stopTimes {trips : List FollowedTrip} {journeys : List VehicleJourney.Draft}
    (same : Matches c l)
    (h : (trips.mapM fun (t : FollowedTrip) => do
      let stopTimes ← Container.add t.stopTimes
      return journeyDraft days timeOffset t stopTimes) c = .ok journeys c') :
    ∃ l', Matches c' l' ∧ journeys = journeyDrafts days timeOffset l.stopTimes.length trips ∧
      l'.stopTimes = l.stopTimes ++ trips.flatMap (·.stopTimes) ∧
      ∀ e ≠ stopTime, l'.rows e = l.rows e := by
  induction trips generalizing c l journeys with
  | nil =>
    obtain ⟨rfl, rfl⟩ := Edit.mapM_nil_eq_ok.1 h
    exact ⟨l, same, rfl, (List.append_nil _).symm, fun _ _ => rfl⟩
  | cons t trips ih =>
    obtain ⟨draft, middle, rest, first, last, rfl⟩ := Edit.mapM_cons_eq_ok.1 h
    obtain ⟨start, c₁, add, made⟩ := Edit.bind_eq_ok.1 first
    obtain ⟨rfl, rfl⟩ := Edit.pure_eq_ok.1 made
    obtain ⟨start_, l₁, same₁, told⟩ := tells_of_add (e := stopTime) same add
    have times : l₁.stopTimes = l.stopTimes ++ t.stopTimes := told.rows
    obtain ⟨l', same', rfl, times', others⟩ := ih same₁ last
    refine ⟨l', same', ?_, ?_, fun e ne => (others e ne).trans (told.others e ne)⟩
    · rw [journeyDrafts, times, List.length_append, start_]
      rfl
    · rw [times', times, List.flatMap_cons, List.append_assoc]

theorem lays_addPattern {key : PatternKey} {trips : List FollowedTrip} (same : Matches c l)
    (counted : key.stops.length ≤ 65535)
    (h : addPattern days timeOffset (modes[key.line.toNat]?.getD 0) key trips c = .ok () c') :
    ∃ l', Matches c' l' ∧ Lays days timeOffset modes [(key, trips)] l l' := by
  obtain ⟨firstPoint, c₁, add₁, h₁⟩ := Edit.bind_eq_ok.1 h
  obtain ⟨journeys, c₂, add₂, h₂⟩ := Edit.bind_eq_ok.1 h₁
  obtain ⟨first, c₃, add₃, h₃⟩ := Edit.bind_eq_ok.1 h₂
  obtain ⟨_, c₄, add₄, h₄⟩ := Edit.bind_eq_ok.1 h₃
  obtain ⟨-, rfl⟩ := Edit.pure_eq_ok.1 h₄
  obtain ⟨start₁, l₁, same₁, told₁⟩ := tells_of_add (e := journeyPatternPoint) same add₁
  obtain ⟨l₂, same₂, rfl, times, others⟩ := tells_stopTimes same₁ add₂
  obtain ⟨start₃, l₃, same₃, told₃⟩ := tells_of_add (e := vehicleJourney) same₂ add₃
  obtain ⟨-, l₄, same₄, told₄⟩ := tells_of_add (e := journeyPattern) same₃ add₄
  have points : l₁.points = l.points ++ key.points := told₁.rows
  have times₁ : l₁.stopTimes = l.stopTimes := told₁.others stopTime nofun
  have journeys₂ : l₂.journeys = l.journeys :=
    (others vehicleJourney nofun).trans (told₁.others vehicleJourney nofun)
  refine ⟨l₄, same₄, ?_, ?_, ?_, ?_, ?_, ?_⟩
  · have kept : l₄.points = l₁.points := (told₄.others journeyPatternPoint nofun).trans
      ((told₃.others journeyPatternPoint nofun).trans (others journeyPatternPoint nofun))
    rw [kept, points, List.flatMap_singleton]
  · have kept : l₄.stopTimes = l₂.stopTimes :=
      (told₄.others stopTime nofun).trans (told₃.others stopTime nofun)
    rw [kept, times, times₁, List.flatMap_singleton]
  · have kept : l₄.journeys = l₃.journeys := told₄.others vehicleJourney nofun
    have rows : l₃.journeys = l₂.journeys ++
        journeyDrafts days timeOffset l₁.stopTimes.length trips := told₃.rows
    rw [kept, rows, journeys₂, times₁, List.flatMap_singleton]
  · have before : l₃.patterns = l.patterns := (told₃.others journeyPattern nofun).trans
      ((others journeyPattern nofun).trans (told₁.others journeyPattern nofun))
    have rows : l₄.patterns = l₃.patterns ++ [_] := told₄.rows
    have point : firstPoint = l.points.length := start₁
    have journey : first = l.journeys.length := start₃.trans (congrArg List.length journeys₂)
    rw [rows, before, point, journey]
    rfl
  · intro piece mem
    cases List.mem_singleton.1 mem
    exact counted
  · intro e other
    simp only [tripTables, List.mem_cons, List.not_mem_nil, or_false, not_or] at other
    obtain ⟨ne₁, ne₂, ne₃, ne₄⟩ := other
    rw [told₄.others e ne₄, told₃.others e ne₃, others e ne₂, told₁.others e ne₁]

/-- A loop lays the journey patterns of its rounds one behind the other. -/
theorem lays_forM {β : Type} {list : List β} {step : β → Edit Container Unit}
    {pieces : β → List Piece}
    (each : ∀ b c c' l, Matches c l → step b c = .ok () c' →
      ∃ l', Matches c' l' ∧ Lays days timeOffset modes (pieces b) l l')
    (same : Matches c l) (h : list.forM step c = .ok () c') :
    ∃ l', Matches c' l' ∧ Lays days timeOffset modes (list.flatMap pieces) l l' := by
  induction list generalizing c l with
  | nil =>
    obtain ⟨-, rfl⟩ := Edit.pure_eq_ok.1 h
    exact ⟨l, same, .nil l⟩
  | cons b list ih =>
    rw [List.forM] at h
    obtain ⟨_, middle, first, rest⟩ := Edit.bind_eq_ok.1 h
    obtain ⟨l₁, same₁, laid⟩ := each b c middle l same first
    obtain ⟨l', same', laid'⟩ := ih same₁ rest
    exact ⟨l', same', laid.append laid'⟩

theorem lays_addGroup {key : PatternKey} {trips : List FollowedTrip} (same : Matches c l)
    (h : addGroup days timeOffset modes key trips c = .ok () c') :
    ∃ l', Matches c' l' ∧
      Lays days timeOffset modes ((chunks (maxJourneys - 1) trips).map (key, ·)) l l' := by
  unfold addGroup at h
  dsimp only at h
  split at h
  · cases h
  · rename_i counted
    rw [List.map_eq_flatMap]
    exact lays_forM (fun _ _ _ _ same run => lays_addPattern same (Nat.not_lt.1 counted) run) same h

theorem lays_addTrips {feed : Feed} {lines : List Line.Draft} {warnings : List Warning}
    (same : Matches c l)
    (h : addTrips feed (stopLookup feed) lines days timeOffset c = .ok warnings c') :
    ∃ l', Matches c' l' ∧
      Lays days timeOffset (lines.map (·.physicalMode)).toArray (piecesOf feed) l l' := by
  obtain ⟨_, last, run, done⟩ := Edit.bind_eq_ok.1 h
  obtain ⟨-, rfl⟩ := Edit.pure_eq_ok.1 done
  exact lays_forM (fun _ _ _ _ same run => lays_addGroup same run) same run

/-! ## Feeds -/

/-- What an import tells a container of the routes, the stop points and the trips of a feed. -/
structure Account (feed : Feed) (days : ServiceDays) (timeOffset : Int8) (modes : Array UInt8)
    (l : Ledger) : Prop where
  operators : l.operators = feed.agencies.map operatorDraft
  physicalModes : l.physicalModes = (modesOf feed.routes).map Mode.physical
  commercialModes : l.commercialModes = (modesOf feed.routes).map Mode.commercial
  lineRows : LineRows feed l.lines
  /-- The services of a line are of the kind of its vehicles. -/
  lineModes : modes = (l.lines.map (·.physicalMode)).toArray
  routes : l.routes = (List.range feed.routes.length).map fun line => Route.mk (UInt16.ofNat line)
  stops : ∃ areas, StopRows feed areas l.stopPoints ∧ l.stopAreas = areas.areas.toList
  transfers : l.transfers = (feedWalks feed).lists.flatten
  points : l.points = (piecesOf feed).flatMap (·.1.points)
  stopTimes : l.stopTimes = ((piecesOf feed).flatMap (·.2)).flatMap (·.stopTimes)
  journeys : l.journeys = journeyDrafts days timeOffset 0 ((piecesOf feed).flatMap (·.2))
  patterns : l.patterns = patternsOf modes 0 0 (piecesOf feed)
  /-- A journey pattern can count its points. -/
  counted : ∀ piece ∈ piecesOf feed, piece.1.stops.length ≤ 65535

theorem Account.lines {feed : Feed} (account : Account feed days timeOffset modes l) :
    l.lines.map (·.id) = feed.routes.map (·.id) :=
  account.lineRows.ids

theorem Account.stopPoints {feed : Feed} (account : Account feed days timeOffset modes l) :
    l.stopPoints.map (·.id) = (Import.stopPoints feed).map (·.id) := by
  obtain ⟨areas, rows, -⟩ := account.stops
  exact rows.ids

theorem account_of_lays {feed : Feed} {lines : List Line.Draft} {areas : Areas}
    {drafts : List StopPoint.Draft} {l₁ l₂ l₃ : Ledger}
    (told : TellsLines feed lines l₁) (stops : TellsStops feed areas drafts l₁ l₂)
    (laid : Lays days timeOffset (lines.map (·.physicalMode)).toArray (piecesOf feed) l₂ l₃) :
    Account feed days timeOffset (lines.map (·.physicalMode)).toArray l₃ := by
  have empty (e : Entity) (noLine : e ∉ lineTables) (noStop : e ∉ stopTables) : l₂.rows e = [] :=
    (stops.others e noStop).trans (told.others e noLine)
  have noPoints : l₂.points = [] := empty journeyPatternPoint (by decide) (by decide)
  have noTimes : l₂.stopTimes = [] := empty stopTime (by decide) (by decide)
  have noJourneys : l₂.journeys = [] := empty vehicleJourney (by decide) (by decide)
  have noPatterns : l₂.patterns = [] := empty journeyPattern (by decide) (by decide)
  have kept (e : Entity) (noStop : e ∉ stopTables) (noTrip : e ∉ tripTables) :
      l₃.rows e = l₁.rows e :=
    (laid.others e noTrip).trans (stops.others e noStop)
  have lines_ : l₃.lines = lines := (kept line (by decide) (by decide)).trans told.rows
  have length : lines.length = feed.routes.length := (mapM_eq_ok_iff.1 told.made).length_eq.symm
  refine ⟨?_, ?_, ?_, lines_.symm ▸ told.made, by rw [lines_], ?_, ?_, ?_, ?_, ?_, ?_, ?_,
    laid.counted⟩
  · exact (kept operator (by decide) (by decide)).trans told.operators
  · exact (kept physicalMode (by decide) (by decide)).trans told.physicalModes
  · exact (kept commercialMode (by decide) (by decide)).trans told.commercialModes
  · have routes : l₃.routes = l₁.routes := kept route (by decide) (by decide)
    rw [routes, told.routes, length]
  · have points : l₃.stopPoints = drafts := by
      have kept : l₃.stopPoints = l₂.stopPoints := laid.others stopPoint (by decide)
      have none_ : l₁.stopPoints = [] := told.others stopPoint (by decide)
      rw [kept, stops.stopPoints, none_, List.nil_append]
    have areas_ : l₃.stopAreas = areas.areas.toList := by
      have kept : l₃.stopAreas = l₂.stopAreas := laid.others stopArea (by decide)
      have none_ : l₁.stopAreas = [] := told.others stopArea (by decide)
      rw [kept, stops.areas, none_, List.nil_append]
    exact ⟨areas, points ▸ stops.made, areas_⟩
  · have kept : l₃.transfers = l₂.transfers := laid.others transfer (by decide)
    have none_ : l₁.transfers = [] := told.others transfer (by decide)
    rw [kept, stops.transfers, none_, List.nil_append]
  · rw [laid.points, noPoints, List.nil_append]
  · rw [laid.stopTimes, noTimes, List.nil_append]
  · rw [laid.journeys, noJourneys, noTimes]
    rfl
  · rw [laid.patterns, noPatterns, noPoints, noJourneys]
    rfl

/-- An import that succeeds has gone through all its steps. -/
theorem addFeed_eq_ok {feed : Feed} {options : Options} {warnings : List Warning}
    (h : addFeed feed options {} = .ok warnings c) : ∃ timeOffset lines start c₁ c₂ c₃ c₄ c₅,
      options.timeOffset? = .ok timeOffset ∧ addLines feed {} = .ok lines c₁ ∧
        addStops feed (stopLookup feed) c₁ = .ok () c₂ ∧ calendarStart? feed options = .ok start ∧
        addTrips feed (stopLookup feed) lines (daysOf feed start options.keptDays) timeOffset c₂ =
          .ok warnings c₃ ∧
        setCalendar (UInt64.ofNat start.midnight.toNat) (UInt32.ofNat options.keptDays) c₃ =
          .ok () c₄ ∧
        setTimezone (feedTimezone feed) options.utcOffset c₄ = .ok () c₅ ∧
        buildStopIndex c₅ = .ok () c := by
  obtain ⟨timeOffset, offset, h₁⟩ := Edit.ofExcept_bind_eq_ok.1 h
  obtain ⟨lines, c₁, lines_, h₂⟩ := Edit.bind_eq_ok.1 h₁
  obtain ⟨_, c₂, stops, h₃⟩ := Edit.bind_eq_ok.1 h₂
  obtain ⟨start, began, h₄⟩ := Edit.ofExcept_bind_eq_ok.1 h₃
  obtain ⟨_, c₃, trips, h₅⟩ := Edit.bind_eq_ok.1 h₄
  obtain ⟨_, c₄, calendar, h₆⟩ := Edit.bind_eq_ok.1 h₅
  obtain ⟨_, c₅, zone, h₇⟩ := Edit.bind_eq_ok.1 h₆
  obtain ⟨_, c₆, index, h₈⟩ := Edit.bind_eq_ok.1 h₇
  obtain ⟨rfl, rfl⟩ := Edit.pure_eq_ok.1 h₈
  exact ⟨timeOffset, lines, start, c₁, c₂, c₃, c₄, c₅, offset, lines_, stops, began, trips,
    calendar, zone, index⟩

/-- A container with a feed in it was told what the feed says. -/
theorem account_addFeed {feed : Feed} {options : Options} {warnings : List Warning}
    (h : addFeed feed options {} = .ok warnings c) : ∃ timeOffset start modes l,
      options.timeOffset? = .ok timeOffset ∧ calendarStart? feed options = .ok start ∧
        Matches c l ∧ Account feed (daysOf feed start options.keptDays) timeOffset modes l := by
  obtain ⟨timeOffset, lines, start, _, _, _, _, _, offset, addedLines, addedStops, began,
    addedTrips, calendar, zone, index⟩ := addFeed_eq_ok h
  obtain ⟨l₁, same₁, told⟩ := tellsLines_addLines addedLines
  obtain ⟨areas, drafts, l₂, same₂, stops⟩ := tellsStops_addStops same₁ addedStops
  obtain ⟨l₃, same₃, laid⟩ := lays_addTrips same₂ addedTrips
  have same := ((same₃.setCalendar calendar).setTimezone zone).buildStopIndex index
  have account := account_of_lays told stops laid
  refine ⟨timeOffset, start, (lines.map (·.physicalMode)).toArray, _, offset, began, same, ?_⟩
  exact ⟨account.operators, account.physicalModes, account.commercialModes, account.lineRows,
    account.lineModes, account.routes, account.stops, account.transfers, account.points,
    account.stopTimes, account.journeys, account.patterns, account.counted⟩

end Import

end TransitStore
