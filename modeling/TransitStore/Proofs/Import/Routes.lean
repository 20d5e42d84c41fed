import Mathlib
import TransitStore.Proofs.Import.Journeys
import TransitStore.Proofs.Import.Needs

/-!
# Routes and lines

An imported container has an operator for each agency of its feed, and a line with a route for
each route.  The modes are the codes of the routes in the order they first appear, and are
looked up again for each line, in numbers of eight bits.  The tables are no longer than these
reach, so a line does get the operator and the mode of its route (`lineOf_of_shows`).  A
journey pattern is found to have the mode of the line that it is on
(`CarriesLines.patterns`).
-/

namespace TransitStore

/-! ## Texts of numbers -/

theorem Text.zero_not_mem_toString (n : Int) : '\x00' ∉ (toString n).toList := by
  have digits (n : Nat) : '\x00' ∉ (Nat.repr n).toList := by
    rw [Nat.repr, String.toList_ofList]
    intro mem
    exact absurd (Nat.isDigit_of_mem_toDigits (by decide) (by decide) mem) (by decide)
  cases n with
  | ofNat n => exact digits n
  | negSucc n =>
    show '\x00' ∉ ("-" ++ Nat.repr (n + 1)).toList
    rw [String.toList_append, List.mem_append]
    exact fun mem => mem.elim (by decide) (digits _)

/-- A number is read as a whole. -/
theorem Pool.Reads.toString {pool : Pool} {place : UInt32} {n : Int}
    (reads : pool.Reads place (toString n)) : pool.text? place = some (toString n) := by
  rwa [Pool.Reads, Text.untilZero_eq (Text.zero_not_mem_toString n)] at reads

namespace Import

open Entity Container

variable {feed : Feed} {options : Options} {c : Container}

/-! ## What the tables say -/

/-- A row is the operator of a route: the last agency that has the identifier the route gives,
or the only agency if the route gives none. -/
def IsOperatorOf (feed : Feed) (route : Feed.Route) (row : Nat) : Prop :=
  match route.agencyId with
  | some id => LastRow feed.agencies (·.id = some id) row
  | none => feed.agencies.length = 1 ∧ row = 0

/-- A record says of an operator what an agency is. -/
structure OperatorOf (pool : Pool) (agency : Feed.Agency) (operator : Operator) : Prop where
  id : pool.Reads operator.id (agency.id.getD "")
  url : pool.Reads operator.url agency.url
  name : pool.Reads operator.name agency.name

/-- A route is the first one with a code. -/
def IsFirst (routes : List Feed.Route) (code : Int) (route : Feed.Route) : Prop :=
  routes.find? (fun route => route.type.code == code) = some route

/-- The texts of a mode are a code and the name that the first route with it gives. -/
structure ModeOf (routes : List Feed.Route) (pool : Pool) (code : Int) (id name : UInt32) :
    Prop where
  id : pool.text? id = some (toString code)
  name : ∃ route, IsFirst routes code route ∧ pool.Reads name route.type.title

/-- A record says of a line what a route is. -/
structure LineOf (feed : Feed) (c : Container) (route : Feed.Route) (line : Line) : Prop where
  id : c.pool.Reads line.id route.id
  code : c.pool.Reads line.code (route.shortName.getD "")
  name : c.pool.Reads line.name (route.longName.getD "")
  operator : IsOperatorOf feed route line.operator.toNat
  physicalMode : ∃ mode, c.physicalModes.rows[line.physicalMode.toNat]? = some mode ∧
    c.pool.text? mode.id = some (toString route.type.code)
  /-- For a number of the feed that is the code of its kind of vehicle. -/
  numbered : ∀ number, route.type = .ofCode number →
    Feed.RouteType.IsCodeOf number route.type.code

/-- The operators, modes, lines and routes of a container are those of a feed. -/
structure CarriesLines (feed : Feed) (c : Container) : Prop where
  /-- The operators are the agencies. -/
  operators : List.Forall₂ (OperatorOf c.pool) feed.agencies c.operators.rows.toList
  /-- The physical modes are the codes of the routes, each once, in the order they first
  appear. -/
  physicalModes : List.Forall₂ (fun code mode => ModeOf feed.routes c.pool code mode.id mode.name)
    (codesOf feed.routes) c.physicalModes.rows.toList
  /-- The commercial modes are the same. -/
  commercialModes :
    List.Forall₂ (fun code mode => ModeOf feed.routes c.pool code mode.id mode.name)
      (codesOf feed.routes) c.commercialModes.rows.toList
  /-- Each route of the feed is a line. -/
  lines : List.Forall₂ (LineOf feed c) feed.routes c.lines.rows.toList
  /-- Each line has a route, in the same row. -/
  routes : c.routes.rows.toList.map (·.line.toNat) = List.range feed.routes.length
  /-- A journey pattern has the mode of the line that its route is on. -/
  patterns : ∀ p ∈ c.journeyPatterns.rows, ∃ route line,
    c.routes.rows[p.route.toNat]? = some route ∧ c.lines.rows[route.line.toNat]? = some line ∧
      p.commercialMode = line.physicalMode

/-! ## Modes -/

/-- A mode is that of the first route with its code. -/
theorem exists_first_of_mem_modesOf {routes : List Feed.Route} {mode : Mode}
    (mem : mode ∈ modesOf routes) :
    ∃ route, IsFirst routes mode.code route ∧ Mode.of route.type = mode := by
  induction routes using List.reverseRecOn with
  | nil => cases mem
  | append_singleton routes last ih =>
    have old (mem : mode ∈ modesOf routes) :
        ∃ route, IsFirst (routes ++ [last]) mode.code route ∧ Mode.of route.type = mode := by
      obtain ⟨route, first, same⟩ := ih mem
      exact ⟨route, by rw [IsFirst, List.find?_append, first, Option.some_or], same⟩
    rw [modesOf_concat] at mem
    split at mem
    · exact old mem
    · rename_i new
      rcases List.mem_append.1 mem with mem | mem
      · exact old mem
      · obtain rfl := List.mem_singleton.1 mem
        refine ⟨last, ?_, rfl⟩
        rw [Mode.code_of] at new ⊢
        rw [IsFirst, List.find?_append, List.find?_eq_none.2, Option.none_or,
          List.find?_singleton, if_pos BEq.rfl]
        intro route mem same
        rw [← eq_of_beq same, ← Mode.code_of] at new
        exact new (any_modesOf mem)

/-- The modes of the routes are in rows, with their codes and names. -/
theorem forall₂_modeOf {routes : List Feed.Route} {pool : Pool} {α : Type} {rows : List α}
    {id name : α → UInt32}
    (shown : List.Forall₂ (fun (mode : Mode) row =>
      pool.Reads (id row) (toString mode.code) ∧ pool.Reads (name row) mode.name)
      (modesOf routes) rows) :
    List.Forall₂ (fun code row => ModeOf routes pool code (id row) (name row)) (codesOf routes)
      rows := by
  rw [← map_code_modesOf, List.forall₂_map_left_iff]
  refine List.forall₂_iff_zip.2 ⟨shown.length_eq, fun {mode row} mem => ?_⟩
  obtain ⟨readsId, readsName⟩ := List.forall₂_zip shown mem
  obtain ⟨route, first, same⟩ := exists_first_of_mem_modesOf (List.of_mem_zip mem).1
  rw [← same, Mode.name_of] at readsName
  exact ⟨readsId.toString, route, first, readsName⟩

/-- The row of a route's mode is that of its code, if eight bits count the modes. -/
theorem getElem?_modeRow {routes : List Feed.Route} {route : Feed.Route} (mem : route ∈ routes)
    (short : (modesOf routes).length < UInt8.size) :
    (codesOf routes)[(modeRow (modesOf routes) route).toNat]? =
      some route.type.code := by
  have inside : (modesOf routes).findIdx (·.code == (Mode.of route.type).code) <
      (modesOf routes).length :=
    List.findIdx_lt_length_of_exists (List.any_eq_true.1 (any_modesOf mem))
  rw [modeRow, UInt8.toNat_ofNat_of_lt' (inside.trans short), ← map_code_modesOf,
    List.getElem?_map, List.getElem?_eq_getElem inside, Option.map_some, ← Mode.code_of,
    Option.some.injEq]
  exact eq_of_beq (List.findIdx_getElem (w := inside))

/-! ## Lines -/

/-- The line that was given is in a record. -/
def ShowsLine (pool : Pool) : Line.Draft → Line → Prop := Entity.Shows pool .line

theorem operatorRow?_eq_some {route : Feed.Route} {row : Nat} :
    operatorRow? (operatorLookup feed.agencies) feed.agencies.length route = some row ↔
      IsOperatorOf feed route row := by
  unfold operatorRow? IsOperatorOf
  cases route.agencyId with
  | some id => exact Lookup.getElem?_ofIds_map
  | none => simp [eq_comm]

/-- A line has the operator and the mode of its route, if eight bits count the agencies and the
modes. -/
theorem lineOf_of_shows {route : Feed.Route} {draft : Line.Draft} {line : Line}
    (mem : route ∈ feed.routes)
    (made : lineDraft? (operatorLookup feed.agencies) feed.agencies.length (modesOf feed.routes)
      route = .ok draft)
    (shown : ShowsLine c.pool draft line) (agencies : feed.agencies.length < UInt8.size)
    (short : (modesOf feed.routes).length < UInt8.size)
    (modes : List.Forall₂ (fun code mode => ModeOf feed.routes c.pool code mode.id mode.name)
      (codesOf feed.routes) c.physicalModes.rows.toList) :
    LineOf feed c route line := by
  obtain ⟨id, code, name, physicalMode, row, found, operator⟩ := lineDraft?_eq_ok made
  obtain ⟨sameOperator, sameMode, readsId, readsCode, readsName, -⟩ := shown
  refine ⟨id ▸ readsId, code ▸ readsCode, name ▸ readsName, ?operator, ?mode, ?numbered⟩
  case operator =>
    rw [sameOperator, operator,
      UInt8.toNat_ofNat_of_lt' ((operatorRow?_lt found).trans agencies)]
    exact operatorRow?_eq_some.1 found
  case mode =>
    rw [sameMode, physicalMode]
    obtain ⟨mode, at_, modeOf⟩ := exists_right_of_forall₂ modes (getElem?_modeRow mem short)
    rw [Array.getElem?_toList] at at_
    exact ⟨mode, at_, modeOf.id⟩
  case numbered =>
    intro number read
    rw [read]
    exact Feed.RouteType.isCodeOf_ofCode number

/-! ## Imported containers -/

section

variable {days : ServiceDays} {timeOffset : Int8} {modes : Array UInt8} {l : Ledger}
  (same : Matches c l) (account : Account feed days timeOffset modes l)

include same account

theorem operators_of_account :
    List.Forall₂ (OperatorOf c.pool) feed.agencies c.operators.rows.toList := by
  have shown : List.Forall₂ (fun (d : Operator.Draft) (r : Operator) => c.pool.Reads r.id d.id ∧
      c.pool.Reads r.url d.url ∧ c.pool.Reads r.name d.name) l.operators c.operators.rows.toList :=
    same.shows operator
  rw [account.operators, List.forall₂_map_left_iff] at shown
  exact shown.imp fun _ _ ⟨id, url, name⟩ => ⟨id, url, name⟩

theorem physicalModes_of_account :
    List.Forall₂ (fun code mode => ModeOf feed.routes c.pool code mode.id mode.name)
      (codesOf feed.routes) c.physicalModes.rows.toList := by
  have shown : List.Forall₂ (fun (d : PhysicalMode.Draft) (r : PhysicalMode) =>
      c.pool.Reads r.id d.id ∧ c.pool.Reads r.name d.name) l.physicalModes
        c.physicalModes.rows.toList :=
    same.shows physicalMode
  rw [account.physicalModes, List.forall₂_map_left_iff] at shown
  exact forall₂_modeOf shown

theorem commercialModes_of_account :
    List.Forall₂ (fun code mode => ModeOf feed.routes c.pool code mode.id mode.name)
      (codesOf feed.routes) c.commercialModes.rows.toList := by
  have shown : List.Forall₂ (fun (d : CommercialMode.Draft) (r : CommercialMode) =>
      c.pool.Reads r.id d.id ∧ c.pool.Reads r.name d.name) l.commercialModes
        c.commercialModes.rows.toList :=
    same.shows commercialMode
  rw [account.commercialModes, List.forall₂_map_left_iff] at shown
  exact forall₂_modeOf shown

theorem lines_of_account (fits : Fits c) :
    List.Forall₂ (LineOf feed c) feed.routes c.lines.rows.toList := by
  have shown : List.Forall₂ (ShowsLine c.pool) l.lines c.lines.rows.toList :=
    same.shows line
  have physical := physicalModes_of_account same account
  have agencies : feed.agencies.length < UInt8.size := by
    rw [(operators_of_account same account).length_eq]
    exact Nat.lt_succ_of_le (fits.tables operator)
  have short : (modesOf feed.routes).length < UInt8.size := by
    rw [← List.length_map (·.code), map_code_modesOf, physical.length_eq]
    exact Nat.lt_succ_of_le (fits.tables physicalMode)
  have both := forall₂_comp (mapM_eq_ok_iff.1 account.lineRows) shown
  refine List.forall₂_iff_zip.2 ⟨both.length_eq, fun {route line} mem => ?_⟩
  obtain ⟨draft, made, shown⟩ := List.forall₂_zip both mem
  exact lineOf_of_shows (List.of_mem_zip mem).1 made shown agencies short physical

theorem routes_of_account : c.routes.rows.toList =
    (List.range feed.routes.length).map fun line => Route.mk (UInt16.ofNat line) := by
  rw [← account.routes]
  exact (eq_of_forall₂ (same.shows route)).symm

/-- The mode of a line is found for its journey patterns. -/
theorem getElem?_lineModes {row : Nat} (inside : row < feed.routes.length) :
    ∃ line, c.lines.rows[row]? = some line ∧ modes[row]? = some line.physicalMode := by
  have drafts : l.lines.length = feed.routes.length := by
    simpa using congrArg List.length account.lines
  have shown : List.Forall₂ (ShowsLine c.pool) l.lines c.lines.rows.toList :=
    same.shows line
  have drafted := List.getElem?_eq_getElem (drafts ▸ inside)
  obtain ⟨line, at_, shown⟩ := exists_right_of_forall₂ shown drafted
  rw [Array.getElem?_toList] at at_
  refine ⟨line, at_, ?_⟩
  rw [account.lineModes, List.getElem?_toArray, List.getElem?_map, drafted, Option.map_some,
    shown.2.1]

theorem patterns_of_account (fits : Fits c) {p : JourneyPattern}
    (mem : p ∈ c.journeyPatterns.rows) : ∃ route line,
      c.routes.rows[p.route.toNat]? = some route ∧ c.lines.rows[route.line.toNat]? = some line ∧
        p.commercialMode = line.physicalMode := by
  have laid := laid_of_account same account fits
  have few := (short_of_account same account fits).1
  obtain ⟨i, at_⟩ := Array.mem_iff_getElem?.1 mem
  have inside : i < (piecesOf feed).length := by
    have length := congrArg List.length laid.patterns
    rw [length_patternsOf, Array.length_toList] at length
    exact length ▸ (Array.getElem?_eq_some_iff.1 at_).1
  obtain ⟨front, ⟨key, trips⟩, rest, split, rfl⟩ := exists_split inside
  have piece : (key, trips) ∈ piecesOf feed := by simp [split]
  rw [split] at laid
  obtain rfl := Option.some.inj (at_.symm.trans laid.pattern_at)
  -- The key is that of a trip, and names the row of the trip's route.
  obtain ⟨some_, -, keyed⟩ := mem_piecesOf piece
  obtain ⟨t, trip⟩ := List.exists_mem_of_ne_nil _ some_
  obtain ⟨-, row, last, rfl⟩ := along_of_mem_keyedTrips (keyed t trip)
  have whole : (UInt16.ofNat row).toNat = row :=
    UInt16.toNat_ofNat_of_lt' (last.lt_length.trans few)
  obtain ⟨line, found, mode⟩ := getElem?_lineModes same account last.lt_length
  refine ⟨⟨UInt16.ofNat row⟩, line, ?_, ?_, ?_⟩
  · show c.routes.rows[(UInt16.ofNat row).toNat]? = _
    rw [whole, ← Array.getElem?_toList, routes_of_account same account, List.getElem?_map,
      List.getElem?_range last.lt_length]
    rfl
  · show c.lines.rows[(UInt16.ofNat row).toNat]? = _
    rw [whole, found]
  · show modes[(UInt16.ofNat row).toNat]?.getD 0 = _
    rw [whole, mode]
    rfl

end

/-- The container of an import that succeeds has the operators, modes, lines and routes of its
feed, and its journey patterns have the modes of their lines. -/
theorem carriesLines_of_run {imported : Imported} (h : run feed options = .ok imported) :
    CarriesLines feed imported.container := by
  obtain ⟨timeOffset, start, modes, l, -, -, same, account, fits⟩ := account_of_run h
  refine ⟨operators_of_account same account, physicalModes_of_account same account,
    commercialModes_of_account same account, lines_of_account same account fits, ?routes,
    fun _ mem => patterns_of_account same account fits mem⟩
  case routes =>
    have few := (short_of_account same account fits).1
    rw [routes_of_account same account, List.map_map]
    refine (List.map_congr_left fun row mem => ?_).trans (List.map_id _)
    exact UInt16.toNat_ofNat_of_lt' ((List.mem_range.1 mem).trans few)

/-- A feed with two agencies of one identifier, and with two routes of one code. -/
def sharedNames : Feed where
  __ := oneTrip
  agencies := [⟨some "A", "Agency", "a.org", "UTC"⟩, ⟨some "A", "Other agency", "b.org", "UTC"⟩]
  routes := [⟨"Q", some "A", some "M1", none, .ofCode 401, ⟨255, 255, 255⟩, ⟨0, 0, 0⟩⟩,
    ⟨"R", some "A", some "1", none, .ofCode 3, ⟨255, 255, 255⟩, ⟨0, 0, 0⟩⟩,
    ⟨"P", some "A", none, some "Night", .ofCode 704, ⟨255, 255, 255⟩, ⟨0, 0, 0⟩⟩,
    ⟨"T", some "A", none, some "Taxi", .ofCode 1501, ⟨255, 255, 255⟩, ⟨0, 0, 0⟩⟩,
    ⟨"U", some "A", some "U", none, .ofCode 1700, ⟨255, 255, 255⟩, ⟨0, 0, 0⟩⟩]

theorem lineRows_sharedNames : LineRows sharedNames
    [⟨"Q", "M1", "", "FFFFFF", "000000", 1, 0⟩, ⟨"R", "1", "", "FFFFFF", "000000", 1, 1⟩,
      ⟨"P", "", "Night", "FFFFFF", "000000", 1, 1⟩, ⟨"T", "", "Taxi", "FFFFFF", "000000", 1, 2⟩,
      ⟨"U", "U", "", "FFFFFF", "000000", 1, 3⟩] := by
  have operator : (operatorLookup sharedNames.agencies)["A"]? = some 1 := by
    show (((∅ : Lookup).insert "A" 0).insert "A" 1)["A"]? = some 1
    rw [Std.HashMap.getElem?_insert_self]
  have each (route : Feed.Route) (agency : route.agencyId = some "A") :
      lineDraft? (operatorLookup sharedNames.agencies) sharedNames.agencies.length
        (modesOf sharedNames.routes) route =
          .ok ⟨route.id, route.shortName.getD "", route.longName.getD "", colorText route.color,
            colorText route.textColor, 1, modeRow (modesOf sharedNames.routes) route⟩ := by
    simp only [lineDraft?, operatorRow?, agency, operator]
    rfl
  rw [LineRows, mapM_eq_ok_iff]
  refine .cons ?_ (.cons ?_ (.cons ?_ (.cons ?_ (.cons ?_ .nil))))
  all_goals
    rw [each _ rfl, Except.ok.injEq]
    decide +kernel

theorem keyedTrips_sharedNames :
    keyedTrips sharedNames = [(.of 1 oneTripFollowed, oneTripFollowed)] := by
  have followed : sharedNames.trips.filterMap
      (follow? (stopTimesByTrip sharedNames.stopTimes) (stopLookup sharedNames)) =
        [oneTripFollowed] :=
    followed_oneTrip
  have line : (lineLookup sharedNames.routes)["R"]? = some 1 := by
    show ((((((∅ : Lookup).insert "Q" 0).insert "R" 1).insert "P" 2).insert "T" 3).insert
      "U" 4)["R"]? = some 1
    rw [Std.HashMap.getElem?_insert, Std.HashMap.getElem?_insert, Std.HashMap.getElem?_insert,
      Std.HashMap.getElem?_insert_self]
    rfl
  rw [keyedTrips, followed]
  show List.filterMap _ [_] = _
  rw [List.filterMap_cons, show oneTripFollowed.trip.routeId = "R" from rfl, line]
  rfl

theorem run_sharedNames : ∃ imported, run sharedNames chosenDay = .ok imported ∧
    imported.container.vehicleJourneys.size = 1 := by
  apply exists_run_of_size
  have trips := keyedTrips_sharedNames
  have lines := lineRows_sharedNames
  rw [keyedTrips] at trips
  rw [LineRows] at lines
  simp only [run, addFeed, addLines, addTrips, trips, lines, group_singleton]
  decide +kernel

/-- The modes are the subway, the bus, the taxi and a kind of its own.  The lines of the second
and the third route share one, which the vehicle journey has, and all lines belong to the second
agency. -/
theorem carriesLines_sharedNames : ∃ imported, run sharedNames chosenDay = .ok imported ∧
    imported.container.vehicleJourneys.size = 1 ∧ codesOf sharedNames.routes = [1, 3, 1500, 1700] ∧
      CarriesLines sharedNames imported.container := by
  obtain ⟨imported, made, size⟩ := run_sharedNames
  exact ⟨imported, made, size, by decide, carriesLines_of_run made⟩

end Import

end TransitStore
