import Mathlib
import TransitStore.Container.Basic
import TransitStore.Proofs.Table.Words

/-!
# The tables of a container

A container has a table for each `Entity`.  What holds of all thirteen tables is
said of the table of an entity, and the case split on the entity is made once
for each law: a table that is put in a container is the one it has then, and
everything else in the container stays (`table_put_of_ne` and its neighbours).
-/

namespace TransitStore

/-- What a container has tables of. -/
inductive Entity where
  | stopArea
  | stopPoint
  | transfer
  | operator
  | physicalMode
  | commercialMode
  | line
  | route
  | journeyPatternPoint
  | journeyPattern
  | stopTime
  | vehicleJourney
  | vehicleTransfer
deriving DecidableEq, Repr

namespace Entity

/-- The records of a table. -/
def Row : Entity → Type
  | stopArea => StopArea
  | stopPoint => StopPoint
  | transfer => Transfer
  | operator => Operator
  | physicalMode => PhysicalMode
  | commercialMode => CommercialMode
  | line => Line
  | route => Route
  | journeyPatternPoint => JourneyPatternPoint
  | journeyPattern => JourneyPattern
  | stopTime => StopTime
  | vehicleJourney => VehicleJourney
  | vehicleTransfer => JourneyRef

/-- The rows that are added to a table. -/
def NewRow : Entity → Type
  | stopArea => StopArea.Draft
  | stopPoint => StopPoint.Draft
  | transfer => Transfer
  | operator => Operator.Draft
  | physicalMode => PhysicalMode.Draft
  | commercialMode => CommercialMode.Draft
  | line => Line.Draft
  | route => Route
  | journeyPatternPoint => JourneyPatternPoint.Draft
  | journeyPattern => JourneyPattern
  | stopTime => StopTime
  | vehicleJourney => VehicleJourney.Draft
  | vehicleTransfer => JourneyRef

instance (e : Entity) : Stored e.Row :=
  match e with
  | stopArea => inferInstanceAs (Stored StopArea)
  | stopPoint => inferInstanceAs (Stored StopPoint)
  | transfer => inferInstanceAs (Stored Transfer)
  | operator => inferInstanceAs (Stored Operator)
  | physicalMode => inferInstanceAs (Stored PhysicalMode)
  | commercialMode => inferInstanceAs (Stored CommercialMode)
  | line => inferInstanceAs (Stored Line)
  | route => inferInstanceAs (Stored Route)
  | journeyPatternPoint => inferInstanceAs (Stored JourneyPatternPoint)
  | journeyPattern => inferInstanceAs (Stored JourneyPattern)
  | stopTime => inferInstanceAs (Stored StopTime)
  | vehicleJourney => inferInstanceAs (Stored VehicleJourney)
  | vehicleTransfer => inferInstanceAs (Stored JourneyRef)

instance (e : Entity) : Draft e.NewRow e.Row :=
  match e with
  | stopArea => inferInstanceAs (Draft StopArea.Draft StopArea)
  | stopPoint => inferInstanceAs (Draft StopPoint.Draft StopPoint)
  | transfer => inferInstanceAs (Draft Transfer Transfer)
  | operator => inferInstanceAs (Draft Operator.Draft Operator)
  | physicalMode => inferInstanceAs (Draft PhysicalMode.Draft PhysicalMode)
  | commercialMode => inferInstanceAs (Draft CommercialMode.Draft CommercialMode)
  | line => inferInstanceAs (Draft Line.Draft Line)
  | route => inferInstanceAs (Draft Route Route)
  | journeyPatternPoint => inferInstanceAs (Draft JourneyPatternPoint.Draft JourneyPatternPoint)
  | journeyPattern => inferInstanceAs (Draft JourneyPattern JourneyPattern)
  | stopTime => inferInstanceAs (Draft StopTime StopTime)
  | vehicleJourney => inferInstanceAs (Draft VehicleJourney.Draft VehicleJourney)
  | vehicleTransfer => inferInstanceAs (Draft JourneyRef JourneyRef)

instance (e : Entity) : LawfulRecord e.Row :=
  match e with
  | stopArea => inferInstanceAs (LawfulRecord StopArea)
  | stopPoint => inferInstanceAs (LawfulRecord StopPoint)
  | transfer => inferInstanceAs (LawfulRecord Transfer)
  | operator => inferInstanceAs (LawfulRecord Operator)
  | physicalMode => inferInstanceAs (LawfulRecord PhysicalMode)
  | commercialMode => inferInstanceAs (LawfulRecord CommercialMode)
  | line => inferInstanceAs (LawfulRecord Line)
  | route => inferInstanceAs (LawfulRecord Route)
  | journeyPatternPoint => inferInstanceAs (LawfulRecord JourneyPatternPoint)
  | journeyPattern => inferInstanceAs (LawfulRecord JourneyPattern)
  | stopTime => inferInstanceAs (LawfulRecord StopTime)
  | vehicleJourney => inferInstanceAs (LawfulRecord VehicleJourney)
  | vehicleTransfer => inferInstanceAs (LawfulRecord JourneyRef)

/-- All entities, in the order of a snapshot. -/
def all : List Entity :=
  [stopArea, stopPoint, transfer, operator, physicalMode, commercialMode, line, route,
    journeyPatternPoint, journeyPattern, stopTime, vehicleJourney, vehicleTransfer]

/-- The most rows of a table. -/
def maxRows (e : Entity) : Nat := Table.maxRows e.Row

/-- The table of a container. -/
def table (e : Entity) (c : Container) : Table e.Row := Stored.table c

/-- Puts a table in a container. -/
def put (e : Entity) (c : Container) (t : Table e.Row) : Container := Stored.setTable c t

/-- The records of a container's table. -/
def rows (e : Entity) (c : Container) : Array e.Row := (e.table c).rows

@[simp] theorem rows_new (e : Entity) : e.rows {} = #[] := by
  cases e <;> rfl

variable (e : Entity) (c : Container) (t : Table e.Row)

@[simp] theorem table_put : e.table (e.put c t) = t := by
  cases e <;> rfl

theorem table_put_of_ne {e other : Entity} (ne : other ≠ e) (c : Container) (t : Table e.Row) :
    other.table (e.put c t) = other.table c := by
  cases e <;> cases other <;> first | rfl | exact absurd rfl ne

@[simp] theorem put_pool : (e.put c t).pool = c.pool := by
  cases e <;> rfl

@[simp] theorem put_backing : (e.put c t).backing = c.backing := by
  cases e <;> rfl

@[simp] theorem put_metadata : (e.put c t).metadata = c.metadata := by
  cases e <;> rfl

@[simp] theorem put_stopIndex : (e.put c t).stopIndex = c.stopIndex := by
  cases e <;> rfl

theorem put_table : e.put c (e.table c) = c := by
  cases e <;> rfl

@[simp] theorem table_withPool (pool : Pool) : e.table { c with pool } = e.table c := by
  cases e <;> rfl

@[simp] theorem table_withStopIndex (stopIndex : StopIndex) :
    e.table { c with stopIndex } = e.table c := by
  cases e <;> rfl

end Entity

end TransitStore
