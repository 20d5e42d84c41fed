import TransitStore.Feed.Fault
import TransitStore.Text.Quoted

/-!
# Failures

Each way an operation can fail is a constructor, and `Error.message` gives its
wording.  Three kinds have causes of their own: a snapshot that is not one
(`Malformation`), a reference that leads nowhere (`BrokenReference`) and a feed
that cannot be read (`FeedFault`).
-/

namespace TransitStore

/-- A stored number that should lead to something and does not. -/
inductive BrokenReference where
  /-- A text offset past the end of the string pool. -/
  | text (what : String) (row offset poolSize : Nat)
  /-- A row number past the end of its table. -/
  | rowNumber (what : String) (row : Nat) (target : String) (number count : Nat)
  /-- A stop point whose transfers start before its predecessor's. -/
  | transferOrder (stop : Nat)
  /-- A last stop point whose transfers start past the end of their table. -/
  | transferEnd (start count : Nat)
  /-- A pattern with points past the end of their table. -/
  | pointRun (pattern : Nat)
  /-- A pattern with vehicle journeys past the end of their table. -/
  | vehicleJourneyRun (pattern : Nat)
  /-- A vehicle journey with stop times past the end of their table. -/
  | stopTimeRun (vehicleJourney : Nat)
  /-- A vehicle journey with transfers past the end of their table. -/
  | transferRun (vehicleJourney : Nat)
  /-- A transfer to a vehicle journey that its pattern does not have. -/
  | vehicleTransfer (row offset pattern : Nat)
  /-- A stop index with offsets for another number of stop points. -/
  | indexSize (offsets stops : Nat)
  /-- A stop index whose offsets descend or do not end at its last entry. -/
  | indexOrder
  /-- A pattern with points past the end of the indexed ones. -/
  | indexedRun (pattern points : Nat)
  /-- A pattern that visits a stop past the end of the indexed ones. -/
  | indexedStop (pattern stop stops : Nat)
  /-- A pattern whose times cannot be summed up. -/
  | summedRun (pattern : Nat)
  /-- A route of an agency that the feed does not have. -/
  | agency (route : String)
  /-- A distance to universal time that a vehicle journey cannot hold. -/
  | utcOffset (seconds : Int)
  /-- A feed without any date to start its calendar at. -/
  | noCalendar
deriving DecidableEq, Repr

/-- The wording of a broken reference. -/
def BrokenReference.message : BrokenReference → String
  | .text what row offset poolSize =>
    s!"{what} row {row} points at byte {offset} of a {poolSize} byte string pool"
  | .rowNumber what row target number count =>
    s!"{what} row {row} refers to {target} {number} of {count}"
  | .transferOrder stop =>
    s!"transfers of stop point {stop + 1} start before those of stop point {stop}"
  | .transferEnd start count => s!"transfers of the last stop point start at {start} of {count}"
  | .pointRun pattern => s!"journey pattern {pattern} points run past the point table"
  | .vehicleJourneyRun pattern =>
    s!"journey pattern {pattern} vehicle journeys run past the vehicle journey table"
  | .stopTimeRun vehicleJourney =>
    s!"vehicle journey {vehicleJourney} stop times run past the stop time table"
  | .transferRun vehicleJourney =>
    s!"vehicle journey {vehicleJourney} transfers run past the vehicle transfer table"
  | .vehicleTransfer row offset pattern =>
    s!"vehicle transfer {row} refers to vehicle journey {offset} of journey pattern {pattern}"
  | .indexSize offsets stops =>
    s!"journey patterns at stop has {offsets} offsets for {stops} stop points"
  | .indexOrder => "journey patterns at stop offsets are not monotonic"
  | .indexedRun pattern points =>
    s!"journey pattern {pattern} points outside the {points} journey pattern points"
  | .indexedStop pattern stop stops =>
    s!"journey pattern {pattern} visits stop {stop} but there are only {stops} stops"
  | .summedRun pattern => s!"journey pattern {pattern} has vehicle journeys outside the tables"
  | .agency route => s!"route {route} refers to an unknown agency"
  | .utcOffset seconds => s!"UTC offset of {seconds}s is out of range"
  | .noCalendar => "the feed has no calendar and no calendar dates"

/-- A file that is not a snapshot. -/
inductive Malformation where
  /-- A file too short for the header. -/
  | tooShort (path : String) (size headerSize : Nat)
  /-- A file with another beginning. -/
  | wrongMagic (path magic : String)
  /-- A column whose end is not a number of 64 bits. -/
  | columnOverflow (column : String)
  /-- A column that does not lie inside the file. -/
  | columnSpan (column : String) (start stop fileSize : Nat)
  /-- A column at an offset its elements cannot be read at. -/
  | misaligned (column : String) (offset : Nat) (element : String)
  /-- A string pool too long for its offsets. -/
  | poolSize (size : Nat)
  /-- A table with columns of different lengths. -/
  | unequalColumns (table : String) (lengths : List Nat)
  /-- A table longer than its row numbers reach. -/
  | tooManyRows (table : String) (rows : Nat)
  /-- A snapshot that refers to something it does not hold. -/
  | reference (broken : BrokenReference)
deriving DecidableEq, Repr

/-- The wording of an invalid reference. -/
def invalidReferenceMessage (broken : BrokenReference) : String :=
  "Invalid reference: " ++ broken.message

/-- The wording of a malformation. -/
def Malformation.message : Malformation → String
  | .tooShort path size headerSize =>
    s!"{Text.quoted path} has {size} bytes, smaller than the {headerSize} byte header"
  | .wrongMagic path magic => s!"{Text.quoted path} does not start with {Text.quoted magic}"
  | .columnOverflow column => s!"column {column} size overflows"
  | .columnSpan column start stop fileSize =>
    s!"column {column} spans bytes {start}..{stop} but the file has {fileSize} bytes"
  | .misaligned column offset element =>
    s!"column {column} at offset {offset} is misaligned for {element}"
  | .poolSize size => s!"string pool of {size} bytes exceeds the offset range"
  | .unequalColumns table lengths =>
    let lengths := ", ".intercalate (lengths.map toString)
    s!"{table} columns have unequal lengths [{lengths}]"
  | .tooManyRows table rows => s!"{table} has {rows} rows, more than its index type allows"
  | .reference broken => invalidReferenceMessage broken

/-- The ways an operation fails. -/
inductive Error where
  /-- There is no room to grow. -/
  | outOfMemory (what : String)
  /-- The thing to change belongs to a snapshot. -/
  | denied (what : String)
  /-- A table would get more rows than its row numbers reach. -/
  | indexOverflow (table : String) (max requested : Nat)
  /-- A file is not a snapshot. -/
  | malformed (reason : Malformation)
  /-- There is no such file. -/
  | notFound (path : String)
  /-- A file cannot be read or written. -/
  | io (path : String) (fault : FileFault)
  /-- A reference leads nowhere. -/
  | invalidReference (broken : BrokenReference)
  /-- A feed cannot be read. -/
  | feed (fault : FeedFault)
deriving DecidableEq, Repr

namespace Error

/-- The failure of an access to a file. -/
def ofFile (path : String) : FileFault → Error
  | .missing => .notFound path
  | fault => .io path fault

/-- The wording of a failure. -/
def message : Error → String
  | outOfMemory what => s!"Out of memory while growing {what}"
  | denied what => s!"Write denied: {what} is backed by a memory-mapped snapshot"
  | indexOverflow table max requested =>
    s!"Index overflow: {table} holds at most {max} rows, {requested} requested"
  | malformed reason => "Malformed timetable snapshot: " ++ reason.message
  | notFound path => "File not found: " ++ path
  | io path fault => s!"I/O error on {path}: {fault.message}"
  | invalidReference broken => invalidReferenceMessage broken
  | feed fault => "GTFS error: " ++ fault.message

/-- The wordings of what lies behind a failure, nearest first. -/
def causes : Error → List String
  | io _ fault => [fault.message]
  | feed fault => fault.message :: fault.causes
  | _ => []

end Error

end TransitStore
