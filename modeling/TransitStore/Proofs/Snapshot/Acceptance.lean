import Mathlib
import TransitStore.Proofs.Snapshot.Loading

/-!
# What the loader accepts

An image is decoded as a container exactly if it shows it (`decode_eq_ok`): the
columns of the container stand in the image, and its numbers are those of the
header.  From this the loader accepts exactly the images that are snapshots, and
each element of the container it gives is the word that stands in the image at the
element's place (`openImage_accepts`).
-/

namespace TransitStore.Snapshot

variable {path : String} {image : ByteArray} {c : Container}

/-! ## Decoding -/

/-- The columns of a container stand in an image if those of its parts do. -/
theorem columnsAt_columns : ColumnsAt image 0 (columns c) ↔
    ColumnsAt image 0 [poolColumn c.pool] ∧
      (∀ e : Entity, ColumnsAt image e.firstColumn (tableColumns (e.table c))) ∧
        ColumnsAt image 53 (indexColumns c.stopIndex) := by
  have length : (Entity.all.flatMap fun e => tableColumns (e.table c)).length = 52 := by
    rw [List.length_flatMap]
    simp only [length_tableColumns]
    rfl
  have tables : ColumnsAt image 1 (Entity.all.flatMap fun e => tableColumns (e.table c)) ↔
      ∀ e : Entity, ColumnsAt image e.firstColumn (tableColumns (e.table c)) := by
    simp only [Entity.all, List.flatMap_cons, List.flatMap_nil, List.append_nil, columnsAt_append,
      length_tableColumns]
    constructor
    · rintro ⟨h0, h1, h2, h3, h4, h5, h6, h7, h8, h9, h10, h11, h12⟩ e
      cases e
      exacts [h0, h1, h2, h3, h4, h5, h6, h7, h8, h9, h10, h11, h12]
    · intro h
      exact ⟨h .stopArea, h .stopPoint, h .transfer, h .operator, h .physicalMode,
        h .commercialMode, h .line, h .route, h .journeyPatternPoint, h .journeyPattern,
        h .stopTime, h .vehicleJourney, h .vehicleTransfer⟩
  rw [columns_eq, ← List.singleton_append, List.append_assoc, columnsAt_append, columnsAt_append,
    List.length_singleton, tables, length]

/-- All columns are read as the container that the image shows. -/
theorem readContainer_eq_ok : (∃ n, readContainer path image 0 = .ok (c, n)) ↔
    c.backing = .mapped path image.size ∧ c.metadata = readMetadata image ∧
      PoolAt image 0 c.pool ∧ (∀ e : Entity, TableAt image e.firstColumn (e.table c)) ∧
        StopIndexAt image 53 c.stopIndex := by
  simp only [readContainer, bind_nextPool_eq_ok, bind_nextTable_eq_ok, bind_nextStopIndex_eq_ok,
    Reading.pure_eq_ok]
  constructor
  · rintro ⟨n, pool, poolAt, t0, h0, t1, h1, t2, h2, t3, h3, t4, h4, t5, h5, t6, h6, t7, h7,
      t8, h8, t9, h9, t10, h10, t11, h11, t12, h12, index, indexAt, rfl, -⟩
    refine ⟨rfl, rfl, poolAt, ?_, indexAt⟩
    intro e
    cases e
    exacts [h0, h1, h2, h3, h4, h5, h6, h7, h8, h9, h10, h11, h12]
  · rintro ⟨backing, metadata, poolAt, tablesAt, indexAt⟩
    refine ⟨_, c.pool, poolAt, c.stopAreas, tablesAt .stopArea, c.stopPoints,
      tablesAt .stopPoint, c.transfers, tablesAt .transfer, c.operators, tablesAt .operator,
      c.physicalModes, tablesAt .physicalMode, c.commercialModes, tablesAt .commercialMode,
      c.lines, tablesAt .line, c.routes, tablesAt .route, c.journeyPatternPoints,
      tablesAt .journeyPatternPoint, c.journeyPatterns, tablesAt .journeyPattern, c.stopTimes,
      tablesAt .stopTime, c.vehicleJourneys, tablesAt .vehicleJourney, c.vehicleTransfers,
      tablesAt .vehicleTransfer, c.stopIndex, indexAt, ?_, rfl⟩
    rw [← backing, ← metadata]

/-- An image shows a container that belongs to the file it is read from. -/
structure Shows (path : String) (image : ByteArray) (c : Container) : Prop where
  /-- The image has a header. -/
  header : headerSize ≤ image.size
  /-- The header starts as it should. -/
  magic : bytesAt image 0 magic.utf8ByteSize = magic.toUTF8.data.toList
  /-- The container belongs to the file. -/
  backing : c.backing = .mapped path image.size
  /-- Its numbers are those of the header. -/
  metadata : c.metadata = readMetadata image
  /-- Its pool is the first column. -/
  pool : PoolAt image 0 c.pool
  /-- Its tables are the columns behind. -/
  tables : ∀ e : Entity, TableAt image e.firstColumn (e.table c)
  /-- Its stop index is the last columns. -/
  stopIndex : StopIndexAt image 53 c.stopIndex

theorem extract_eq_iff {size : Nat} {bytes : Array UInt8} :
    (image.extract 0 size).data = bytes ↔ bytesAt image 0 size = bytes.toList := by
  rw [← Array.toList_inj, ByteArray.data_extract, Array.toList_extract, List.extract_eq_take_drop]
  rfl

/-- An image is decoded as the container that it shows. -/
theorem decode_eq_ok : decode path image = .ok c ↔ Shows path image c := by
  have run : (·.1) <$> (readContainer path image).run 0 = .ok c ↔
      ∃ n, readContainer path image 0 = .ok (c, n) := by
    show (readContainer path image 0).map (·.1) = .ok c ↔ _
    cases readContainer path image 0 with
    | error e => simp [Except.map]
    | ok p => simp [Except.map, Prod.ext_iff]
  rw [decode]
  split
  · rename_i short
    exact ⟨nofun, fun shows => absurd shows.header (Nat.not_le.2 short)⟩
  · rename_i long
    split
    · rename_i other
      exact ⟨nofun, fun shows => absurd (extract_eq_iff.2 shows.magic) other⟩
    · rename_i same
      rw [run, readContainer_eq_ok]
      constructor
      · rintro ⟨backing, metadata, pool, tables, stopIndex⟩
        exact ⟨Nat.not_lt.1 long, extract_eq_iff.1 (not_not.1 same), backing, metadata, pool,
          tables, stopIndex⟩
      · intro shows
        exact ⟨shows.backing, shows.metadata, shows.pool, shows.tables, shows.stopIndex⟩

theorem Shows.columnsAt (shows : Shows path image c) : ColumnsAt image 0 (columns c) :=
  columnsAt_columns.2
    ⟨shows.pool.columns, fun e => (shows.tables e).columns, shows.stopIndex.columns⟩

/-- Unless the references are to be checked, an image is opened as it is decoded. -/
theorem openImage_false_eq_ok : openImage path false image = .ok c ↔ decode path image = .ok c := by
  unfold openImage
  cases decode path image with
  | error reason => simp
  | ok c' => simp

/-! ## Acceptance -/

/-- The images that are snapshots.  Nothing is said of the lengths of the two columns
of the stop index, which need not be equal. -/
structure IsSnapshot (image : ByteArray) : Prop where
  /-- The image has a header. -/
  header : headerSize ≤ image.size
  /-- The header starts as it should. -/
  magic : bytesAt image 0 magic.utf8ByteSize = magic.toUTF8.data.toList
  /-- Each column lies inside the image. -/
  columns : ∀ k spec, specs[k]? = some spec → ColumnFits image spec.type (descriptorOf image k)
  /-- The pool is not too long. -/
  pool : (descriptorOf image 0).count ≤ Pool.maxSize
  /-- The columns of a table have one length. -/
  equal : ∀ e : Entity, ∀ j < e.columnCount,
    (descriptorOf image (e.firstColumn + j)).count = (descriptorOf image e.firstColumn).count
  /-- No table is too long. -/
  short : ∀ e : Entity, (descriptorOf image e.firstColumn).count ≤ e.maxRows

/-- A container has the elements and the numbers that stand in an image. -/
structure Decodes (image : ByteArray) (c : Container) : Prop where
  /-- The columns are those of every snapshot, and each element is the word at its place. -/
  columns : columns c =
    specs.mapIdx fun k spec => ⟨spec, elements image spec.type (descriptorOf image k)⟩
  /-- The calendar starts as the header says. -/
  calendarStart : c.metadata.calendarStart.toNat = wordOf image 8 8
  /-- The greatest number stands for no time zone. -/
  timezone : c.metadata.timezone.map UInt32.toNat =
    if wordOf image 16 4 = noTimezone then none else some (wordOf image 16 4)
  /-- The distance to universal time has the bytes of the header. -/
  utcOffset : c.metadata.utcOffset.toUInt32.toNat = wordOf image 20 4
  /-- The calendar has as many days as the header says. -/
  days : c.metadata.days.toNat = wordOf image 24 4

theorem readDescriptor_of_header (header : headerSize ≤ image.size) {k : Nat}
    (column : k < columnCount) : readDescriptor image k = descriptorOf image k := by
  apply readDescriptor_eq
  have whole : headerSize = 912 := rfl
  have count : columnCount = 55 := rfl
  simp only [descriptorStart, descriptorSize]
  omega

theorem wordAt_of_header (header : headerSize ≤ image.size) {place size : Nat}
    (inside : place + size ≤ 32) : wordAt image place size = wordOf image place size := by
  apply wordAt_eq
  have whole : headerSize = 912 := rfl
  omega

theorem Shows.column (shows : Shows path image c) {k : Nat} {column : Column}
    (at_ : (columns c)[k]? = some column) :
    ColumnFits image column.type (descriptorOf image k) ∧
      column.words = elements image column.type (descriptorOf image k) := by
  have read := columnsAt_iff.1 shows.columnsAt k column at_
  obtain ⟨inside, -⟩ := List.getElem?_eq_some_iff.1 at_
  rw [Nat.zero_add, readDescriptor_of_header shows.header (by simpa using inside)] at read
  exact readColumn_eq_ok.1 read

theorem Shows.count_table (shows : Shows path image c) (e : Entity) {j : Nat}
    (column : j < e.columnCount) :
    (descriptorOf image (e.firstColumn + j)).count = (e.table c).size := by
  obtain ⟨col, at_⟩ : ∃ col, (tableColumns (e.table c))[j]? = some col :=
    ⟨_, List.getElem?_eq_getElem (by rwa [length_tableColumns])⟩
  have size := congrArg Array.size (shows.column (getElem?_columns at_)).2
  simp only [tableColumns, List.getElem?_map, Option.map_eq_some_iff] at at_
  obtain ⟨f, -, rfl⟩ := at_
  simpa [Table.size, eq_comm] using size

/-- An image that shows a container is a snapshot. -/
theorem Shows.isSnapshot (shows : Shows path image c) : IsSnapshot image where
  header := shows.header
  magic := shows.magic
  columns k spec at_ := by
    rw [← map_toColumnSpec_columns c, List.getElem?_map, Option.map_eq_some_iff] at at_
    obtain ⟨column, at_, rfl⟩ := at_
    exact (shows.column at_).1
  pool := by
    have first : (columns c)[0]? = some (poolColumn c.pool) := rfl
    have size := congrArg Array.size (shows.column first).2
    have short := shows.pool.short
    simp only [poolColumn, Array.size_map, size_elements] at size
    rwa [← size]
  equal e j column := by
    have some_ : 0 < e.columnCount := Nat.zero_lt_of_lt column
    rw [shows.count_table e column, ← shows.count_table e some_, Nat.add_zero]
  short e := by
    have some_ : 0 < e.columnCount := by cases e <;> decide
    have short := (shows.tables e).short
    rwa [← shows.count_table e some_, Nat.add_zero] at short

/-- The words of the columns that stand in an image from a number on. -/
def shownFrom (image : ByteArray) : (number : Nat) → List ColumnSpec → List (Array Nat)
  | _, [] => []
  | number, spec :: specs =>
    elements image spec.type (readDescriptor image number) :: shownFrom image (number + 1) specs

@[simp] theorem length_shownFrom {n : Nat} (specs : List ColumnSpec) :
    (shownFrom image n specs).length = specs.length := by
  induction specs generalizing n with
  | nil => rfl
  | cons spec specs ih => simp [shownFrom, ih]

theorem columnsAt_shownFrom {n : Nat} {specs : List ColumnSpec}
    (fits : ∀ j spec, specs[j]? = some spec →
      ColumnFits image spec.type (readDescriptor image (n + j))) :
    ColumnsAt image n (specs.zipWith Column.mk (shownFrom image n specs)) := by
  induction specs generalizing n with
  | nil => trivial
  | cons spec specs ih =>
    refine ⟨readColumn_eq_ok.2 ⟨fits 0 spec rfl, rfl⟩, ih ?_⟩
    intro j spec' at_
    have next := fits (j + 1) spec' at_
    rwa [← Nat.add_assoc, Nat.add_right_comm] at next

theorem sizes_shownFrom {n count : Nat} {specs : List ColumnSpec}
    (counts : ∀ j < specs.length, (readDescriptor image (n + j)).count = count) :
    ∀ column ∈ shownFrom image n specs, column.size = count := by
  induction specs generalizing n with
  | nil => exact nofun
  | cons spec specs ih =>
    intro column mem
    rcases List.mem_cons.1 mem with rfl | mem
    · rw [size_elements]
      exact counts 0 (Nat.zero_lt_succ _)
    · refine ih ?_ column mem
      intro j inside
      have next := counts (j + 1) (Nat.succ_lt_succ inside)
      rwa [← Nat.add_assoc, Nat.add_right_comm] at next

/-- Columns of one length that fit are the columns of a table. -/
theorem exists_tableAt {ρ : Type} [Record ρ] [LawfulRecord ρ] {n count : Nat}
    (fits : ∀ j spec, (tableSpecs ρ)[j]? = some spec →
      ColumnFits image spec.type (readDescriptor image (n + j)))
    (counts : ∀ j < (tableSpecs ρ).length, (readDescriptor image (n + j)).count = count)
    (short : count ≤ Table.maxRows ρ) : ∃ t : Table ρ, TableAt image n t := by
  have at_ := columnsAt_shownFrom fits
  have fit : Table.WordsFit ρ (shownFrom image n (tableSpecs ρ)) :=
    List.forall₂_map_left_iff.1 (forall₂_lt_wordCount (length_shownFrom _) at_)
  have sizes := sizes_shownFrom counts
  refine ⟨⟨Table.rowsOf ρ (shownFrom image n (tableSpecs ρ)) count, .mapped⟩, rfl, ?_, ?_⟩
  · simpa [Table.size, Table.rowsOf] using short
  · rwa [← zipWith_words, Table.words_rowsOf fit sizes]

theorem exists_values {α : Type} [Cell α] [LawfulCell α] {spec : ColumnSpec} {d : Descriptor}
    (type : spec.type = Cell.type α) (fits : ColumnFits image spec.type d) :
    ∃ values : Array α, values.size = d.count ∧
      readColumn image spec d = .ok (values.map Cell.toWord) := by
  have read := readColumn_eq_ok.2 ⟨fits, rfl⟩
  have bounded : ∀ word ∈ elements image spec.type d,
      word < LittleEndian.wordCount (Cell.type α).size := by
    rw [← type]
    exact lt_wordCount_of_readColumn read
  refine ⟨(elements image spec.type d).map Cell.ofWord, by simp, ?_⟩
  rw [LawfulCell.map_toWord_ofWord bounded]
  exact read

theorem exists_poolAt {n : Nat} (fits : ColumnFits image poolSpec.type (readDescriptor image n))
    (short : (readDescriptor image n).count ≤ Pool.maxSize) : ∃ pool, PoolAt image n pool := by
  obtain ⟨values, size, read⟩ := exists_values (α := UInt8) rfl fits
  rw [← size] at short
  exact ⟨⟨.ofMapped values⟩, rfl, short, read, trivial⟩

theorem exists_stopIndexAt {n : Nat}
    (offsetsFit : ColumnFits image indexOffsetsSpec.type (readDescriptor image n))
    (patternsFit : ColumnFits image indexPatternsSpec.type (readDescriptor image (n + 1))) :
    ∃ index, StopIndexAt image n index := by
  obtain ⟨offsets, -, readOffsets⟩ := exists_values (α := UInt32) rfl offsetsFit
  obtain ⟨patterns, -, readPatterns⟩ := exists_values (α := UInt16) rfl patternsFit
  exact ⟨.ofMapped offsets patterns, rfl, rfl, readOffsets, readPatterns, trivial⟩

theorem specs_table (e : Entity) {j : Nat} {spec : ColumnSpec}
    (at_ : (tableSpecs e.Row)[j]? = some spec) : specs[e.firstColumn + j]? = some spec := by
  obtain ⟨inside, -⟩ := List.getElem?_eq_some_iff.1 at_
  have names : (tableColumns (e.table {})).map Column.toColumnSpec = tableSpecs e.Row := by
    simp [tableColumns, tableSpecs]
  rw [← map_toColumnSpec_columns {}, List.getElem?_map, ← List.getElem?_drop,
    ← List.getElem?_take_of_lt (show j < e.columnCount from inside), columns_table,
    ← List.getElem?_map, names, at_]

/-- A snapshot shows a container. -/
theorem IsSnapshot.exists_shows (snapshot : IsSnapshot image) (path : String) :
    ∃ c, Shows path image c := by
  have descriptor {k : Nat} (column : k < columnCount) :
      readDescriptor image k = descriptorOf image k :=
    readDescriptor_of_header snapshot.header column
  have fits {k : Nat} {spec : ColumnSpec} (at_ : specs[k]? = some spec) :
      ColumnFits image spec.type (readDescriptor image k) := by
    rw [descriptor (List.getElem?_eq_some_iff.1 at_).1]
    exact snapshot.columns k spec at_
  obtain ⟨pool, poolAt⟩ : ∃ pool, PoolAt image 0 pool := by
    apply exists_poolAt (fits (k := 0) rfl)
    rw [descriptor (by decide)]
    exact snapshot.pool
  obtain ⟨index, indexAt⟩ : ∃ index, StopIndexAt image 53 index :=
    exists_stopIndexAt (fits (k := 53) rfl) (fits (k := 54) rfl)
  have tables (e : Entity) : ∃ t : Table e.Row, TableAt image e.firstColumn t := by
    refine exists_tableAt (fun j spec at_ => fits (specs_table e at_)) ?_ (snapshot.short e)
    intro j inside
    obtain ⟨spec, at_⟩ : ∃ spec, (tableSpecs e.Row)[j]? = some spec :=
      ⟨_, List.getElem?_eq_getElem inside⟩
    rw [descriptor (List.getElem?_eq_some_iff.1 (specs_table e at_)).1]
    exact snapshot.equal e j inside
  choose table tableAt using tables
  let c : Container := {
    backing := .mapped path image.size
    metadata := readMetadata image
    pool
    stopAreas := table .stopArea
    stopPoints := table .stopPoint
    transfers := table .transfer
    operators := table .operator
    physicalModes := table .physicalMode
    commercialModes := table .commercialMode
    lines := table .line
    routes := table .route
    journeyPatternPoints := table .journeyPatternPoint
    journeyPatterns := table .journeyPattern
    stopTimes := table .stopTime
    vehicleJourneys := table .vehicleJourney
    vehicleTransfers := table .vehicleTransfer
    stopIndex := index }
  refine ⟨c, snapshot.header, snapshot.magic, rfl, rfl, poolAt, ?_, indexAt⟩
  intro e
  cases e <;> exact tableAt _

theorem Shows.decodes (shows : Shows path image c) : Decodes image c where
  columns := by
    apply List.ext_getElem?
    intro k
    rw [List.getElem?_mapIdx, ← map_toColumnSpec_columns c, List.getElem?_map]
    cases at_ : (columns c)[k]? with
    | none => rfl
    | some column =>
      have words : column.words = elements image column.type (descriptorOf image k) :=
        (shows.column at_).2
      simp only [Option.map_some, ← words]
  calendarStart := by
    have lt := wordOf_lt image 8 8 (Nat.le_trans (by decide) shows.header)
    rw [shows.metadata, readMetadata, wordAt_of_header shows.header (by decide)]
    exact UInt64.toNat_ofNat_of_lt' lt
  timezone := by
    have lt := wordOf_lt image 16 4 (Nat.le_trans (by decide) shows.header)
    rw [shows.metadata, readMetadata, wordAt_of_header shows.header (by decide : 16 + 4 ≤ 32)]
    show Option.map _ (if _ then _ else _) = _
    split
    · rfl
    · exact congrArg some (UInt32.toNat_ofNat_of_lt' lt)
  utcOffset := by
    have lt := wordOf_lt image 20 4 (Nat.le_trans (by decide) shows.header)
    rw [shows.metadata, readMetadata, wordAt_of_header shows.header (by decide : 20 + 4 ≤ 32)]
    exact UInt32.toNat_ofNat_of_lt' lt
  days := by
    have lt := wordOf_lt image 24 4 (Nat.le_trans (by decide) shows.header)
    rw [shows.metadata, readMetadata, wordAt_of_header shows.header (by decide : 24 + 4 ≤ 32)]
    exact UInt32.toNat_ofNat_of_lt' lt

/-- The loader opens exactly the snapshots, calls everything else malformed, and gives
the elements and the numbers that stand in the image. -/
theorem openImage_accepts (path : String) (image : ByteArray) :
    ((∃ c, openImage path false image = .ok c) ↔ IsSnapshot image) ∧
      (¬IsSnapshot image → ∃ reason, openImage path false image = .error (.malformed reason)) ∧
        ∀ c, openImage path false image = .ok c → Decodes image c := by
  have opened {c : Container} : openImage path false image = .ok c ↔ Shows path image c := by
    rw [openImage_false_eq_ok, decode_eq_ok]
  have accepted : (∃ c, openImage path false image = .ok c) ↔ IsSnapshot image := by
    simp only [opened]
    exact ⟨fun ⟨_, shows⟩ => shows.isSnapshot, fun snapshot => snapshot.exists_shows path⟩
  refine ⟨accepted, ?_, fun c h => (opened.1 h).decodes⟩
  intro other
  cases h : decode path image with
  | ok c => exact absurd (accepted.1 ⟨c, openImage_false_eq_ok.2 h⟩) other
  | error reason => exact ⟨reason, by rw [openImage, h]⟩

end TransitStore.Snapshot
