import Mathlib
import TransitStore.Container.Files
import TransitStore.Files.Directory
import TransitStore.Proofs.Container.Reachable
import TransitStore.Proofs.Snapshot.Bytes

/-!
# Writing and reading again

The snapshot of a container whose numbers reach as far as its contents shows the
container again: its descriptors say where the columns stand, its columns have the
words of the records, and its numbers are those of the header
(`shows_encode`).  So every reachable container is written and opened again without
loss (`openImage_encode_of_reachable`).
-/

namespace TransitStore.Snapshot

open LittleEndian (bytes wordCount)

variable {c : Container} {path : String}

/-! ## Sizes -/

theorem sum_byteSize_le {columns : List Column} {most : Nat}
    (short : ∀ column ∈ columns, column.byteSize ≤ most) :
    (columns.map fun column => column.byteSize + columnAlignment).sum ≤
      columns.length * (most + columnAlignment) := by
  induction columns with
  | nil => exact Nat.zero_le _
  | cons first rest ih =>
    have := ih fun column mem => short column (.tail _ mem)
    have := short first (.head _)
    rw [List.map_cons, List.sum_cons, List.length_cons, Nat.succ_mul]
    omega

/-- The most bytes of a column of a pool or a table: eight for each number of 32 bits. -/
def maxColumnSize : Nat := 2 ^ 35

theorem size_pos (type : CellType) : 0 < type.size := by
  cases type <;> decide

theorem alignment_dvd_columnAlignment (type : CellType) : type.alignment ∣ columnAlignment := by
  cases type <;> decide

theorem byteSize_tableColumns_le {ρ : Type} [Record ρ] {t : Table ρ}
    (short : t.size ≤ Table.maxRows ρ) :
    ∀ column ∈ tableColumns t, column.byteSize ≤ maxColumnSize := by
  intro column mem
  obtain ⟨f, -, rfl⟩ := List.mem_map.1 mem
  simp only [Column.byteSize, Array.size_map, maxColumnSize]
  exact (Table.mul_size_le short f).trans (by decide)

/-- The columns in front of the stop index are not too long. -/
theorem exists_front (fits : c.Fits) : ∃ front : List Column,
    columns c = front ++ indexColumns c.stopIndex ∧ front.length = 53 ∧
      ∀ column ∈ front, column.byteSize ≤ maxColumnSize := by
  refine ⟨_, columns_eq c, ?_, ?_⟩
  · rw [List.length_cons, List.length_flatMap]
    simp only [length_tableColumns]
    rfl
  · intro column mem
    rcases List.mem_cons.1 mem with rfl | mem
    · have pool := fits.pool
      have size : (poolColumn c.pool).byteSize = c.pool.size := by
        simp [poolColumn, Column.byteSize, poolSpec, CellType.size, Pool.size,
          TransitStore.Column.size]
      rw [size]
      exact Nat.le_trans pool (by decide)
    · obtain ⟨e, -, mem⟩ := List.mem_flatMap.1 mem
      exact byteSize_tableColumns_le (fits.tables e) column mem

/-- The snapshot of a container within its sizes has places of 64 bits only. -/
theorem size_le_maxPlace (fits : c.Fits) :
    headerSize + (bodyFrom headerSize (columns c)).length ≤ maxPlace := by
  obtain ⟨front, split, length, short⟩ := exists_front fits
  have whole := length_bodyFrom_le (columns c) headerSize
  have sum := sum_byteSize_le short
  have index : ((indexColumns c.stopIndex).map fun column =>
      column.byteSize + columnAlignment).sum = (c.stopIndex.offsets.values.size * 4 + 8) +
        (c.stopIndex.patterns.values.size * 2 + 8) := by
    simp [indexColumns, Column.byteSize, indexOffsetsSpec, indexPatternsSpec, CellType.size,
      columnAlignment]
  have offsets := fits.offsets
  have patterns := fits.patterns
  have header : headerSize = 912 := rfl
  have last : maxPlace = 18446744073709551615 := rfl
  have file : Container.maxFileSize = 4611686018427387904 := rfl
  have most : maxColumnSize = 34359738368 := rfl
  have gap : columnAlignment = 8 := rfl
  have parts : ((columns c).map fun column => column.byteSize + columnAlignment).sum =
      (front.map fun column => column.byteSize + columnAlignment).sum +
        ((indexColumns c.stopIndex).map fun column => column.byteSize + columnAlignment).sum := by
    rw [split, List.map_append, List.sum_append]
  rw [length] at sum
  omega

/-! ## Contents -/

@[simp] theorem length_headerBytes (c : Container) : (headerBytes c).length = headerSize := by
  rw [headerBytes, List.length_append, length_metadataBytes,
    length_flatMap_of_length fun d _ => length_descriptorBytes d, descriptors,
    length_descriptorsFrom, length_columns, headerSize]

theorem toList_encode (c : Container) :
    (encode c).data.toList = headerBytes c ++ bodyFrom headerSize (columns c) := by
  have size : (writeHeader c).size = headerSize := by
    have length := congrArg List.length (toList_writeHeader c)
    rwa [length_headerBytes, length_toList] at length
  rw [encode, toList_writeColumns, toList_writeHeader, size]

theorem size_encode (c : Container) :
    (encode c).size = headerSize + (bodyFrom headerSize (columns c)).length := by
  have length := congrArg List.length (toList_encode c)
  rwa [List.length_append, length_headerBytes, length_toList] at length

theorem headerSize_le_size (c : Container) : headerSize ≤ (encode c).size := by
  rw [size_encode]
  exact Nat.le_add_right _ _

theorem words_lt (c : Container) :
    ∀ column ∈ columns c, ∀ word ∈ column.words, word < wordCount column.type.size := by
  intro column mem word inside
  rw [columns_eq] at mem
  rcases List.mem_append.1 mem with mem | mem
  · rcases List.mem_cons.1 mem with rfl | mem
    · obtain ⟨value, -, rfl⟩ := Array.mem_map.1 inside
      exact LawfulCell.toWord_lt value
    · obtain ⟨e, -, mem⟩ := List.mem_flatMap.1 mem
      obtain ⟨f, field, rfl⟩ := List.mem_map.1 mem
      obtain ⟨r, -, rfl⟩ := Array.mem_map.1 inside
      exact Field.word_lt field r
  · rcases List.mem_cons.1 mem with rfl | mem
    · obtain ⟨value, -, rfl⟩ := Array.mem_map.1 inside
      exact LawfulCell.toWord_lt value
    · cases List.mem_singleton.1 mem
      obtain ⟨value, -, rfl⟩ := Array.mem_map.1 inside
      exact LawfulCell.toWord_lt value

section

variable {k : Nat} {column : Column} {d : Descriptor}

theorem columnFits_encode (fits : c.Fits) (at_ : (columns c)[k]? = some column)
    (placed : (descriptors c)[k]? = some d) :
    ColumnFits (encode c) column.type d ∧ d.count = column.words.size := by
  obtain ⟨before, behind, split, offset, count, aligned⟩ :=
    split_bodyFrom (length_headerBytes c) at_ placed
  have length := congrArg List.length split
  rw [← toList_encode, List.length_append, List.length_append, length_columnBytes, offset,
    length_toList] at length
  have most := size_le_maxPlace fits
  rw [← size_encode] at most
  have bytes : d.count * column.type.size = column.byteSize := by rw [count, Column.byteSize]
  refine ⟨⟨?_, ?_, ?_, ?_⟩, count⟩
  · omega
  · rw [Descriptor.finish]
    omega
  · rw [Descriptor.finish]
    omega
  · exact Nat.dvd_trans (alignment_dvd_columnAlignment _) aligned

theorem elements_encode (at_ : (columns c)[k]? = some column)
    (placed : (descriptors c)[k]? = some d) :
    elements (encode c) column.type d = column.words := by
  obtain ⟨before, behind, split, offset, count, -⟩ :=
    split_bodyFrom (length_headerBytes c) at_ placed
  apply Array.ext
  · rw [size_elements, count]
  · intro i _ inside
    have word : column.words.toList[i]? = some column.words[i] := by
      rw [Array.getElem?_toList, Array.getElem?_eq_getElem inside]
    obtain ⟨front, back, words, length⟩ :=
      split_flatMap (fun word _ => LittleEndian.length_bytes column.type.size word) word
    have whole : (encode c).data.toList = before ++ front ++
        (bytes column.type.size column.words[i] ++ (back ++ behind)) := by
      rw [toList_encode, split, columnBytes, words]
      simp only [List.append_assoc]
    simp only [elements, Array.getElem_ofFn, elementOf]
    refine wordOf_of_split whole ?_ ?_
    · rw [List.length_append, offset, length]
    · exact words_lt c column (List.mem_of_getElem? at_) _ (Array.getElem_mem inside)

theorem descriptorOf_encode (fits : c.Fits) (at_ : (columns c)[k]? = some column)
    (placed : (descriptors c)[k]? = some d) : descriptorOf (encode c) k = d := by
  obtain ⟨inside, -⟩ := columnFits_encode fits at_ placed
  obtain ⟨front, back, split, length⟩ :=
    split_flatMap (fun d _ => length_descriptorBytes d) placed
  have whole : (encode c).data.toList = metadataBytes c.metadata ++ front ++
      (bytes 8 d.offset ++ (bytes 8 d.count ++
        (back ++ bodyFrom headerSize (columns c)))) := by
    rw [toList_encode, headerBytes, split, descriptorBytes]
    simp only [List.append_assoc]
  have place : (metadataBytes c.metadata ++ front).length =
      descriptorStart + k * descriptorSize := by
    rw [List.length_append, length_metadataBytes, length]
  have last : maxPlace = 18446744073709551615 := rfl
  have most : wordCount 8 = 18446744073709551616 := rfl
  have finish := inside.finish_le
  rw [Descriptor.finish] at finish
  have count : d.count ≤ d.count * column.type.size := Nat.le_mul_of_pos_right _ (size_pos _)
  have offset : wordOf (encode c) (descriptorStart + k * descriptorSize) 8 = d.offset :=
    wordOf_of_split whole place (by omega)
  rw [← List.append_assoc] at whole
  have size : wordOf (encode c) (descriptorStart + k * descriptorSize + 8) 8 = d.count := by
    refine wordOf_of_split whole ?_ (by omega)
    rw [List.length_append, place, LittleEndian.length_bytes]
  rw [descriptorOf, offset, size]

end

theorem columnsAt_encode (fits : c.Fits) : ColumnsAt (encode c) 0 (columns c) := by
  rw [columnsAt_iff]
  intro k column at_
  have inside := (List.getElem?_eq_some_iff.1 at_).1
  obtain ⟨d, placed⟩ : ∃ d, (descriptors c)[k]? = some d := by
    refine ⟨_, List.getElem?_eq_getElem ?_⟩
    rwa [descriptors, length_descriptorsFrom]
  rw [length_columns] at inside
  rw [Nat.zero_add, readDescriptor_of_header (headerSize_le_size c) inside,
    descriptorOf_encode fits at_ placed, readColumn_eq_ok]
  exact ⟨(columnFits_encode fits at_ placed).1, (elements_encode at_ placed).symm⟩

/-- The time zone of a container as a word. -/
def timezoneWord (m : Metadata) : Nat := (m.timezone.map UInt32.toNat).getD noTimezone

theorem timezoneWord_lt (m : Metadata) : timezoneWord m < wordCount 4 := by
  rw [timezoneWord]
  cases m.timezone with
  | none => decide
  | some place => exact place.toNat_lt

theorem words_encode (c : Container) :
    wordOf (encode c) 8 8 = c.metadata.calendarStart.toNat ∧
      wordOf (encode c) 16 4 = timezoneWord c.metadata ∧
        wordOf (encode c) 20 4 = c.metadata.utcOffset.toUInt32.toNat ∧
          wordOf (encode c) 24 4 = c.metadata.days.toNat := by
  have magicLength : magic.toUTF8.data.toList.length = 8 := rfl
  have whole := toList_encode c
  simp only [headerBytes, metadataBytes, List.append_assoc] at whole
  have calendarStart := wordOf_of_split whole magicLength c.metadata.calendarStart.toNat_lt
  -- The words are split off from the front one by one.
  rw [← List.append_assoc] at whole
  have timezone : wordOf (encode c) 16 4 = timezoneWord c.metadata := by
    refine wordOf_of_split whole ?_ (timezoneWord_lt _)
    simp only [List.length_append, LittleEndian.length_bytes, magicLength]
  rw [← List.append_assoc] at whole
  have utcOffset : wordOf (encode c) 20 4 = c.metadata.utcOffset.toUInt32.toNat := by
    refine wordOf_of_split whole ?_ (UInt32.toNat_lt _)
    simp only [List.length_append, LittleEndian.length_bytes, magicLength]
  rw [← List.append_assoc] at whole
  have days : wordOf (encode c) 24 4 = c.metadata.days.toNat := by
    refine wordOf_of_split whole ?_ (UInt32.toNat_lt _)
    simp only [List.length_append, LittleEndian.length_bytes, magicLength]
  exact ⟨calendarStart, timezone, utcOffset, days⟩

/-- No time zone is read as one, and one as itself, since none has the place that stands
for none. -/
theorem readMetadata_encode (fits : c.Fits) : readMetadata (encode c) = c.metadata := by
  have header : headerSize ≤ (encode c).size := headerSize_le_size c
  obtain ⟨calendarStart, timezone, utcOffset, days⟩ := words_encode c
  rw [readMetadata, wordAt_of_header header (by decide), wordAt_of_header header (by decide),
    wordAt_of_header header (by decide), wordAt_of_header header (by decide), calendarStart,
    timezone, utcOffset, days, UInt64.ofNat_toNat, UInt32.ofNat_toNat, UInt32.ofNat_toNat]
  have place : (if timezoneWord c.metadata = noTimezone then none
      else some (UInt32.ofNat (timezoneWord c.metadata))) = c.metadata.timezone := by
    rw [timezoneWord]
    cases same : c.metadata.timezone with
    | none => rfl
    | some place =>
      have other : place.toNat ≠ noTimezone := Nat.ne_of_lt (fits.timezone place same)
      simp only [Option.map_some, Option.getD_some, if_neg other, UInt32.ofNat_toNat]
  simp only [place]
  rfl

/-- The snapshot of a container shows the container. -/
theorem shows_encode (fits : c.Fits) (path : String) :
    Shows path (encode c) (c.mappedFrom path (encode c).size) := by
  have at_ := columnsAt_encode fits
  rw [← columns_mappedFrom c path (encode c).size, columnsAt_columns] at at_
  obtain ⟨pool, tables, stopIndex⟩ := at_
  refine ⟨headerSize_le_size c, ?_, rfl, (readMetadata_encode fits).symm, ⟨rfl, fits.pool, pool⟩,
    ?_, ⟨rfl, rfl, stopIndex⟩⟩
  · rw [bytesAt, toList_encode, headerBytes, metadataBytes, List.append_assoc, List.append_assoc]
    exact List.take_left' rfl
  · intro e
    refine ⟨?_, ?_, tables e⟩
    · rw [e.table_mappedFrom]
    · rw [e.table_mappedFrom]
      exact fits.tables e

theorem encode_mappedFrom (c : Container) (path : String) (size : Nat) :
    encode (c.mappedFrom path size) = encode c := by
  rw [encode, writeHeader, descriptors, columns_mappedFrom]
  rfl

/-- A container has the broken references of the one it was opened from. -/
theorem checkReferences_mappedFrom (c : Container) (path : String) (size : Nat) :
    Audit.checkReferences (c.mappedFrom path size) = Audit.checkReferences c := by
  have index : Audit.checkStopIndex (c.mappedFrom path size) = Audit.checkStopIndex c := rfl
  have pattern : Audit.brokenPattern? (c.mappedFrom path size) = Audit.brokenPattern? c := by
    funext number p
    simp only [Audit.brokenPattern?, Container.mappedFrom, Table.size]
    cases p.points? c.journeyPatternPoints.rows.size with
    | none => rfl
    | some _ =>
      cases p.vehicleJourneys? c.vehicleJourneys.rows.size with
      | none => rfl
      | some run =>
        refine congrArg (List.findSome? · run.rows) ?_
        funext v
        cases (c.vehicleJourneys.rows[v.val]).stopTimes? p.stopCount.toNat
          c.stopTimes.rows.size with
        | none => rfl
        | some _ => rfl
  simp only [Audit.checkReferences, index, pattern]
  simp only [Container.mappedFrom, Table.size, Pool.size, TransitStore.Column.size]

/-- What is decoded is opened with a check of its references exactly if they hold. -/
theorem openImage_true {image : ByteArray} (decoded : decode path image = .ok c) :
    openImage path true image =
      match Audit.checkReferences c with
      | .ok () => .ok c
      | .error broken => .error (.malformed (.reference broken)) := by
  simp only [openImage, decoded, if_true]
  cases Audit.checkReferences c with
  | error broken => rfl
  | ok u => rfl

/-- A container is opened from its snapshot, with the same contents and the same
snapshot. -/
theorem decode_encode (fits : c.Fits) (path : String) :
    decode path (encode c) = .ok (c.mappedFrom path (encode c).size) :=
  decode_eq_ok.2 (shows_encode fits path)

/-- Every reachable container is written and opened again without loss.  What is
opened is a container of the file with the same numbers, bytes of the pool, records
and stop index, and it has the same snapshot.  A check finds its references good
exactly if they are good in the container that was written. -/
theorem openImage_encode_of_reachable {c : Container} (reachable : c.Reachable) (path : String) :
    ∃ d, openImage path false (encode c) = .ok d ∧
      d.backing = .mapped path (encode c).size ∧
      d.metadata = c.metadata ∧
      d.pool = ⟨.ofMapped c.pool.bytes.values⟩ ∧
      (∀ e : Entity, e.table d = ⟨e.rows c, .mapped⟩) ∧
      d.stopIndex = .ofMapped c.stopIndex.offsets.values c.stopIndex.patterns.values ∧
      (Audit.checkReferences c = .ok () → openImage path true (encode c) = .ok d) ∧
      (∀ broken, Audit.checkReferences c = .error broken →
        openImage path true (encode c) = .error (.malformed (.reference broken))) ∧
      encode d = encode c := by
  have decoded := decode_encode reachable.fits path
  have checked := openImage_true decoded
  rw [checkReferences_mappedFrom] at checked
  refine ⟨_, openImage_false_eq_ok.2 decoded, rfl, rfl, rfl, fun e => e.table_mappedFrom c path _,
    rfl, ?_, ?_, encode_mappedFrom c path _⟩
  · intro sound
    rw [checked, sound]
  · intro broken found
    rw [checked, found]

/-- A container with an operator and a time zone. -/
def zoned : Container :=
  (Container.Operation.setTimezone "UTC" 3600).apply
    ((Container.Operation.add .operator [(⟨"A", "a.org", "Agency"⟩ : Operator.Draft)]).apply {})

/-- The operator and the time zone are there again. -/
theorem openImage_encode_zoned : ∃ d, openImage "zoned" false (encode zoned) = .ok d ∧
    d.metadata = ⟨0, 0, some 15, 3600⟩ ∧ d.operators.rows = #[⟨0, 2, 8⟩] ∧
      encode d = encode zoned := by
  obtain ⟨d, opened, -, metadata, -, tables, -, -, -, same⟩ :=
    openImage_encode_of_reachable (.edited _ (.edited _ .new) : zoned.Reachable) "zoned"
  refine ⟨d, opened, ?_, ?_, same⟩
  · rw [metadata]
    decide
  · have table : d.operators = ⟨zoned.operators.rows, .mapped⟩ := tables .operator
    rw [table]
    decide

/-! ## Files -/

section

variable {c : Container} {path : String}

theorem saveSnapshot_eq (c : Container) (path : String) (before : Directory) :
    c.saveSnapshot (m := StateM Directory) path before =
      match before.write path (encode c) with
      | .ok after => (.ok (), after)
      | .error fault => (.error (Error.ofFile path fault), before) := by
  simp only [Container.saveSnapshot, FileStore.save, FileStore.writeFile, bind, StateT.bind, get,
    getThe, MonadStateOf.get, StateT.get, pure, StateT.pure]
  cases before.write path (encode c) with
  | ok after => rfl
  | error fault => rfl

theorem openFile_eq {d : Directory} {image : ByteArray} (read : d.read path = .ok image)
    (validate : Bool) :
    Container.openFile (m := StateM Directory) path validate d =
      (openImage path validate image, d) := by
  show (((d.read path).mapError _).bind _, d) = _
  rw [read]
  rfl

/-- What is opened from the file that a snapshot was saved to is opened from the snapshot. -/
theorem openFile_of_saveSnapshot {before after : Directory}
    (saved : c.saveSnapshot (m := StateM Directory) path before = (.ok (), after))
    (validate : Bool) :
    Container.openFile (m := StateM Directory) path validate after =
      (openImage path validate (encode c), after) := by
  rw [saveSnapshot_eq] at saved
  split at saved
  · rename_i written
    cases saved
    exact openFile_eq (Directory.read_write written) validate
  · cases saved
end

end TransitStore.Snapshot
