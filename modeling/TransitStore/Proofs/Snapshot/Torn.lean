import Mathlib
import TransitStore.Proofs.Snapshot.RoundTrip

/-!
# Torn snapshots

A snapshot file may end too early, or have more bytes behind it.  What the loader
gives depends on the header and on the bytes of the columns only
(`Shows.of_agree`), so an image that has the bytes of a snapshot as far as it goes
shows the same contents as the snapshot if it covers the header and every column,
and shows nothing otherwise (`decode_eq_ok_iff_covers`).
-/

namespace TransitStore

/-- A container has the contents of another: the same numbers, texts, records and
stop index, wherever the columns live. -/
structure Container.SameContents (c d : Container) : Prop where
  /-- The numbers outside the tables are the same. -/
  metadata : d.metadata = c.metadata
  /-- The bytes of the pool are the same. -/
  pool : d.pool.bytes.values = c.pool.bytes.values
  /-- The records of each table are the same. -/
  rows : ∀ e : Entity, e.rows d = e.rows c
  /-- The offsets of the stop index are the same. -/
  offsets : d.stopIndex.offsets.values = c.stopIndex.offsets.values
  /-- The lists of the stop index are the same. -/
  patterns : d.stopIndex.patterns.values = c.stopIndex.patterns.values

theorem Container.sameContents_mappedFrom (c : Container) (path : String) (size : Nat) :
    c.SameContents (c.mappedFrom path size) where
  metadata := rfl
  pool := rfl
  rows e := by rw [Entity.rows, e.table_mappedFrom]
  offsets := rfl
  patterns := rfl

namespace Snapshot

variable {image other : ByteArray} {place : Nat} {c d : Container} {path : String}

/-! ## Images that agree -/

/-- Two images have the same bytes in front of a place that is inside both. -/
structure Agree (place : Nat) (image other : ByteArray) : Prop where
  /-- The first image reaches that far. -/
  inside : place ≤ image.size
  /-- The second image reaches that far. -/
  insideOther : place ≤ other.size
  /-- The bytes are the same. -/
  take_eq : image.data.toList.take place = other.data.toList.take place

namespace Agree

variable (agree : Agree place image other)
include agree

theorem bytesAt_eq {start size : Nat} (inside : start + size ≤ place) :
    bytesAt image start size = bytesAt other start size := by
  have front (bytes : List UInt8) :
      (bytes.drop start).take size = ((bytes.take place).drop start).take size := by
    rw [List.drop_take, List.take_take, Nat.min_eq_left (by omega)]
  rw [bytesAt, bytesAt, front, agree.take_eq, ← front]

theorem wordOf_eq {start size : Nat} (inside : start + size ≤ place) :
    wordOf image start size = wordOf other start size := by
  rw [wordOf, wordOf, agree.bytesAt_eq inside]

theorem descriptorOf_eq (header : headerSize ≤ place) {k : Nat} (column : k < columnCount) :
    descriptorOf image k = descriptorOf other k := by
  have whole : headerSize = 912 := rfl
  have count : columnCount = 55 := rfl
  simp only [descriptorOf, descriptorStart, descriptorSize]
  rw [agree.wordOf_eq (by omega), agree.wordOf_eq (by omega)]

theorem readMetadata_eq (header : headerSize ≤ place) :
    readMetadata image = readMetadata other := by
  have whole : headerSize = 912 := rfl
  have word {start size : Nat} (inside : start + size ≤ 32) :
      wordAt image start size = wordAt other start size := by
    rw [wordAt_of_header (Nat.le_trans header agree.inside) inside,
      wordAt_of_header (Nat.le_trans header agree.insideOther) inside,
      agree.wordOf_eq (by omega)]
  simp only [readMetadata]
  rw [word (by decide), word (by decide), word (by decide), word (by decide)]

theorem elements_eq {type : CellType} {d : Descriptor} (inside : d.finish type ≤ place) :
    elements image type d = elements other type d := by
  simp only [elements, elementOf]
  refine congrArg Array.ofFn (funext fun i => ?_)
  exact agree.wordOf_eq (element_inside i.isLt inside)

end Agree

/-- An image that has the header and the columns of another shows the same contents. -/
theorem Shows.of_agree (shows : Shows path other (c.mappedFrom path other.size))
    (agree : Agree place image other) (header : headerSize ≤ place)
    (inside : ∀ k column, (columns c)[k]? = some column →
      (descriptorOf other k).finish column.type ≤ place) :
    Shows path image (c.mappedFrom path image.size) := by
  have reach : headerSize ≤ image.size := Nat.le_trans header agree.inside
  have whole : headerSize = 912 := rfl
  have at_ : ColumnsAt image 0 (columns (c.mappedFrom path image.size)) := by
    rw [columns_mappedFrom, columnsAt_iff]
    intro k column at_
    obtain ⟨fits, words⟩ := shows.column (k := k) at_
    have finish := inside k column at_
    obtain ⟨number, -⟩ := List.getElem?_eq_some_iff.1 at_
    rw [length_columns] at number
    rw [Nat.zero_add, readDescriptor_of_header reach number,
      agree.descriptorOf_eq header number, readColumn_eq_ok, agree.elements_eq finish]
    exact ⟨⟨fits.size_le, fits.finish_le, Nat.le_trans finish agree.inside, fits.aligned⟩, words⟩
  obtain ⟨pool, tables, stopIndex⟩ := columnsAt_columns.1 at_
  refine ⟨reach, ?_, rfl, ?_, ⟨rfl, shows.pool.short, pool⟩, ?_, ⟨rfl, rfl, stopIndex⟩⟩
  · rw [agree.bytesAt_eq (Nat.le_trans (by decide) header)]
    exact shows.magic
  · rw [agree.readMetadata_eq header]
    exact shows.metadata
  · intro e
    have short := (shows.tables e).short
    rw [e.table_mappedFrom] at short
    refine ⟨?_, ?_, tables e⟩
    · rw [e.table_mappedFrom]
    · rw [e.table_mappedFrom]
      exact short

/-! ## Places in a snapshot -/

/-- A file of a given size reaches as far as the header and every column of a
container's snapshot. -/
structure Covers (c : Container) (size : Nat) : Prop where
  /-- The header is inside. -/
  header : headerSize ≤ size
  /-- Each column ends inside. -/
  columns : ∀ (k : Nat) (column : Column) (d : Descriptor), (columns c)[k]? = some column →
    (descriptors c)[k]? = some d → d.offset + column.byteSize ≤ size

/-- A file of a given size ends in front of a byte of some column of a container's
snapshot. -/
def Misses (c : Container) (size : Nat) : Prop :=
  ∃ (k : Nat) (column : Column) (d : Descriptor), (columns c)[k]? = some column ∧
    (descriptors c)[k]? = some d ∧
      ∃ place, size ≤ place ∧ d.offset ≤ place ∧ place < d.offset + column.byteSize

theorem Misses.not_covers {size : Nat} (misses : Misses c size) : ¬Covers c size := by
  obtain ⟨k, column, d, at_, placed, place, outside, -, inside⟩ := misses
  intro covers
  have finish := covers.columns k column d at_ placed
  omega

theorem exists_descriptor {k : Nat} {column : Column} (at_ : (columns c)[k]? = some column) :
    ∃ d, (descriptors c)[k]? = some d := by
  obtain ⟨inside, -⟩ := List.getElem?_eq_some_iff.1 at_
  refine ⟨_, List.getElem?_eq_getElem ?_⟩
  rwa [descriptors, length_descriptorsFrom]

theorem finish_eq {k : Nat} {column : Column} {d : Descriptor}
    (at_ : (columns c)[k]? = some column) (placed : (descriptors c)[k]? = some d) :
    d.finish column.type = d.offset + column.byteSize := by
  obtain ⟨-, -, -, -, count, -⟩ := split_bodyFrom (length_headerBytes c) at_ placed
  rw [Descriptor.finish, count, Column.byteSize]

/-- A snapshot covers its header and its columns. -/
theorem covers_encode (fits : c.Fits) : Covers c (encode c).size where
  header := headerSize_le_size c
  columns k column d at_ placed := by
    rw [← finish_eq at_ placed]
    exact (columnFits_encode fits at_ placed).1.inside

/-- What agrees with a snapshot is decoded exactly if it covers the snapshot's header and
columns, and as the contents of the snapshot. -/
theorem decode_eq_ok_iff_covers (fits : c.Fits) (agree : Agree place image (encode c))
    (end_ : image.size = place ∨ (encode c).size = place) :
    decode path image = .ok d ↔ Covers c place ∧ d = c.mappedFrom path image.size := by
  have shown (covers : Covers c place) :
      decode path image = .ok (c.mappedFrom path image.size) := by
    refine decode_eq_ok.2 ((shows_encode fits path).of_agree agree covers.header ?_)
    intro k column at_
    obtain ⟨d, placed⟩ := exists_descriptor at_
    rw [descriptorOf_encode fits at_ placed, finish_eq at_ placed]
    exact covers.columns k column d at_ placed
  constructor
  · intro decoded
    have covers : Covers c place := by
      rcases end_ with rfl | rfl
      · have snapshot := (decode_eq_ok.1 decoded).isSnapshot
        refine ⟨snapshot.header, ?_⟩
        intro k column d at_ placed
        have spec : specs[k]? = some column.toColumnSpec := by
          rw [← map_toColumnSpec_columns c, List.getElem?_map, at_, Option.map_some]
        obtain ⟨number, -⟩ := List.getElem?_eq_some_iff.1 spec
        have inside := (snapshot.columns k _ spec).inside
        rwa [agree.descriptorOf_eq snapshot.header number, descriptorOf_encode fits at_ placed,
          finish_eq at_ placed] at inside
      · exact covers_encode fits
    refine ⟨covers, ?_⟩
    have same := decoded.symm.trans (shown covers)
    cases same
    rfl
  · rintro ⟨covers, rfl⟩
    exact shown covers

theorem openImage_of_decode_error (failed : ∀ d, decode path image ≠ .ok d) :
    ∃ reason, openImage path false image = .error (.malformed reason) := by
  cases h : decode path image with
  | ok d => exact absurd h (failed d)
  | error reason => exact ⟨reason, by rw [openImage, h]⟩

theorem agree_of_torn {torn : ByteArray} (torn_ : torn.data.toList <+: image.data.toList) :
    Agree torn.size torn image where
  inside := Nat.le_refl _
  insideOther := torn_.length_le
  take_eq := by
    rw [← length_toList, List.take_length]
    exact List.prefix_iff_eq_take.1 torn_

theorem agree_append (image extra : ByteArray) : Agree image.size (image ++ extra) image where
  inside := by
    rw [ByteArray.size_append]
    exact Nat.le_add_right _ _
  insideOther := Nat.le_refl _
  take_eq := by
    rw [← length_toList, ByteArray.data_append, Array.toList_append, List.take_left,
      List.take_length]

theorem torn_extract (image : ByteArray) (size : Nat) :
    (image.extract 0 size).data.toList <+: image.data.toList := by
  rw [ByteArray.data_extract, Array.toList_extract, List.extract_eq_take_drop]
  exact List.take_prefix _ _

/-- A torn snapshot never loads as different data.  A start of the snapshot of a
reachable container opens exactly if it covers the header and every column, and then
with the contents of the container.  Otherwise it is malformed, as it is if it is
shorter than a header or misses a byte of a column.  A snapshot with more bytes
behind it opens with the contents of the container. -/
theorem openImage_of_torn {c : Container} (reachable : c.Reachable) (path : String) :
    (∀ torn : ByteArray, torn.data.toList <+: (encode c).data.toList →
      ((∃ reason, openImage path false torn = .error (.malformed reason)) ∨
        ∃ d, openImage path false torn = .ok d ∧ c.SameContents d) ∧
      ((∃ d, openImage path false torn = .ok d) ↔ Covers c torn.size) ∧
      (torn.size < headerSize ∨ Misses c torn.size →
        ∃ reason, openImage path false torn = .error (.malformed reason))) ∧
    ∀ extra : ByteArray, ∃ d, openImage path false (encode c ++ extra) = .ok d ∧
      c.SameContents d := by
  have fits := reachable.fits
  refine ⟨fun torn torn_ => ?_, fun extra => ?_⟩
  · have decoded (d : Container) : decode path torn = .ok d ↔
        Covers c torn.size ∧ d = c.mappedFrom path torn.size :=
      decode_eq_ok_iff_covers fits (agree_of_torn torn_) (.inl rfl)
    have malformed (short : ¬Covers c torn.size) :
        ∃ reason, openImage path false torn = .error (.malformed reason) :=
      openImage_of_decode_error fun d h => short ((decoded d).1 h).1
    have opened (covers : Covers c torn.size) :
        openImage path false torn = .ok (c.mappedFrom path torn.size) :=
      openImage_false_eq_ok.2 ((decoded _).2 ⟨covers, rfl⟩)
    refine ⟨?_, ⟨?_, fun covers => ⟨_, opened covers⟩⟩, ?_⟩
    · by_cases covers : Covers c torn.size
      · exact .inr ⟨_, opened covers, c.sameContents_mappedFrom path _⟩
      · exact .inl (malformed covers)
    · rintro ⟨d, h⟩
      exact ((decoded d).1 (openImage_false_eq_ok.1 h)).1
    · rintro (short | misses)
      · exact malformed fun covers => absurd covers.header (Nat.not_le.2 short)
      · exact malformed misses.not_covers
  · have decoded : decode path (encode c ++ extra) =
        .ok (c.mappedFrom path (encode c ++ extra).size) :=
      (decode_eq_ok_iff_covers fits (agree_append _ extra) (.inr rfl)).2 ⟨covers_encode fits, rfl⟩
    exact ⟨_, openImage_false_eq_ok.2 decoded, c.sameContents_mappedFrom path _⟩

/-- A container with a stop and a pattern that visits it. -/
def served : Container :=
  let stop : StopPoint.Draft := ⟨"S", "Stop", "", ⟨0, 0⟩, 0, 0, 0, 0⟩
  let point : JourneyPatternPoint.Draft := ⟨0, "A", 0⟩
  let pattern : JourneyPattern := ⟨0, 1, 0, 0, 0, 0, 0⟩
  Container.Operation.buildStopIndex.apply <|
    (Container.Operation.add .journeyPattern [pattern]).apply <|
      (Container.Operation.add .journeyPatternPoint [point]).apply <|
        (Container.Operation.add .stopPoint [stop]).apply {}

theorem covers_served : Covers served 1082 where
  header := by decide
  columns k column d at_ placed := by
    have ends : ∀ p ∈ (columns served).zip (descriptors served),
        p.2.offset + p.1.byteSize ≤ 1082 := by decide +kernel
    exact ends (column, d) (List.mem_of_getElem? (List.getElem?_zip_eq_some.2 ⟨at_, placed⟩))

theorem last_served : (descriptors served)[54]? = some ⟨1080, 1⟩ := by
  decide +kernel

theorem misses_served : Misses served 1081 :=
  ⟨54, _, _, rfl, last_served, 1081, by decide, by decide, by decide +kernel⟩

/-- Cut between the two bytes of the list of the stop index, the snapshot of `served` is
malformed.  Cut in the zero bytes behind them, or with bytes behind it, it opens. -/
theorem openImage_of_torn_served :
    (∃ reason, openImage "served" false ((encode served).extract 0 1081) =
      .error (.malformed reason)) ∧
    (∃ d, openImage "served" false ((encode served).extract 0 1082) = .ok d ∧
      served.SameContents d) ∧
    ∃ d, openImage "served" false (encode served ++ magic.toUTF8) = .ok d ∧
      served.SameContents d := by
  have reachable : served.Reachable := .edited _ (.edited _ (.edited _ (.edited _ .new)))
  obtain ⟨torn, behind⟩ := openImage_of_torn reachable "served"
  have long : 1082 ≤ (encode served).size :=
    (columnFits_encode reachable.fits (k := 54) rfl last_served).1.inside
  have size {n : Nat} (le : n ≤ 1082) : ((encode served).extract 0 n).size = n := by
    rw [ByteArray.size_extract]
    omega
  refine ⟨?_, ?_, behind _⟩
  · obtain ⟨-, -, malformed⟩ := torn _ (torn_extract _ 1081)
    rw [size (by decide)] at malformed
    exact malformed (.inr misses_served)
  · obtain ⟨same, opens, -⟩ := torn _ (torn_extract _ 1082)
    rw [size (by decide)] at opens
    obtain ⟨d, opened⟩ := opens.2 covers_served
    rcases same with ⟨reason, failed⟩ | same
    · cases opened.symm.trans failed
    · exact same

end Snapshot

end TransitStore
