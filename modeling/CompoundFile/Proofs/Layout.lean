import CompoundFile.Proofs.ByteList
import CompoundFile.Proofs.Results

/-!
# Written headers and records

A header and a directory record are written field by field. What is written is decoded to the same
values, so files can be put together of which it is known what loading them yields.

**Files.** `Sample.bytes` is such a file. The root has a stream in short sectors and one in
sectors. The mini stream ends inside the second short sector, and the file ends inside its last
sector. In `Sample.tornBytes` there is one stream only, in two sectors, and the file ends before the
stream does.

Main results: `Header.parse_fields`, `Entry.parse_fields`, `Sample.yields_load` and
`Sample.yields_load_torn`.
-/

namespace CompoundFile

open Bytes

theorem ClassId.read_fields {fields : List (List UInt8)} {k offset : Nat} {c : ClassId}
    (hk : fields[k]? = some c.bytes.toList) (hoffset : (fields.take k).flatten.length = offset) :
    ClassId.read (ofList fields.flatten) offset = c :=
  classId_of_holds (holds_fields hk hoffset)

/-! ## Headers -/

namespace Header

/-- The fields of a header, in order. -/
def fields (h : Header) (reserved : List UInt8) : List (List UInt8) :=
  [signature, h.clsid.bytes.toList, toLE 2 h.minorVersion.toNat, toLE 2 h.version.major.toNat,
    toLE 2 byteOrderMark.toNat, toLE 2 (UInt16.ofNat h.version.sectorShift).toNat,
    toLE 2 (UInt16.ofNat shortSectorShift).toNat, reserved, toLE 4 h.directorySectors.toNat,
    toLE 4 h.fatSectors.toNat, toLE 4 h.firstDirectorySector.toNat,
    toLE 4 h.transactionSignature.toNat, toLE 4 h.miniStreamCutoff.toNat,
    toLE 4 h.firstMiniFatSector.toNat, toLE 4 h.miniFatSectors.toNat,
    toLE 4 h.firstDifatSector.toNat, toLE 4 h.difatSectors.toNat, ofWords h.inlineDifat.toList]

/-- A header that this library supports. -/
structure Supported (h : Header) : Prop where
  directorySectors_eq : h.version = .three → h.directorySectors = 0
  miniStreamCutoff_ne : h.miniStreamCutoff ≠ 0

theorem version?_eq (v : Version) : version? v.major (UInt16.ofNat v.sectorShift) = .ok v := by
  cases v <;> rfl

section Written

variable {h : Header} {reserved : List UInt8} (hr : reserved.length = 6)
include hr

theorem length_fields : (h.fields reserved).flatten.length = size := by
  simp [fields, signature, size, hr]

/-- The words of a written header before the list of FAT sectors. -/
theorem word32_of_fields {k : Nat} {v : UInt32} (hlt : k < 9)
    (hk : (h.fields reserved)[k + 8]? = some (toLE 4 v.toNat)) :
    word32 (ofList (h.fields reserved).flatten) (0x28 + 4 * k) = v := by
  refine word32_fields hk ?_
  interval_cases k <;> simp [fields, signature, hr]

theorem inlineDifat_of_fields :
    (Vector.ofFn fun i : Fin 109 =>
      word32 (ofList (h.fields reserved).flatten) (0x4C + 4 * i)) = h.inlineDifat := by
  refine Vector.ext fun i hi => ?_
  have hoffset : ((h.fields reserved).take 17).flatten.length = 0x4C := by
    simp [fields, signature, hr]
  have hword := word32_ofWords (k := 17) rfl hoffset (i := i) (by simpa using hi)
  rw [Vector.getElem_ofFn, hword, Vector.getElem_toList]

/-- **A written header is decoded to itself.** -/
theorem parse_fields (hs : h.Supported) :
    parse (ofList (h.fields reserved).flatten) = .ok h := by
  have hsignature : window (ofList (h.fields reserved).flatten) 0 8 = signature := by
    have hfirst : (h.fields reserved)[0]? = some signature := rfl
    exact window_fields hfirst rfl
  have hclsid : ClassId.read (ofList (h.fields reserved).flatten) 0x08 = h.clsid :=
    ClassId.read_fields (k := 1) rfl rfl
  have hminor : word16 (ofList (h.fields reserved).flatten) 0x18 = h.minorVersion :=
    word16_fields (k := 2) rfl (by simp [fields, signature])
  have hmajor : word16 (ofList (h.fields reserved).flatten) 0x1A = h.version.major :=
    word16_fields (k := 3) rfl (by simp [fields, signature])
  have hmark : word16 (ofList (h.fields reserved).flatten) 0x1C = byteOrderMark :=
    word16_fields (k := 4) rfl (by simp [fields, signature])
  have hshift : word16 (ofList (h.fields reserved).flatten) 0x1E =
      UInt16.ofNat h.version.sectorShift := word16_fields (k := 5) rfl (by simp [fields, signature])
  have hshort : word16 (ofList (h.fields reserved).flatten) 0x20 = UInt16.ofNat shortSectorShift :=
    word16_fields (k := 6) rfl (by simp [fields, signature])
  have hdirectory := word32_of_fields (h := h) (k := 0) hr (by decide) rfl
  have hfat := word32_of_fields (h := h) (k := 1) hr (by decide) rfl
  have hfirst := word32_of_fields (h := h) (k := 2) hr (by decide) rfl
  have htransaction := word32_of_fields (h := h) (k := 3) hr (by decide) rfl
  have hcutoff := word32_of_fields (h := h) (k := 4) hr (by decide) rfl
  have hmini := word32_of_fields (h := h) (k := 5) hr (by decide) rfl
  have hcount := word32_of_fields (h := h) (k := 6) hr (by decide) rfl
  have hdifat := word32_of_fields (h := h) (k := 7) hr (by decide) rfl
  have hdifats := word32_of_fields (h := h) (k := 8) hr (by decide) rfl
  have hinline := inlineDifat_of_fields (h := h) hr
  generalize ofList (h.fields reserved).flatten = b at *
  unfold parse
  refine guard_eq_ok_iff.2 ⟨not_not.2 hsignature, ?_⟩
  refine guard_eq_ok_iff.2 ⟨not_not.2 hmark, ?_⟩
  refine guard_eq_ok_iff.2 ⟨?_, ?_⟩
  · rw [hshift]
    cases h.version <;> decide
  refine guard_eq_ok_iff.2 ⟨by rw [hshort]; decide, ?_⟩
  refine bind_eq_ok_iff.2 ⟨h.version, by rw [hmajor, hshift, version?_eq], ?_⟩
  refine guard_eq_ok_iff.2 ⟨fun ⟨hversion, hne⟩ => ?_, ?_⟩
  · exact hne (hdirectory.trans (hs.directorySectors_eq hversion))
  refine guard_eq_ok_iff.2 ⟨fun hzero => hs.miniStreamCutoff_ne (hcutoff.symm.trans hzero), ?_⟩
  rw [hclsid, hminor, hdirectory, hfat, hfirst, htransaction, hcutoff, hmini, hcount, hdifat,
    hdifats, hinline]
  rfl

end Written

end Header

/-! ## Records -/

namespace Directory.Entry

/-- The fields of a record, in order. Name, type and size are given as they are written. -/
def fields (e : Entry) (name : List UInt8) (length : UInt16) (tag : UInt8) (size : UInt64) :
    List (List UInt8) :=
  [name, toLE 2 length.toNat, [tag], [e.color], toLE 4 e.left.toNat, toLE 4 e.right.toNat,
    toLE 4 e.child.toNat, e.clsid.bytes.toList, toLE 4 e.state.toNat, toLE 8 e.createdTicks.toNat,
    toLE 8 e.modifiedTicks.toNat, toLE 4 e.startSector.toNat, toLE 8 size.toNat]

/-- Name, type and size of an entry are written as it has them. -/
structure Written (e : Entry) (major : UInt16) (name : List UInt8) (length : UInt16) (tag : UInt8)
    (size : UInt64) : Prop where
  name_length : name.length = nameSize
  type_eq : EntryType.ofByte tag = e.type
  name_eq : if e.type = .empty then e.name = "" else
    length.toNat ≤ nameSize ∧ length.toNat % 2 = 0 ∧ e.name = nameOfBytes (name.take length.toNat)
  size_eq : e.size = declaredSize major e.type size

section Written

variable {e : Entry} {major : UInt16} {name : List UInt8} {length : UInt16} {tag : UInt8}
  {size : UInt64} (hw : e.Written major name length tag size)
include hw

theorem length_fields : (e.fields name length tag size).flatten.length = recordSize := by
  simp [fields, recordSize, hw.name_length, nameSize]

theorem parseName_of_fields :
    parseName (ofList (e.fields name length tag size).flatten) e.sid e.type = .ok e.name := by
  have hlength : word16 (ofList (e.fields name length tag size).flatten) 0x40 = length :=
    word16_fields (k := 1) rfl (by simp [fields, hw.name_length, nameSize])
  have hname := hw.name_eq
  unfold parseName
  rw [hlength]
  split at hname
  next hempty => rw [if_pos hempty, hname]
  next hused =>
    obtain ⟨hle, heven, hname⟩ := hname
    have hwindow := window_append [] (name.take length.toNat)
      (name.drop length.toNat ++ ((e.fields name length tag size).drop 1).flatten)
    rw [List.nil_append, ← List.append_assoc, List.take_append_drop, List.length_take,
      hw.name_length, Nat.min_eq_left hle] at hwindow
    rw [if_neg hused, if_neg (by omega), hname]
    exact congrArg (fun l => Except.ok (nameOfBytes l)) hwindow

/-- **A written record is decoded to its entry.** -/
theorem parse_fields :
    parse (ofList (e.fields name length tag size).flatten) e.sid major = .ok e := by
  have hname := parseName_of_fields hw
  have hn := hw.name_length
  unfold nameSize at hn
  have htag : byteAt (ofList (e.fields name length tag size).flatten) 0x42 = tag :=
    byteAt_fields (k := 2) rfl (by simp [fields, hn])
  have hcolor : byteAt (ofList (e.fields name length tag size).flatten) 0x43 = e.color :=
    byteAt_fields (k := 3) rfl (by simp [fields, hn])
  have hleft : word32 (ofList (e.fields name length tag size).flatten) 0x44 = e.left :=
    word32_fields (k := 4) rfl (by simp [fields, hn])
  have hright : word32 (ofList (e.fields name length tag size).flatten) 0x48 = e.right :=
    word32_fields (k := 5) rfl (by simp [fields, hn])
  have hchild : word32 (ofList (e.fields name length tag size).flatten) 0x4C = e.child :=
    word32_fields (k := 6) rfl (by simp [fields, hn])
  have hclsid : ClassId.read (ofList (e.fields name length tag size).flatten) 0x50 = e.clsid :=
    ClassId.read_fields (k := 7) rfl (by simp [fields, hn])
  have hstate : word32 (ofList (e.fields name length tag size).flatten) 0x60 = e.state :=
    word32_fields (k := 8) rfl (by simp [fields, hn])
  have hcreated : word64 (ofList (e.fields name length tag size).flatten) 0x64 = e.createdTicks :=
    word64_fields (k := 9) rfl (by simp [fields, hn])
  have hmodified : word64 (ofList (e.fields name length tag size).flatten) 0x6C =
      e.modifiedTicks := word64_fields (k := 10) rfl (by simp [fields, hn])
  have hstart : word32 (ofList (e.fields name length tag size).flatten) 0x74 = e.startSector :=
    word32_fields (k := 11) rfl (by simp [fields, hn])
  have hsize : word64 (ofList (e.fields name length tag size).flatten) 0x78 = size :=
    word64_fields (k := 12) rfl (by simp [fields, hn])
  have hrecord : (ofList (e.fields name length tag size).flatten).size = recordSize := by
    rw [size_ofList, length_fields hw]
  generalize ofList (e.fields name length tag size).flatten = b at *
  unfold parse
  refine guard_eq_ok_iff.2 ⟨not_not.2 hrecord, ?_⟩
  refine bind_eq_ok_iff.2 ⟨e.name, by rw [htag, hw.type_eq, hname], ?_⟩
  rw [htag, hcolor, hleft, hright, hchild, hclsid, hstate, hcreated, hmodified, hstart, hsize,
    hw.type_eq, ← hw.size_eq]
  rfl

end Written

end Directory.Entry

namespace Directory.Tree

/-- A directory is decoded from written records once each of them is decoded, the root is found and
the families are listed. -/
theorem parse_flatten {records : List (List UInt8)} {es : List Entry} {major : UInt16}
    {strict : Bool} {root : UInt32} (families : List Family) {reachable : Marks es.toArray.size}
    (hne : records ≠ []) (hlength : ∀ r ∈ records, r.length = Entry.recordSize)
    (hentries : List.Forall₂ (fun r e => Entry.parse r.1 (UInt32.ofNat r.2) major = .ok e)
      (records.map ofList).zipIdx es)
    (hroot : findRoot es = .ok root)
    (hlink : link es.toArray [root] #[] ((Marks.clear es.toArray.size).mark root.toNat) =
      .ok (families, reachable)) :
    parse (ofList records.flatten) major strict =
      .ok (⟨es.toArray, table es.toArray.size families, root, reachable⟩,
        if strict then irregularities es.toArray root families else []) := by
  have hsize : ¬(ofList records.flatten).size < Entry.recordSize := by
    rw [size_ofList, length_flatten_of_forall hlength, Nat.not_lt]
    exact Nat.le_mul_of_pos_right _ (List.length_pos_of_ne_nil hne)
  have hparse : parseEntries (ofList records.flatten) major = .ok es := by
    rw [parseEntries, chunks_flatten (by decide) hlength]
    exact mapM_eq_ok_iff.2 hentries
  unfold parse
  refine guard_eq_ok_iff.2 ⟨hsize, bind_eq_ok_iff.2 ⟨es, hparse, ?_⟩⟩
  exact bind_eq_ok_iff.2 ⟨root, hroot, bind_eq_ok_iff.2 ⟨_, hlink, rfl⟩⟩

end Directory.Tree

/-! ## A file -/

namespace Sample

open Directory Fetch

def header : Header where
  clsid := ⟨Vector.replicate 16 0⟩
  minorVersion := 0x3E
  version := .three
  directorySectors := 0
  fatSectors := 1
  firstDirectorySector := 1
  transactionSignature := 0
  miniStreamCutoff := 65
  firstMiniFatSector := 2
  miniFatSectors := 1
  firstDifatSector := endOfChainMark
  difatSectors := 0
  inlineDifat := (Vector.replicate 109 freeMark).set 0 0

/-- An entry without a sibling on its left. -/
def entry (sid : UInt32) (name : String) (type : EntryType) (right child start : UInt32)
    (size : UInt64) : Entry where
  sid := sid
  name := name
  type := type
  color := 0
  left := noEntry
  right := right
  child := child
  clsid := ⟨Vector.replicate 16 0⟩
  state := 0
  createdTicks := 0
  modifiedTicks := 0
  startSector := start
  size := size

def root : Entry := entry 0 "R" .root noEntry 1 3 100

def short : Entry := entry 1 "S" .stream 2 noEntry 1 64

def long : Entry := entry 2 "T" .stream noEntry noEntry 4 70

def unused : Entry := entry 3 "" .empty noEntry noEntry 0 0

/-- The record of an entry with a name of at most one letter. -/
def record (e : Entry) (letter tag : UInt8) : List UInt8 :=
  (e.fields (fill 64 0 [letter]) 4 tag e.size).flatten

def records : List (List UInt8) :=
  [record root 0x52 5, record short 0x53 2, record long 0x54 2, record unused 0 0]

/-- The words of the FAT and of the MiniFAT. -/
def fatWords : List UInt32 :=
  [fatMark, endOfChainMark, endOfChainMark, endOfChainMark, endOfChainMark] ++
    List.replicate 123 freeMark

def miniWords : List UInt32 := [endOfChainMark, endOfChainMark] ++ List.replicate 126 freeMark

def headerBlock : List UInt8 := (header.fields (List.replicate 6 0)).flatten

def directory : List UInt8 := records.flatten

def blocks : List (List UInt8) :=
  [headerBlock, ofWords fatWords, directory, ofWords miniWords, (List.range 512).map UInt8.ofNat,
    (List.range 70).map UInt8.ofNat]

def bytes : List UInt8 := blocks.flatten

/-- What loading the file yields. -/
def contents : Contents where
  size := 2630
  header := header
  fat := ⟨.fat, fatWords.toArray, 5⟩
  mini := some ⟨⟨.miniFat, miniWords.toArray, 2⟩, #[3], 100⟩
  tree := ⟨#[root, short, long, unused], #[[1, 2], [], [], []], 0, ⟨#v[true, true, true, false]⟩⟩
  warnings := []

theorem length_record {e : Entry} {letter tag : UInt8}
    (h : e.Written 3 (fill 64 0 [letter]) 4 tag e.size) : (record e letter tag).length = 128 :=
  Entry.length_fields h

theorem written_root : root.Written 3 (fill 64 0 [0x52]) 4 5 root.size := by
  constructor <;> decide

theorem written_short : short.Written 3 (fill 64 0 [0x53]) 4 2 short.size := by
  constructor <;> decide

theorem written_long : long.Written 3 (fill 64 0 [0x54]) 4 2 long.size := by
  constructor <;> decide

theorem written_unused : unused.Written 3 (fill 64 0 [0]) 4 0 unused.size := by
  constructor <;> decide

theorem length_of_mem_records : ∀ r ∈ records, r.length = 128 := by
  simp [records, length_record written_root, length_record written_short,
    length_record written_long, length_record written_unused]

theorem length_headerBlock : headerBlock.length = 512 := Header.length_fields rfl

theorem length_directory : directory.length = 512 := by
  rw [directory, List.length_flatten, List.map_congr_left length_of_mem_records]
  rfl

theorem parse_directory : Tree.parse (ofList directory) 3 false = .ok (contents.tree, []) :=
  Tree.parse_flatten [⟨0, [1, 2]⟩] (List.cons_ne_nil _ _) length_of_mem_records
    (.cons (Entry.parse_fields written_root) (.cons (Entry.parse_fields written_short)
      (.cons (Entry.parse_fields written_long) (.cons (Entry.parse_fields written_unused) .nil))))
    (by decide) (by decide +kernel)

theorem length_blocks : ∀ b ∈ blocks.take 5, b.length = 512 := by
  simp [blocks, length_headerBlock, length_directory, fatWords, miniWords]

theorem length_bytes : bytes.length = 2630 := by
  have h := length_blocks
  simp only [blocks, List.take, List.forall_mem_cons] at h
  obtain ⟨h₀, h₁, h₂, h₃, h₄, -⟩ := h
  simp [bytes, blocks, h₀, h₁, h₂, h₃]

/-- A chain of one of the sectors that are read when the file is loaded. -/
theorem yields_readChain {block : List UInt8} (sector : UInt32) (hlt : sector.toNat < 4)
    (hk : blocks[sector.toNat + 1]? = some block) :
    Yields (.ofList bytes) (header.readChain 5 [sector]) (.ok (ofList block)) :=
  yields_readChain_flatten length_blocks (by omega) (by omega) hk

theorem yields_loadHeader : Yields (.ofList bytes) (Contents.loadHeader 2630) (.ok header) := by
  unfold Contents.loadHeader
  rw [if_neg (by decide)]
  refine (yields_readExactAt_ofList bytes (by rw [length_bytes]; decide)).bind ?_
  refine yields_ofExcept_ok _ ?_
  have hblock : (bytes.drop (512 * 0)).take 512 = headerBlock :=
    drop_take_flatten (by simp) rfl length_headerBlock
  rw [show (bytes.drop 0).take Header.size = headerBlock from hblock]
  exact Header.parse_fields rfl ⟨fun _ => rfl, by decide⟩

theorem yields_fatLoad : Yields (.ofList bytes) (Fat.load header 5) (.ok contents.fat) := by
  have hlocations : Yields (.ofList bytes) (Fat.locations header 5) (.ok #[0]) := by
    refine (yields_ofExcept_ok (a := #[0]) _ (by decide)).bind ?_
    exact yields_pure _
  refine hlocations.bind ((yields_readChain 0 (by decide) rfl).bind ?_)
  rw [words32_ofWords]
  exact yields_pure _

theorem yields_loadDirectory :
    Yields (.ofList bytes) (Contents.loadDirectory header contents.fat false)
      (.ok (contents.tree, [])) := by
  refine (yields_ofExcept_ok (a := [1]) _ (by decide +kernel)).bind ?_
  exact (yields_readChain 1 (by decide) rfl).bind (yields_ofExcept_ok _ parse_directory)

theorem yields_miniLoad :
    Yields (.ofList bytes) (MiniStream.load header contents.fat root) (.ok contents.mini) := by
  unfold MiniStream.load
  rw [if_neg (by decide)]
  refine (yields_ofExcept_ok (a := [3]) _ (by decide +kernel)).bind ?_
  refine (yields_ofExcept_ok (a := [2]) _ (by decide +kernel)).bind ?_
  refine (yields_readChain 2 (by decide) rfl).bind ?_
  rw [words32_ofWords]
  exact yields_pure _

/-- **The file is loaded as it was written.** -/
theorem yields_load : Yields (.ofList bytes) (Contents.load ⟨false, .ascii⟩) (.ok contents) := by
  have hsize : Yields (.ofList bytes) size (.ok 2630) := by
    have h := yields_size (m := .ofList bytes)
    rwa [show (Medium.ofList bytes).bytes = ofList bytes from rfl, size_ofList,
      length_bytes] at h
  refine hsize.bind (yields_loadHeader.bind (yields_fatLoad.bind (yields_loadDirectory.bind ?_)))
  exact Yields.bind yields_miniLoad (yields_pure _)

/-- A source of the file. -/
def source : Source := .ofMedium (.ofList bytes) .steady

theorem openSource_eq : ∃ source', source'.medium = .ofList bytes ∧
    (Session.new ⟨false, .ascii⟩).openSource source =
      (.ok (), ⟨⟨false, .ascii⟩, some ⟨contents, source'⟩⟩) := by
  have hload : Yields source.medium (Contents.load ⟨false, .ascii⟩) (.ok contents) := yields_load
  exact Session.openSource_of_yields hload

/-! ## A stream that is torn -/

/-- The header of a file without short sectors. -/
def tornHeader : Header :=
  { header with firstMiniFatSector := endOfChainMark, miniFatSectors := 0 }

def tornRoot : Entry := entry 0 "R" .root noEntry 1 endOfChainMark 0

/-- A stream of 600 bytes in two sectors. -/
def torn : Entry := entry 1 "T" .stream noEntry noEntry 2 600

def tornRecords : List (List UInt8) :=
  [record tornRoot 0x52 5, record torn 0x54 2, record { unused with sid := 2 } 0 0,
    record unused 0 0]

def tornFatWords : List UInt32 :=
  [fatMark, endOfChainMark, 3, endOfChainMark] ++ List.replicate 124 freeMark

def tornHeaderBlock : List UInt8 := (tornHeader.fields (List.replicate 6 0)).flatten

def tornDirectory : List UInt8 := tornRecords.flatten

/-- The second sector of the stream has 40 bytes only: the file ends there. -/
def tornBlocks : List (List UInt8) :=
  [tornHeaderBlock, ofWords tornFatWords, tornDirectory, (List.range 512).map UInt8.ofNat,
    (List.range 40).map UInt8.ofNat]

def tornBytes : List UInt8 := tornBlocks.flatten

/-- What loading the file yields. -/
def tornContents : Contents where
  size := 2088
  header := tornHeader
  fat := ⟨.fat, tornFatWords.toArray, 4⟩
  mini := none
  tree := ⟨#[tornRoot, torn, { unused with sid := 2 }, unused], #[[1], [], [], []], 0,
    ⟨#v[true, true, false, false]⟩⟩
  warnings := []

theorem written_tornRoot : tornRoot.Written 3 (fill 64 0 [0x52]) 4 5 tornRoot.size := by
  constructor <;> decide

theorem written_torn : torn.Written 3 (fill 64 0 [0x54]) 4 2 torn.size := by
  constructor <;> decide

theorem written_unused_two :
    { unused with sid := 2 : Entry }.Written 3 (fill 64 0 [0]) 4 0 unused.size := by
  constructor <;> decide

theorem length_of_mem_tornRecords : ∀ r ∈ tornRecords, r.length = 128 := by
  simp [tornRecords, length_record written_tornRoot, length_record written_torn,
    length_record written_unused_two, length_record written_unused]

theorem length_tornDirectory : tornDirectory.length = 512 := by
  rw [tornDirectory, List.length_flatten, List.map_congr_left length_of_mem_tornRecords]
  rfl

theorem parse_tornDirectory :
    Tree.parse (ofList tornDirectory) 3 false = .ok (tornContents.tree, []) :=
  Tree.parse_flatten [⟨0, [1]⟩] (List.cons_ne_nil _ _) length_of_mem_tornRecords
    (.cons (Entry.parse_fields written_tornRoot) (.cons (Entry.parse_fields written_torn)
      (.cons (Entry.parse_fields written_unused_two) (.cons (Entry.parse_fields written_unused)
        .nil))))
    (by decide) (by decide +kernel)

theorem length_tornHeaderBlock : tornHeaderBlock.length = 512 := Header.length_fields rfl

theorem length_tornBlocks : ∀ b ∈ tornBlocks.take 4, b.length = 512 := by
  simp [tornBlocks, length_tornHeaderBlock, length_tornDirectory, tornFatWords]

theorem length_tornBytes : tornBytes.length = 2088 := by
  have h := length_tornBlocks
  simp only [tornBlocks, List.take, List.forall_mem_cons] at h
  obtain ⟨h₀, h₁, h₂, -⟩ := h
  simp [tornBytes, tornBlocks, h₀, h₁, h₂]

theorem yields_loadHeader_torn :
    Yields (.ofList tornBytes) (Contents.loadHeader 2088) (.ok tornHeader) := by
  unfold Contents.loadHeader
  rw [if_neg (by decide)]
  refine (yields_readExactAt_ofList tornBytes (by rw [length_tornBytes]; decide)).bind ?_
  refine yields_ofExcept_ok _ ?_
  have hblock : (tornBytes.drop (512 * 0)).take 512 = tornHeaderBlock :=
    drop_take_flatten (by simp) rfl length_tornHeaderBlock
  rw [show (tornBytes.drop 0).take Header.size = tornHeaderBlock from hblock]
  exact Header.parse_fields rfl ⟨fun _ => rfl, by decide⟩

theorem yields_fatLoad_torn :
    Yields (.ofList tornBytes) (Fat.load tornHeader 4) (.ok tornContents.fat) := by
  have hlocations : Yields (.ofList tornBytes) (Fat.locations tornHeader 4) (.ok #[0]) := by
    refine (yields_ofExcept_ok (a := #[0]) _ (by decide)).bind ?_
    exact yields_pure _
  refine hlocations.bind ?_
  refine (yields_readChain_flatten length_tornBlocks (by decide) (by decide) rfl).bind ?_
  rw [words32_ofWords]
  exact yields_pure _

theorem yields_loadDirectory_torn :
    Yields (.ofList tornBytes) (Contents.loadDirectory tornHeader tornContents.fat false)
      (.ok (tornContents.tree, [])) := by
  refine (yields_ofExcept_ok (a := [1]) _ (by decide +kernel)).bind ?_
  refine (yields_readChain_flatten length_tornBlocks (by decide) (by decide) rfl).bind ?_
  exact yields_ofExcept_ok _ parse_tornDirectory

theorem yields_load_torn :
    Yields (.ofList tornBytes) (Contents.load ⟨false, .ascii⟩) (.ok tornContents) := by
  have hsize : Yields (.ofList tornBytes) size (.ok 2088) := by
    have h := yields_size (m := .ofList tornBytes)
    rwa [show (Medium.ofList tornBytes).bytes = ofList tornBytes from rfl, size_ofList,
      length_tornBytes] at h
  refine hsize.bind (yields_loadHeader_torn.bind (yields_fatLoad_torn.bind
    (yields_loadDirectory_torn.bind ?_)))
  exact Yields.bind (yields_pure none) (yields_pure _)

theorem openSource_torn : ∃ source', source'.medium = .ofList tornBytes ∧
    (Session.new ⟨false, .ascii⟩).openSource (.ofMedium (.ofList tornBytes) .steady) =
      (.ok (), ⟨⟨false, .ascii⟩, some ⟨tornContents, source'⟩⟩) := by
  have hload : Yields (Source.ofMedium (.ofList tornBytes) .steady).medium
      (Contents.load ⟨false, .ascii⟩) (.ok tornContents) := yields_load_torn
  exact Session.openSource_of_yields hload

end Sample

end CompoundFile
