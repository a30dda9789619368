import CompoundFile.Proofs.Layout
import CompoundFile.Proofs.Sectors

/-!
# The loaded FAT

The header and the DIFAT say where the FAT is (`Fat.described`): the locations in the header up to
the first mark, and then those in the DIFAT sectors, where marks are skipped. The DIFAT sectors are
chained by their last words (`Fat.DifatChain`). What is loaded are the words of the sectors at these
locations, one behind the other.

Main result: `Fat.load_exact`.
-/

namespace CompoundFile

open Bytes Fetch

namespace Fat

variable {h : Header} {image : ByteArray} {count : Nat}

/-! ## Locations -/

/-- A word in a list of locations that is one. The others fill the list. -/
def IsLocation (word : UInt32) : Prop := word ≠ freeMark ∧ word ≠ endOfChainMark

instance : DecidablePred IsLocation := fun _ => inferInstanceAs (Decidable (_ ∧ _))

/-- The DIFAT sectors from one on, in order: the last word of each leads to the next. -/
inductive DifatChain (h : Header) (image : ByteArray) : UInt32 → List UInt32 → Prop
  | done {link : UInt32} : ¬IsLocation link → DifatChain h image link []
  | sector {link : UInt32} {rest : List UInt32} : IsLocation link →
      DifatChain h image (h.slot image link (h.entriesPerSector - 1)) rest →
      DifatChain h image link (link :: rest)

/-- The DIFAT sectors of a file, in order. There are none if the header declares none. -/
def HasDifat (h : Header) (image : ByteArray) (difat : List UInt32) : Prop :=
  if h.difatSectors = 0 then difat = [] else DifatChain h image h.firstDifatSector difat

/-- The locations in a DIFAT sector: its words but the last, without the marks. -/
def locationsIn (h : Header) (image : ByteArray) (sector : UInt32) : List UInt32 :=
  ((List.range (h.entriesPerSector - 1)).map (h.slot image sector)).filter (IsLocation ·)

/-- The locations of the FAT that the header and the DIFAT sectors describe. -/
def described (h : Header) (image : ByteArray) (difat : List UInt32) : List UInt32 :=
  h.inlineDifat.toList.takeWhile (IsLocation ·) ++ difat.flatMap (locationsIn h image)

theorem isMark_iff (word : UInt32) : isMark word = true ↔ ¬IsLocation word := by
  unfold isMark IsLocation
  simp only [Bool.or_eq_true, beq_iff_eq]
  tauto

theorem not_isMark (word : UInt32) : (!isMark word) = decide (IsLocation word) := by
  rw [Bool.eq_iff_iff, Bool.not_eq_true', ← Bool.not_eq_true, isMark_iff, decide_eq_true_eq,
    not_not]

theorem DifatChain.unique {link : UInt32} {difat difat' : List UInt32}
    (hd : DifatChain h image link difat) (hd' : DifatChain h image link difat') :
    difat = difat' := by
  induction hd generalizing difat' with
  | done hmark =>
    cases hd' with
    | done => rfl
    | sector hlocation => exact absurd hlocation hmark
  | sector hlocation _ ih =>
    cases hd' with
    | done hmark => exact absurd hlocation hmark
    | sector _ hrest => rw [ih hrest]

theorem HasDifat.unique {difat difat' : List UInt32} (hd : HasDifat h image difat)
    (hd' : HasDifat h image difat') : difat = difat' := by
  unfold HasDifat at hd hd'
  split at hd
  next hzero =>
    rw [if_pos hzero] at hd'
    rw [hd, hd']
  next hsome =>
    rw [if_neg hsome] at hd'
    exact hd.unique hd'

/-! ## Collecting -/

/-- Some locations were appended to those found, of which not more than `declared` are allowed. -/
structure Adds (declared : Nat) (found : Array UInt32) (locations : List UInt32)
    (found' : Array UInt32) : Prop where
  toList : found'.toList = found.toList ++ locations
  le_declared : found.size ≤ declared → found'.size ≤ declared

namespace Adds

variable {declared : Nat} {found found' found'' : Array UInt32} {locations locations' : List UInt32}

theorem nothing (declared : Nat) (found : Array UInt32) : Adds declared found [] found :=
  ⟨by rw [List.append_nil], id⟩

theorem append (ha : Adds declared found locations found')
    (ha' : Adds declared found' locations' found'') :
    Adds declared found (locations ++ locations') found'' :=
  ⟨by rw [ha'.toList, ha.toList, List.append_assoc], fun hle => ha'.le_declared (ha.le_declared hle)⟩

theorem of_add {location : UInt32} (ha : add declared found location = .ok found') :
    Adds declared found [location] found' := by
  unfold add at ha
  split at ha
  next => cases ha
  next =>
    split at ha
    next => cases ha
    next hroom =>
      cases ha
      refine ⟨Array.toList_push, fun _ => ?_⟩
      rw [Array.size_push]
      omega

theorem of_foldlM (ha : locations.foldlM (add declared) found = .ok found') :
    Adds declared found locations found' := by
  induction locations generalizing found with
  | nil =>
    cases ha
    exact nothing _ _
  | cons location locations ih =>
    rw [List.foldlM_cons] at ha
    obtain ⟨_, hfirst, hrest⟩ := bind_eq_ok_iff.1 ha
    exact (of_add hfirst).append (ih hrest)

end Adds

/-! ## The DIFAT -/

section Words

variable {sector : UInt32} {data : ByteArray} (hs : Sectors h image [sector] data)
include hs

theorem getElem?_words32_of_sector {r : Nat} (hr : r < h.entriesPerSector) :
    (words32 data)[r]? = some (h.slot image sector r) := by
  have hword := hs.getElem?_words32 (k := 0) rfl hr
  rwa [Nat.zero_mul, Nat.zero_add] at hword

theorem difatLocations_eq : difatLocations h (words32 data) = locationsIn h image sector := by
  have hslots : (words32 data).toList.take (h.entriesPerSector - 1) =
      (List.range (h.entriesPerSector - 1)).map (h.slot image sector) := by
    refine List.ext_getElem? fun r => ?_
    by_cases hr : r < h.entriesPerSector - 1
    · rw [List.getElem?_take_of_lt hr, Array.getElem?_toList,
        getElem?_words32_of_sector hs (by omega), List.getElem?_map, List.getElem?_range hr]
      rfl
    · rw [List.getElem?_eq_none (by simp; omega), List.getElem?_eq_none (by simp; omega)]
  unfold difatLocations locationsIn
  simp only [hslots, not_isMark]

theorem difatLink_eq :
    difatLink h (words32 data) = h.slot image sector (h.entriesPerSector - 1) := by
  have hpos : 0 < h.entriesPerSector := by
    have := h.four_mul_entriesPerSector
    have := h.sectorSize_pos
    omega
  rw [difatLink, getElem?_words32_of_sector hs (by omega)]
  rfl

end Words

/-- **Following the DIFAT** appends the locations in its sectors. -/
theorem followDifat_ok {m : Medium} {link : UInt32} {visited : List UInt32}
    {found found' : Array UInt32}
    (hread : Yields m (followDifat h count link visited found) (.ok found')) :
    ∃ difat, DifatChain h m.bytes link difat ∧
      Adds h.fatSectors.toNat found (difat.flatMap (locationsIn h m.bytes)) found' := by
  fun_induction followDifat h count link visited found with
  | case1 link visited found hmark =>
    obtain rfl := hread.of_pure
    exact ⟨[], .done ((isMark_iff link).1 hmark), .nothing _ _⟩
  | case2 => cases hread.eq (yields_throw _)
  | case3 => cases hread.eq (yields_throw _)
  | case4 => cases hread.eq (yields_throw _)
  | case5 link visited found hmark _ _ _ ih =>
    have hadd : ∀ found locations, Steady (addAll h.fatSectors.toNat found locations) :=
      fun _ _ => steady_ofExcept _ _
    obtain ⟨data, hdata, hread⟩ := hread.of_bind (steady_readSector h count link)
      fun _ => (hadd _ _).bind fun _ => steady_followDifat _ _ _ _ _
    obtain ⟨next, hnext, hread⟩ := hread.of_bind (hadd _ _)
      fun _ => steady_followDifat _ _ _ _ _
    obtain ⟨-, hsector⟩ := Sectors.of_readSector hdata
    obtain ⟨difat, hchain, hadds⟩ := ih data next hread
    rw [difatLink_eq hsector] at hchain
    have hfirst := Adds.of_foldlM hnext.of_ofExcept
    rw [difatLocations_eq hsector] at hfirst
    refine ⟨link :: difat, .sector ?_ hchain, hfirst.append hadds⟩
    rwa [isMark_iff, not_not] at hmark

/-- The locations that are found are those that the header and the DIFAT describe. -/
theorem locations_ok {m : Medium} {found : Array UInt32}
    (hread : Yields m (locations h count) (.ok found)) :
    ∃ difat, HasDifat h m.bytes difat ∧ found.toList = described h m.bytes difat ∧
      found.size ≤ h.fatSectors.toNat := by
  have hinline : inlineLocations h = h.inlineDifat.toList.takeWhile (IsLocation ·) := by
    unfold inlineLocations
    simp only [not_isMark]
  unfold locations at hread
  obtain ⟨found', hfound', hread⟩ := hread.of_bind (steady_ofExcept _ _) fun _ => by
    split
    · exact steady_pure _
    · exact steady_followDifat _ _ _ _ _
  have hfirst := Adds.of_foldlM hfound'.of_ofExcept
  rw [hinline] at hfirst
  have hlist := hfirst.toList
  rw [List.nil_append] at hlist
  split at hread
  next hzero =>
    obtain rfl := hread.of_pure
    refine ⟨[], by rw [HasDifat, if_pos hzero], ?_, hfirst.le_declared (Nat.zero_le _)⟩
    rw [hlist, described, List.flatMap_nil, List.append_nil]
  next hsome =>
    obtain ⟨difat, hchain, hadds⟩ := followDifat_ok hread
    refine ⟨difat, ?_, ?_, hadds.le_declared (hfirst.le_declared (Nat.zero_le _))⟩
    · rwa [HasDifat, if_neg hsome]
    · rw [hadds.toList, hlist, described]

/-! ## Loading -/

/-- **The loaded FAT is the described one.** The DIFAT sectors are determined by the file, and so are
the locations that the header and these sectors describe. There are no more of them than the header
declares, all are sectors of the file, and the entries of the FAT are the words there, zero past the
end of the file. There are no other entries. -/
theorem load_exact {source source' : Source} {fat : AllocationTable}
    (hload : (load h count).run source = (.ok fat, source')) :
    ∃ difat, HasDifat h source.medium.bytes difat ∧
      (∀ difat', HasDifat h source.medium.bytes difat' → difat' = difat) ∧
      let locations := described h source.medium.bytes difat
      let perSector := h.sectorSize / 4
      locations.length ≤ h.fatSectors.toNat ∧ (∀ l ∈ locations, l.toNat < count) ∧
        fat.size = locations.length * perSector ∧ fat.capacity = count ∧
        (∀ i : UInt32, i.toNat < locations.length * perSector →
          ∃ l, locations[i.toNat / perSector]? = some l ∧
            fat.entry? i = some (word32 source.medium.bytes
              ((l.toNat + 1) * h.sectorSize + 4 * (i.toNat % perSector)))) ∧
        ∀ i : UInt32, locations.length * perSector ≤ i.toNat → fat.entry? i = none := by
  have hread : Yields source.medium (load h count) (.ok fat) :=
    (steady_fatLoad h count).yields_of_run hload
  obtain ⟨found, hfound, hread⟩ := hread.of_bind (steady_locations h count)
    fun _ => (steady_readChain _ _ _).bind fun _ => steady_pure _
  obtain ⟨data, hdata, hread⟩ := hread.of_bind (steady_readChain _ _ _) fun _ => steady_pure _
  obtain rfl := hread.of_pure
  obtain ⟨difat, hdifat, hlist, hdeclared⟩ := locations_ok hfound
  obtain ⟨hcount, hsectors⟩ := Sectors.of_readChain hdata
  rw [hlist] at hcount hsectors
  have hsize := hsectors.size_words32
  refine ⟨difat, hdifat, fun _ h' => h'.unique hdifat, ?_, hcount, hsize, rfl, ?_, ?_⟩
  · rwa [← hlist, Array.length_toList]
  · intro i hi
    have hpos : 0 < h.entriesPerSector := Nat.pos_of_lt_mul_left hi
    have hlt := (Nat.div_lt_iff_lt_mul hpos).2 hi
    refine ⟨_, List.getElem?_eq_getElem hlt, ?_⟩
    have hword := hsectors.getElem?_words32 (List.getElem?_eq_getElem hlt)
      (Nat.mod_lt i.toNat hpos)
    rwa [Nat.div_add_mod'] at hword
  · intro i hi
    exact Array.getElem?_eq_none (hsize ▸ hi)

/-- A header with a location in it, a mark behind it, and more locations in a DIFAT sector. What
follows the mark in the header means nothing. -/
def sampleHeader : Header :=
  { Sample.header with
    fatSectors := 2
    firstDifatSector := 1
    difatSectors := 1
    inlineDifat := Sample.header.inlineDifat.set 2 7 }

def sampleDifat : List UInt32 :=
  [freeMark, 2] ++ List.replicate 125 freeMark ++ [endOfChainMark]

/-- The header, a sector of the FAT, the DIFAT sector, and another sector of the FAT, of which the
file has two words. -/
def sampleBlocks : List (List UInt8) :=
  [(sampleHeader.fields (List.replicate 6 0)).flatten, ofWords Sample.fatWords,
    ofWords sampleDifat, ofWords [3, endOfChainMark]]

def sampleBytes : List UInt8 := sampleBlocks.flatten

theorem length_sampleBlocks : ∀ b ∈ sampleBlocks.take 3, b.length = 512 := by
  refine List.forall_mem_cons.2 ⟨Header.length_fields rfl, ?_⟩
  simp [Sample.fatWords, sampleDifat]

theorem yields_readSector_difat :
    Yields (.ofList sampleBytes) (sampleHeader.readSector 3 1)
      (.ok (ofList (ofWords sampleDifat))) := by
  have hsector : sampleHeader.sectorBytes sampleBytes 1 = ofWords sampleDifat :=
    Header.sectorBytes_flatten
      (fun b hb => length_sampleBlocks b (List.take_subset_take_left _ (by decide) hb)) rfl
      (length_sampleBlocks _ (by simp [sampleBlocks]))
  have hlt : (1 : UInt32).toNat < 3 := by decide
  have hread := yields_readSector_ofList sampleBytes sampleHeader hlt
  rwa [hsector] at hread

theorem yields_load_sample :
    ∃ fat, Yields (.ofList sampleBytes) (load sampleHeader 3) (.ok fat) := by
  have hlocations : Yields (.ofList sampleBytes) (locations sampleHeader 3) (.ok #[0, 2]) := by
    refine (yields_ofExcept_ok (a := #[0]) _ (by decide)).bind ?_
    rw [if_neg (by decide)]
    unfold followDifat
    rw [if_neg (by decide), dif_neg (by decide), if_neg (by decide), if_neg List.not_mem_nil]
    refine yields_readSector_difat.bind ?_
    rw [words32_ofWords]
    refine (yields_ofExcept_ok (a := #[0, 2]) _ (by decide)).bind ?_
    unfold followDifat
    rw [if_pos (by decide +kernel)]
    exact yields_pure _
  have hchain : ∀ s ∈ (#[0, 2] : Array UInt32).toList, s.toNat < 3 := by simp
  exact ⟨_, hlocations.bind ((yields_readChain_ofList sampleBytes _ hchain).bind (yields_pure _))⟩

/-- A file whose second location is in the DIFAT, and that ends inside the sector there. -/
theorem load_exact_sample : ∃ source source' fat,
    source.medium = .ofList sampleBytes ∧
      (load sampleHeader 3).run source = (.ok fat, source') ∧
      HasDifat sampleHeader (ofList sampleBytes) [1] ∧
      described sampleHeader (ofList sampleBytes) [1] = [0, 2] ∧ fat.size = 256 ∧
      fat.entry? 128 = some 3 ∧ fat.entry? 130 = some 0 ∧ fat.entry? 256 = none := by
  obtain ⟨fat, hfat⟩ := yields_load_sample
  obtain ⟨source', -, hload⟩ := hfat (.ofMedium (.ofList sampleBytes) .steady) rfl
  have hsector : Sectors sampleHeader (ofList sampleBytes) [1] (ofList (ofWords sampleDifat)) :=
    (Sectors.of_readSector yields_readSector_difat).2
  have hdifat : HasDifat sampleHeader (ofList sampleBytes) [1] := by
    have hlink := difatLink_eq hsector
    rw [words32_ofWords] at hlink
    rw [HasDifat, if_neg (by decide)]
    refine .sector (by decide) (.done ?_)
    show ¬IsLocation (sampleHeader.slot _ 1 _)
    rw [← hlink]
    decide +kernel
  have hdescribed : described sampleHeader (ofList sampleBytes) [1] = [0, 2] := by
    have hlocations := difatLocations_eq hsector
    rw [words32_ofWords] at hlocations
    rw [described, List.flatMap_singleton, ← hlocations]
    decide +kernel
  refine ⟨_, source', fat, rfl, hload, hdifat, hdescribed, ?_⟩
  obtain ⟨difat, -, hunique, h⟩ := load_exact hload
  obtain rfl := hunique [1] hdifat
  dsimp only at h
  rw [show (Source.ofMedium (.ofList sampleBytes) .steady).medium.bytes = ofList sampleBytes from rfl,
    hdescribed] at h
  obtain ⟨-, -, hsize, -, hentry, hnone⟩ := h
  refine ⟨hsize, ?_, ?_, hnone 256 (by decide)⟩
  · obtain ⟨l, hl, hword⟩ := hentry 128 (by decide)
    obtain rfl : l = 2 := (Option.some.inj hl).symm
    refine hword.trans (congrArg some ?_)
    decide +kernel
  · obtain ⟨l, hl, hword⟩ := hentry 130 (by decide)
    obtain rfl : l = 2 := (Option.some.inj hl).symm
    refine hword.trans (congrArg some ?_)
    decide +kernel

end Fat

end CompoundFile
