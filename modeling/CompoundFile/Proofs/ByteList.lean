import CompoundFile.Proofs.LittleEndian
import CompoundFile.Proofs.Loading

/-!
# Files given as lists of bytes

A byte string that is written down as a list shows its parts. What is written as a number, a word
or a run of words somewhere in the list is found there (`holds_fields`, `word32_ofWords`), and what
is read of a file that is given as a list is again a part of the list, for sectors filled up with
zeros (`yields_readChain_ofList`).

**Places.** What is read at a position depends on the bytes that stand there only (`Holds`). Bytes
that are written one behind the other stand one behind the other.

**Fields.** A block is written as the list of its fields. The offset of a field is the length of
all fields before it.
-/

namespace CompoundFile

open Fetch

/-! ## Parts of a list -/

namespace Bytes

/-- The byte string with the given bytes. -/
def ofList (l : List UInt8) : ByteArray := ⟨l.toArray⟩

@[simp] theorem size_ofList (l : List UInt8) : (ofList l).size = l.length := by
  simp [ofList, ByteArray.size]

theorem ofList_append (l l' : List UInt8) : ofList l ++ ofList l' = ofList (l ++ l') := by
  refine ByteArray.ext ?_
  simp [ofList, ByteArray.data_append]

theorem extract_ofList (l : List UInt8) (offset length : Nat) :
    (ofList l).extract offset (offset + length) = ofList ((l.drop offset).take length) := by
  refine ByteArray.ext ?_
  simp [ofList, ByteArray.data_extract]

/-- A list of bytes filled up to a size. -/
def fill (size : Nat) (byte : UInt8) (l : List UInt8) : List UInt8 :=
  l ++ List.replicate (size - l.length) byte

theorem fill_of_length {size : Nat} {byte : UInt8} {l : List UInt8} (h : l.length = size) :
    fill size byte l = l := by
  simp [fill, h]

theorem padTo_ofList (size : Nat) (l : List UInt8) :
    padTo size (ofList l) = ofList (fill size 0 l) := by
  rw [padTo, size_ofList]
  refine ByteArray.ext ?_
  simp [replicate, ofList, fill, ByteArray.data_append]

theorem chunks_ofList (size : Nat) (l : List UInt8) :
    chunks size (ofList l) =
      (List.range (l.length / size)).map fun i => ofList ((l.drop (size * i)).take size) := by
  simp only [chunks, size_ofList, extract_ofList]

theorem byteAt_ofList (l : List UInt8) (i : Nat) : byteAt (ofList l) i = l[i]?.getD 0 := by
  unfold byteAt
  by_cases h : i < l.length
  · rw [dif_pos (by rwa [size_ofList]), List.getElem?_eq_getElem h]
    rfl
  · rw [dif_neg (by rwa [size_ofList]), List.getElem?_eq_none (by omega)]
    rfl

theorem window_append (before part after : List UInt8) :
    window (ofList (before ++ (part ++ after))) before.length part.length = part := by
  refine List.ext_getElem (by simp) fun i hi hi' => ?_
  simp only [window, List.getElem_map, List.getElem_range]
  rw [byteAt_ofList, List.getElem?_append_right (Nat.le_add_right _ _), Nat.add_sub_cancel_left,
    List.getElem?_append_left hi', List.getElem?_eq_getElem hi']
  rfl

/-! ## Places -/

/-- The bytes stand at a position of a byte string. -/
def Holds (b : ByteArray) (pos : Nat) (l : List UInt8) : Prop :=
  ∃ before after, b = ofList (before ++ (l ++ after)) ∧ before.length = pos

section Places

variable {b : ByteArray} {pos : Nat} {l l' : List UInt8}

theorem holds_ofList (l : List UInt8) : Holds (ofList l) 0 l := ⟨[], [], by simp, rfl⟩

namespace Holds

theorem left (h : Holds b pos (l ++ l')) : Holds b pos l := by
  obtain ⟨before, after, rfl, rfl⟩ := h
  exact ⟨before, l' ++ after, by simp, rfl⟩

theorem right (h : Holds b pos (l ++ l')) : Holds b (pos + l.length) l' := by
  obtain ⟨before, after, rfl, rfl⟩ := h
  exact ⟨before ++ l, after, by simp, by simp⟩

theorem add_length_le (h : Holds b pos l) : pos + l.length ≤ b.size := by
  obtain ⟨before, after, rfl, rfl⟩ := h
  simp only [size_ofList, List.length_append]
  omega

theorem window_eq (h : Holds b pos l) : window b pos l.length = l := by
  obtain ⟨before, after, rfl, rfl⟩ := h
  exact window_append before l after

theorem extract_eq (h : Holds b pos l) : b.extract pos (pos + l.length) = ofList l := by
  obtain ⟨before, after, rfl, rfl⟩ := h
  rw [extract_ofList, List.drop_left, List.take_left]

/-- Pieces of one size, one behind the other, stand at the multiples of the size. -/
theorem piece {size i : Nat} {pieces : List (List UInt8)} {piece : List UInt8}
    (h : Holds b pos pieces.flatten) (hsize : ∀ p ∈ pieces, p.length = size)
    (hi : pieces[i]? = some piece) : Holds b (pos + size * i) piece := by
  induction pieces generalizing pos i with
  | nil => cases hi
  | cons p pieces ih =>
    rw [List.flatten_cons] at h
    obtain ⟨hp, hsize⟩ := List.forall_mem_cons.1 hsize
    cases i with
    | zero =>
      cases hi
      exact h.left
    | succ i =>
      have hrest := ih h.right hsize hi
      rwa [hp, Nat.add_assoc, Nat.add_comm size, ← Nat.mul_succ] at hrest

end Holds

theorem byteAt_of_holds {v : UInt8} (h : Holds b pos [v]) : byteAt b pos = v := by
  have hwindow := h.window_eq
  simpa [window] using hwindow

theorem word16_of_holds {v : UInt16} (h : Holds b pos (toLE 2 v.toNat)) : word16 b pos = v := by
  have hwindow := h.window_eq
  rw [length_toLE] at hwindow
  rw [word16, hwindow, ofLE_toLE, Nat.mod_eq_of_lt (show v.toNat < 256 ^ 2 from v.toNat_lt),
    UInt16.ofNat_toNat]

theorem word32_of_holds {v : UInt32} (h : Holds b pos (toLE 4 v.toNat)) : word32 b pos = v := by
  have hwindow := h.window_eq
  rw [length_toLE] at hwindow
  rw [word32, hwindow, ofLE_toLE, Nat.mod_eq_of_lt (show v.toNat < 256 ^ 4 from v.toNat_lt),
    UInt32.ofNat_toNat]

theorem word64_of_holds {v : UInt64} (h : Holds b pos (toLE 8 v.toNat)) : word64 b pos = v := by
  have hwindow := h.window_eq
  rw [length_toLE] at hwindow
  rw [word64, hwindow, ofLE_toLE, Nat.mod_eq_of_lt (show v.toNat < 256 ^ 8 from v.toNat_lt),
    UInt64.ofNat_toNat]

theorem classId_of_holds {c : ClassId} (h : Holds b pos c.bytes.toList) : ClassId.read b pos = c := by
  refine congrArg ClassId.mk (Vector.ext fun i hi => ?_)
  rw [Vector.getElem_ofFn]
  have hbyte := congrArg (fun l : List UInt8 => l[i]?) h.window_eq
  simpa [window, hi] using hbyte

end Places

/-! ## Fields -/

theorem length_flatten_of_forall {size : Nat} {pieces : List (List UInt8)}
    (h : ∀ p ∈ pieces, p.length = size) : pieces.flatten.length = size * pieces.length := by
  rw [List.length_flatten, List.map_congr_left h, List.map_const', List.sum_replicate_nat,
    Nat.mul_comm]

/-- Pieces of one size, one behind the other, are found at the multiples of the size. -/
theorem drop_take_flatten {size k : Nat} {pieces : List (List UInt8)} {piece : List UInt8}
    (hbefore : ∀ p ∈ pieces.take k, p.length = size) (hk : pieces[k]? = some piece)
    (hpiece : piece.length = size) : (pieces.flatten.drop (size * k)).take size = piece := by
  induction pieces generalizing k with
  | nil => cases hk
  | cons p pieces ih =>
    cases k with
    | zero =>
      cases hk
      simp [hpiece]
    | succ k =>
      have hp : p.length = size := hbefore p (by simp)
      rw [List.flatten_cons, Nat.mul_succ, Nat.add_comm, ← List.drop_drop, ← hp, List.drop_left, hp]
      exact ih (fun q hq => hbefore q (by simp [hq])) hk

section Fields

variable {fields : List (List UInt8)} {k offset : Nat}

theorem split_fields {field : List UInt8} (hk : fields[k]? = some field) :
    fields = fields.take k ++ field :: fields.drop (k + 1) := by
  obtain ⟨hlt, rfl⟩ := List.getElem?_eq_some_iff.1 hk
  rw [← List.drop_eq_getElem_cons hlt, List.take_append_drop]

theorem chunks_flatten {size : Nat} (hpos : 0 < size) {pieces : List (List UInt8)}
    (h : ∀ p ∈ pieces, p.length = size) :
    chunks size (ofList pieces.flatten) = pieces.map ofList := by
  rw [chunks_ofList, length_flatten_of_forall h, Nat.mul_div_cancel_left _ hpos]
  refine List.ext_getElem (by simp) fun k hk hk' => ?_
  have hlt : k < pieces.length := by simpa using hk
  have hpiece := drop_take_flatten (fun p hp => h p (List.mem_of_mem_take hp))
    (List.getElem?_eq_getElem hlt) (h _ (List.getElem_mem hlt))
  simp only [List.getElem_map, List.getElem_range, hpiece]

theorem holds_fields {field : List UInt8} (hk : fields[k]? = some field)
    (hoffset : (fields.take k).flatten.length = offset) :
    Holds (ofList fields.flatten) offset field := by
  refine ⟨(fields.take k).flatten, (fields.drop (k + 1)).flatten, ?_, hoffset⟩
  rw [← List.flatten_cons, ← List.flatten_append, ← split_fields hk]

theorem window_fields {field : List UInt8} (hk : fields[k]? = some field)
    (hoffset : (fields.take k).flatten.length = offset) :
    window (ofList fields.flatten) offset field.length = field :=
  (holds_fields hk hoffset).window_eq

theorem word16_fields {v : UInt16} (hk : fields[k]? = some (toLE 2 v.toNat))
    (hoffset : (fields.take k).flatten.length = offset) :
    word16 (ofList fields.flatten) offset = v :=
  word16_of_holds (holds_fields hk hoffset)

theorem word32_fields {v : UInt32} (hk : fields[k]? = some (toLE 4 v.toNat))
    (hoffset : (fields.take k).flatten.length = offset) :
    word32 (ofList fields.flatten) offset = v :=
  word32_of_holds (holds_fields hk hoffset)

theorem word64_fields {v : UInt64} (hk : fields[k]? = some (toLE 8 v.toNat))
    (hoffset : (fields.take k).flatten.length = offset) :
    word64 (ofList fields.flatten) offset = v :=
  word64_of_holds (holds_fields hk hoffset)

theorem byteAt_fields {v : UInt8} (hk : fields[k]? = some [v])
    (hoffset : (fields.take k).flatten.length = offset) :
    byteAt (ofList fields.flatten) offset = v :=
  byteAt_of_holds (holds_fields hk hoffset)

/-- A run of little-endian words. -/
def ofWords (ws : List UInt32) : List UInt8 := (ws.map fun w => toLE 4 w.toNat).flatten

@[simp] theorem length_ofWords (ws : List UInt32) : (ofWords ws).length = 4 * ws.length := by
  simp [ofWords, Function.comp_def, Nat.mul_comm]

/-- A word of a run of words. -/
theorem word32_ofWords {ws : List UInt32} {i : Nat} (hk : fields[k]? = some (ofWords ws))
    (hoffset : (fields.take k).flatten.length = offset) (hi : i < ws.length) :
    word32 (ofList fields.flatten) (offset + 4 * i) = ws[i] := by
  refine word32_of_holds ((holds_fields hk hoffset).piece (fun p hp => ?_) (by simp [hi]))
  obtain ⟨w, -, rfl⟩ := List.mem_map.1 hp
  exact length_toLE 4 w.toNat

end Fields

theorem words32_ofWords (ws : List UInt32) : words32 (ofList (ofWords ws)) = ws.toArray := by
  refine Array.ext (by simp) fun i hi hi' => ?_
  have hlt : i < ws.length := by simpa using hi'
  have hrun : [ofWords ws][0]? = some (ofWords ws) := rfl
  have h := word32_ofWords hrun rfl hlt
  simpa [words32] using h

end Bytes

/-! ## Units -/

/-- Units that are written are read back. -/
theorem Text.Utf16.unitsOfBytes_flatMap (us : List UInt16) :
    unitsOfBytes (us.flatMap fun u => Bytes.toLE 2 u.toNat) = us := by
  induction us with
  | nil => rfl
  | cons u us ih =>
    have hu : UInt16.ofNat (Bytes.ofLE (Bytes.toLE 2 u.toNat)) = u := by
      rw [Bytes.ofLE_toLE, Nat.mod_eq_of_lt (show u.toNat < 256 ^ 2 from u.toNat_lt),
        UInt16.ofNat_toNat]
    rw [List.flatMap_cons]
    exact congrArg₂ List.cons hu ih

/-! ## Reading -/

/-- The medium that holds a list of bytes. -/
def Medium.ofList (l : List UInt8) : Medium := ⟨Bytes.ofList l, none⟩

/-- The bytes of a sector of a file given as a list. -/
def Header.sectorBytes (h : Header) (l : List UInt8) (sector : UInt32) : List UInt8 :=
  Bytes.fill h.sectorSize 0 ((l.drop (h.sectorOffset sector)).take h.sectorSize)

/-- In a file that is put together from blocks, the block behind the header is sector 0. -/
theorem Header.sectorBytes_flatten {h : Header} {blocks : List (List UInt8)} {block : List UInt8}
    {sector : UInt32} (hbefore : ∀ b ∈ blocks.take (sector.toNat + 1), b.length = h.sectorSize)
    (hk : blocks[sector.toNat + 1]? = some block) (hblock : block.length = h.sectorSize) :
    h.sectorBytes blocks.flatten sector = block := by
  rw [sectorBytes, sectorOffset, Nat.mul_comm, Bytes.drop_take_flatten hbefore hk hblock,
    Bytes.fill_of_length hblock]

section Reading

variable (l : List UInt8)

theorem yields_readAt_ofList (offset wanted : Nat) :
    Yields (.ofList l) (readAt offset wanted)
      (.ok (Bytes.ofList ((l.drop offset).take wanted))) := by
  have h := yields_readAt (m := .ofList l) offset wanted
  rwa [Medium.fetch_of_sound rfl, show (Medium.ofList l).bytes = Bytes.ofList l from rfl,
    Bytes.extract_ofList] at h

theorem yields_readExactAt_ofList {offset wanted : Nat} (h : offset + wanted ≤ l.length) :
    Yields (.ofList l) (readExactAt offset wanted)
      (.ok (Bytes.ofList ((l.drop offset).take wanted))) := by
  refine (yields_readAt_ofList l offset wanted).bind ?_
  rw [if_neg (by rw [Bytes.size_ofList, List.length_take, List.length_drop]; omega)]
  exact yields_pure _

theorem yields_readSector_ofList (h : Header) {count : Nat} {sector : UInt32}
    (hcount : sector.toNat < count) :
    Yields (.ofList l) (h.readSector count sector) (.ok (Bytes.ofList (h.sectorBytes l sector))) := by
  unfold Header.readSector
  rw [if_neg (Nat.not_le.2 hcount), Header.sectorBytes, ← Bytes.padTo_ofList]
  exact (yields_readAt_ofList l _ _).bind (yields_pure _)

/-- The sectors of a chain, one behind the other. -/
theorem yields_readChain_ofList (h : Header) {count : Nat} {chain : List UInt32}
    (hcount : ∀ sector ∈ chain, sector.toNat < count) :
    Yields (.ofList l) (h.readChain count chain)
      (.ok (Bytes.ofList (chain.flatMap (h.sectorBytes l)))) := by
  have hloop : ∀ got, Yields (.ofList l)
      (chain.foldlM (fun data sector => return data ++ (← h.readSector count sector))
        (Bytes.ofList got))
      (.ok (Bytes.ofList (got ++ chain.flatMap (h.sectorBytes l)))) := by
    induction chain with
    | nil =>
      intro got
      rw [List.flatMap_nil, List.append_nil]
      exact yields_pure _
    | cons sector chain ih =>
      intro got
      rw [List.foldlM_cons, List.flatMap_cons, ← List.append_assoc]
      refine Yields.bind ((yields_readSector_ofList l h
        (hcount sector List.mem_cons_self)).bind (yields_pure _)) ?_
      rw [Bytes.ofList_append]
      exact ih (fun s hs => hcount s (List.mem_cons_of_mem sector hs)) _
  exact hloop []

end Reading

/-- A chain of one sector of a file that is put together from blocks. The blocks from number `k` on
may have any length. -/
theorem yields_readChain_flatten {h : Header} {blocks : List (List UInt8)} {block : List UInt8}
    {sector : UInt32} {count k : Nat} (hlength : ∀ b ∈ blocks.take k, b.length = h.sectorSize)
    (hcount : sector.toNat < count) (hk : sector.toNat + 1 < k)
    (hblock : blocks[sector.toNat + 1]? = some block) :
    Yields (.ofList blocks.flatten) (h.readChain count [sector]) (.ok (Bytes.ofList block)) := by
  have hmem : block ∈ blocks.take k := by
    refine List.mem_of_getElem? (i := sector.toNat + 1) ?_
    rwa [List.getElem?_take_of_lt hk]
  have hbefore : ∀ b ∈ blocks.take (sector.toNat + 1), b.length = h.sectorSize :=
    fun b hb => hlength b (List.take_subset_take_left _ hk.le hb)
  have hchain : ∀ s ∈ [sector], s.toNat < count := List.forall_mem_singleton.2 hcount
  have hread := yields_readChain_ofList blocks.flatten h hchain
  rwa [List.flatMap_cons, List.flatMap_nil, List.append_nil,
    Header.sectorBytes_flatten hbefore hblock (hlength block hmem)] at hread

end CompoundFile
