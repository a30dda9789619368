import CompoundFile.ClassId

/-!
# Parts of byte strings

What a byte, a word or a run of bytes is in a byte string that was joined, cut or padded. Two byte
strings that agree on the bytes of a part have the same part (`window_congr`, `extract_congr`).
-/

namespace CompoundFile.Bytes

variable {b b' : ByteArray} {offset offset' : Nat}

/-! ## Bytes -/

theorem byteAt_of_lt (h : offset < b.size) : byteAt b offset = b[offset] := dif_pos h

theorem byteAt_of_le (h : b.size ≤ offset) : byteAt b offset = 0 := dif_neg (Nat.not_lt.2 h)

theorem byteAt_append_of_lt (h : offset < b.size) : byteAt (b ++ b') offset = byteAt b offset := by
  have hlt : offset < (b ++ b').size := by
    rw [ByteArray.size_append]
    omega
  rw [byteAt_of_lt hlt, byteAt_of_lt h]
  exact ByteArray.getElem_append_left h

theorem byteAt_append_add (b b' : ByteArray) (offset : Nat) :
    byteAt (b ++ b') (b.size + offset) = byteAt b' offset := by
  by_cases h : offset < b'.size
  · have hlt : b.size + offset < (b ++ b').size := by
      rw [ByteArray.size_append]
      omega
    rw [byteAt_of_lt hlt, byteAt_of_lt h, ByteArray.getElem_append_right (Nat.le_add_right _ _)]
    simp only [Nat.add_sub_cancel_left]
  · rw [byteAt_of_le (by rw [ByteArray.size_append]; omega), byteAt_of_le (by omega)]

theorem byteAt_replicate_zero (length offset : Nat) : byteAt (replicate length 0) offset = 0 := by
  unfold byteAt
  split
  · exact Array.getElem_replicate _
  · rfl

/-- A block padded with zeros reads as the bytes that it was cut from, up to the end of the cut. -/
theorem byteAt_padTo_extract {size j : Nat} (hj : j < size) :
    byteAt (padTo size (b.extract offset (offset + size))) j = byteAt b (offset + j) := by
  have hsize : (b.extract offset (offset + size)).size = min size (b.size - offset) := by
    rw [ByteArray.size_extract]
    omega
  unfold padTo
  by_cases hlt : offset + j < b.size
  · rw [byteAt_append_of_lt (by omega), byteAt_of_lt (by omega), byteAt_of_lt hlt]
    exact ByteArray.getElem_extract _
  · obtain ⟨rest, hrest⟩ := Nat.exists_eq_add_of_le
      (show (b.extract offset (offset + size)).size ≤ j by omega)
    rw [hrest, byteAt_append_add, byteAt_replicate_zero, ← hrest, byteAt_of_le (by omega)]

/-! ## Words -/

theorem window_congr {length : Nat}
    (h : ∀ j < length, byteAt b (offset + j) = byteAt b' (offset' + j)) :
    window b offset length = window b' offset' length :=
  List.map_congr_left fun j hj => h j (List.mem_range.1 hj)

theorem word32_congr (h : ∀ j < 4, byteAt b (offset + j) = byteAt b' (offset' + j)) :
    word32 b offset = word32 b' offset' := by
  rw [word32, word32, window_congr h]

theorem getElem?_words32 {i : Nat} (hi : i < b.size / 4) :
    (words32 b)[i]? = some (word32 b (4 * i)) := by
  simp [words32, hi]

/-! ## Cuts -/

section Cuts

variable {first past : Nat}

theorem byteAt_extract (hoffset : first + offset < past) (hpast : past ≤ b.size) :
    byteAt (b.extract first past) offset = byteAt b (first + offset) := by
  unfold byteAt
  rw [dif_pos (by rw [ByteArray.size_extract]; omega), dif_pos (by omega)]
  exact ByteArray.getElem_extract _

theorem window_extract {length : Nat} (hoffset : first + offset + length ≤ past)
    (hpast : past ≤ b.size) :
    window (b.extract first past) offset length = window b (first + offset) length := by
  refine List.map_congr_left fun i hi => ?_
  rw [List.mem_range] at hi
  rw [byteAt_extract (by omega) hpast, Nat.add_assoc]

theorem word16_extract (hoffset : first + offset + 2 ≤ past) (hpast : past ≤ b.size) :
    word16 (b.extract first past) offset = word16 b (first + offset) := by
  rw [word16, word16, window_extract hoffset hpast]

theorem word32_extract (hoffset : first + offset + 4 ≤ past) (hpast : past ≤ b.size) :
    word32 (b.extract first past) offset = word32 b (first + offset) := by
  rw [word32, word32, window_extract hoffset hpast]

theorem word64_extract (hoffset : first + offset + 8 ≤ past) (hpast : past ≤ b.size) :
    word64 (b.extract first past) offset = word64 b (first + offset) := by
  rw [word64, word64, window_extract hoffset hpast]

theorem classId_extract (hoffset : first + offset + 16 ≤ past) (hpast : past ≤ b.size) :
    ClassId.read (b.extract first past) offset = ClassId.read b (first + offset) := by
  refine congrArg ClassId.mk (Vector.ext fun i hi => ?_)
  rw [Vector.getElem_ofFn, Vector.getElem_ofFn, byteAt_extract (by omega) hpast, Nat.add_assoc]

theorem extract_congr (hsize : b.size = b'.size)
    (h : ∀ i, first ≤ i → i < past → byteAt b i = byteAt b' i) :
    b.extract first past = b'.extract first past := by
  refine ByteArray.ext_getElem (by rw [ByteArray.size_extract, ByteArray.size_extract, hsize])
    fun j hj hj' => ?_
  rw [ByteArray.size_extract] at hj
  have hbyte := h (first + j) (Nat.le_add_right _ _) (by omega)
  rw [byteAt_of_lt (by omega), byteAt_of_lt (by omega)] at hbyte
  rw [ByteArray.getElem_extract, ByteArray.getElem_extract]
  exact hbyte

/-- A cut may be given by its length. It is empty if it would end before it begins. -/
theorem extract_add_sub (b : ByteArray) (first past : Nat) :
    b.extract first (first + (past - first)) = b.extract first past := by
  refine ByteArray.ext_getElem ?_ fun j hj hj' => ?_
  · rw [ByteArray.size_extract, ByteArray.size_extract]
    omega
  · rw [ByteArray.getElem_extract, ByteArray.getElem_extract]

theorem slice?_eq_some_iff {s : ByteArray} {length : Nat} :
    slice? b offset length = some s ↔
      offset + length ≤ b.size ∧ b.extract offset (offset + length) = s := by
  unfold slice?
  by_cases h : offset + length ≤ b.size
  · simp [h]
  · simp [h]

end Cuts

end CompoundFile.Bytes
