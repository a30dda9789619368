import CompoundFile.Proofs.PropertySet.Decoding

/-!
# When sections are read

A section is framed when it is inside its stream and its table of properties is inside the section
(`Framed`). Then it is decoded when the codepage and all properties but the dictionary are
(`Framed.parse_eq_ok_iff`). Nothing else of the stream has a part in it.

**Limits.** The bytes of a property of which the type is not decoded reach up to the least listed offset
behind its own, or up to the end of the section (`IsLimit`). Only which offsets are listed has a part
in this, not their order.

Main results: `Framed.parse_eq_ok_iff` and `isLimit_limit`.
-/

namespace CompoundFile.PropertySet.Section

/-- The section at an offset is inside its stream, its bytes are `body`, and its table of `count` lines
is inside it. -/
structure Framed (b : ByteArray) (offset : Nat) (body : ByteArray) (count : Nat) : Prop where
  size_fits : offset + 4 ≤ b.size
  body_eq : Bytes.slice? b offset (Bytes.word32 b offset).toNat = some body
  count_eq : (Bytes.word32 body 4).toNat = count
  table_fits : 8 + 8 * count ≤ body.size

/-- The property in a line of the table. -/
def propertyOf (body : ByteArray) (text : NarrowText) (lines : List Slot) (slot : Slot) :
    Except Fault Property := do
  return ⟨slot.id, ← property body text slot.offset (limit body.size lines slot.offset)⟩

section Parsing

variable {b body : ByteArray} {offset count : Nat} {formatId : ClassId} {fallback : Codepage}
  {s : Section}

/-- A section is the part of its stream from its offset on, as long as it says. -/
theorem Framed.inside (h : Framed b offset body count) :
    body.size = (Bytes.word32 b offset).toNat ∧ offset + body.size ≤ b.size ∧
      body = b.extract offset (offset + body.size) := by
  obtain ⟨hle, hbody⟩ := Bytes.slice?_eq_some_iff.1 h.body_eq
  have hsize : body.size = (Bytes.word32 b offset).toNat := by
    rw [← hbody, ByteArray.size_extract]
    omega
  exact ⟨hsize, by rwa [hsize], by rw [hsize, hbody]⟩

theorem propertyOf_eq_ok_iff {text : NarrowText} {lines : List Slot} {slot : Slot} {x : Property} :
    propertyOf body text lines slot = .ok x ↔
      x.id = slot.id ∧
        property body text slot.offset (limit body.size lines slot.offset) = .ok x.value := by
  unfold propertyOf
  rw [bind_eq_ok_iff]
  constructor
  · rintro ⟨v, hv, hx⟩
    cases hx
    exact ⟨rfl, hv⟩
  · rintro ⟨hid, hv⟩
    exact ⟨_, hv, by rw [← hid]; rfl⟩

theorem Framed.parse_eq (h : Framed b offset body count) (formatId : ClassId)
    (fallback : Codepage) :
    parse b formatId offset fallback = (do
      let codepage ← declaredCodepage body (slots body count) fallback
      let properties ← ((slots body count).filter (·.id != 0)).mapM
        (propertyOf body (.ofCodepage codepage fallback) (slots body count))
      return { formatId, codepage, properties }) := by
  have htable := h.table_fits
  have hsize := word32_eq_ok_iff.2 ⟨h.size_fits, rfl⟩
  have hcount := word32_eq_ok_iff.2 ⟨show 4 + 4 ≤ body.size by omega, rfl⟩
  have hbody : parse b formatId offset fallback = parseBody body formatId offset fallback := by
    unfold parse
    rw [hsize]
    dsimp only [bind, Except.bind]
    rw [h.body_eq]
  rw [hbody]
  unfold parseBody
  rw [hcount]
  dsimp only [bind, Except.bind]
  rw [h.count_eq, if_neg (by omega)]
  rfl

/-- A framed section is decoded when its codepage and its properties are. -/
theorem Framed.parse_eq_ok_iff (h : Framed b offset body count) :
    parse b formatId offset fallback = .ok s ↔
      s.formatId = formatId ∧
        declaredCodepage body (slots body count) fallback = .ok s.codepage ∧
        ((slots body count).filter (·.id != 0)).mapM
          (propertyOf body (.ofCodepage s.codepage fallback) (slots body count)) =
            .ok s.properties := by
  rw [h.parse_eq]
  constructor
  · intro hs
    obtain ⟨codepage, hcodepage, hs⟩ := bind_eq_ok_iff.1 hs
    obtain ⟨properties, hproperties, hs⟩ := bind_eq_ok_iff.1 hs
    cases hs
    exact ⟨rfl, hcodepage, hproperties⟩
  · rintro ⟨rfl, hcodepage, hproperties⟩
    exact bind_eq_ok_iff.2 ⟨_, hcodepage, bind_eq_ok_iff.2 ⟨_, hproperties, rfl⟩⟩

/-- Only framed sections are decoded. -/
theorem exists_framed_of_parse (h : parse b formatId offset fallback = .ok s) :
    ∃ body count, Framed b offset body count := by
  unfold parse at h
  obtain ⟨size, hsize, h⟩ := bind_eq_ok_iff.1 h
  obtain ⟨hfits, rfl⟩ := word32_eq_ok_iff.1 hsize
  dsimp only at h
  split at h
  next => cases h
  next body hbody =>
    obtain ⟨count, hcount, h⟩ := bind_eq_ok_iff.1 h
    obtain ⟨htable, -⟩ := guard_eq_ok_iff.1 h
    obtain ⟨-, rfl⟩ := word32_eq_ok_iff.1 hcount
    exact ⟨body, _, hfits, hbody, rfl, by omega⟩

end Parsing

/-! ## Limits -/

/-- The least listed offset behind an offset, or the size of the section if there is none. -/
def IsLimit (size : Nat) (offsets : List Nat) (offset past : Nat) : Prop :=
  IsLeast {listed | listed ∈ offsets ∧ offset < listed} past ∨
    (∀ listed ∈ offsets, listed ≤ offset) ∧ past = size

theorem IsLimit.unique {size offset past past' : Nat} {offsets : List Nat}
    (h : IsLimit size offsets offset past) (h' : IsLimit size offsets offset past') :
    past = past' := by
  rcases h with h | ⟨hnone, rfl⟩ <;> rcases h' with h' | ⟨hnone', rfl⟩
  · exact h.unique h'
  · exact absurd h.1.2 (Nat.not_lt.2 (hnone' _ h.1.1))
  · exact absurd h'.1.2 (Nat.not_lt.2 (hnone _ h'.1.1))
  · rfl

theorem isLimit_limit (size : Nat) (lines : List Slot) (offset : Nat) :
    IsLimit size (lines.map (·.offset)) offset (limit size lines offset) := by
  unfold limit
  cases hmin : ((lines.map (·.offset)).filter (offset < ·)).min? with
  | none =>
    rw [List.min?_eq_none_iff, List.filter_eq_nil_iff] at hmin
    exact Or.inr ⟨fun listed hlisted => by simpa using hmin listed hlisted, rfl⟩
  | some past =>
    obtain ⟨hmem, hle⟩ := List.min?_eq_some_iff.1 hmin
    simp only [List.mem_filter, decide_eq_true_eq] at hmem hle
    exact Or.inl ⟨hmem, fun listed => hle listed⟩

/-- The limit depends on which offsets are listed, not on their order. -/
theorem limit_congr {size offset : Nat} {lines lines' : List Slot}
    (h : ∀ slot, slot ∈ lines ↔ slot ∈ lines') :
    limit size lines offset = limit size lines' offset := by
  have hlimit' := isLimit_limit size lines' offset
  have hmem : ∀ listed, listed ∈ lines.map (·.offset) ↔ listed ∈ lines'.map (·.offset) := by
    simp [h]
  unfold IsLimit at hlimit'
  simp only [← hmem] at hlimit'
  exact (isLimit_limit size lines offset).unique hlimit'

end CompoundFile.PropertySet.Section
