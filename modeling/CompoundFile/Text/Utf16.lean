import CompoundFile.Bytes
import CompoundFile.Text.Decoder

/-!
# UTF-16

A character below U+10000 is one 16-bit unit; any other is a pair, a lead unit and a trail unit.
`encode` writes units. `decode` reads them and puts U+FFFD for every surrogate that is not part of
a pair.

Main statement: `decode_encode`, text survives writing and reading.
-/

namespace CompoundFile.Text.Utf16

/-- The units of one character. -/
def encodeChar (c : Char) : List UInt16 :=
  if c.toNat < 0x10000 then [UInt16.ofNat c.toNat]
  else
    [UInt16.ofNat (0xD800 + (c.toNat - 0x10000) / 0x400),
      UInt16.ofNat (0xDC00 + (c.toNat - 0x10000) % 0x400)]

/-- The units of a text. -/
def encode (cs : List Char) : List UInt16 := cs.flatMap encodeChar

/-- The first unit of a pair. -/
def isLead (u : UInt16) : Bool := 0xD800 ≤ u.toNat && u.toNat < 0xDC00

/-- The second unit of a pair. -/
def isTrail (u : UInt16) : Bool := 0xDC00 ≤ u.toNat && u.toNat < 0xE000

/-- The character of a unit that stands alone. -/
def single (u : UInt16) : Char :=
  if isLead u || isTrail u then replacement else Char.ofNat u.toNat

/-- The character of a pair. -/
def pair (u v : UInt16) : Char :=
  Char.ofNat (0x10000 + (u.toNat - 0xD800) * 0x400 + (v.toNat - 0xDC00))

/-- The text of a list of units. -/
def decode : List UInt16 → List Char
  | [] => []
  | [u] => [single u]
  | u :: v :: us =>
    if isLead u && isTrail v then pair u v :: decode us else single u :: decode (v :: us)

/-- The little-endian units of a byte string; an odd byte at the end is dropped. -/
def unitsOfBytes : List UInt8 → List UInt16
  | a :: b :: bs => UInt16.ofNat (Bytes.ofLE [a, b]) :: unitsOfBytes bs
  | _ => []

theorem decode_single {u : UInt16} (us : List UInt16) (h : isLead u = false) :
    decode (u :: us) = single u :: decode us := by
  cases us with
  | nil => rfl
  | cons v us => simp [decode, h]

theorem decode_encodeChar (c : Char) (us : List UInt16) :
    decode (encodeChar c ++ us) = c :: decode us := by
  have hvalid := c.valid
  unfold encodeChar
  split
  next h =>
    have hto : (UInt16.ofNat c.toNat).toNat = c.toNat := UInt16.toNat_ofNat_of_lt' h
    have hrange : c.toNat < 0xD800 ∨ 0xE000 ≤ c.toNat := by
      rcases hvalid with hv | hv
      · exact Or.inl hv
      · exact Or.inr (Nat.succ_le_of_lt hv.1)
    have hlead : isLead (UInt16.ofNat c.toNat) = false := by
      simp only [isLead, hto, Bool.and_eq_false_iff, decide_eq_false_iff_not]
      omega
    have htrail : isTrail (UInt16.ofNat c.toNat) = false := by
      simp only [isTrail, hto, Bool.and_eq_false_iff, decide_eq_false_iff_not]
      omega
    rw [List.cons_append, List.nil_append, decode_single us hlead]
    simp [single, hlead, htrail, hto]
  next h =>
    have hlt : c.toNat < 0x110000 := by
      rcases hvalid with hv | hv
      · exact Nat.lt_trans hv (by decide)
      · exact hv.2
    have hu : (UInt16.ofNat (0xD800 + (c.toNat - 0x10000) / 0x400)).toNat =
        0xD800 + (c.toNat - 0x10000) / 0x400 := UInt16.toNat_ofNat_of_lt' (by
      have : UInt16.size = 65536 := rfl
      omega)
    have hv : (UInt16.ofNat (0xDC00 + (c.toNat - 0x10000) % 0x400)).toNat =
        0xDC00 + (c.toNat - 0x10000) % 0x400 := UInt16.toNat_ofNat_of_lt' (by
      have : UInt16.size = 65536 := rfl
      omega)
    have hlead : isLead (UInt16.ofNat (0xD800 + (c.toNat - 0x10000) / 0x400)) = true := by
      simp only [isLead, hu, Bool.and_eq_true, decide_eq_true_eq]
      omega
    have htrail : isTrail (UInt16.ofNat (0xDC00 + (c.toNat - 0x10000) % 0x400)) = true := by
      simp only [isTrail, hv, Bool.and_eq_true, decide_eq_true_eq]
      omega
    have hpair : pair (UInt16.ofNat (0xD800 + (c.toNat - 0x10000) / 0x400))
        (UInt16.ofNat (0xDC00 + (c.toNat - 0x10000) % 0x400)) = c := by
      unfold pair
      rw [hu, hv]
      have : 0x10000 + (0xD800 + (c.toNat - 0x10000) / 0x400 - 0xD800) * 0x400 +
          (0xDC00 + (c.toNat - 0x10000) % 0x400 - 0xDC00) = c.toNat := by omega
      rw [this, Char.ofNat_toNat]
    simp only [List.cons_append, List.nil_append, decode, hlead, htrail, Bool.and_self, ↓reduceIte,
      hpair]

theorem decode_encode (cs : List Char) : decode (encode cs) = cs := by
  induction cs with
  | nil => rfl
  | cons c cs ih => rw [encode, List.flatMap_cons, decode_encodeChar, ← encode, ih]

end CompoundFile.Text.Utf16
