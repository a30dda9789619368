import Mathlib

/-!
# Numbers that fit into words

The arithmetic of this library is that of numbers without bounds. To say that a computation could be
done in words of a fixed width, it is written once more in steps, each of which has a value only if
its result fits. If such a computation has a value, then no step of it overflows.
-/

namespace CompoundFile.Words

/-- The word of 32 bits for a number, if the number fits. -/
def unsigned32? (n : Nat) : Option UInt32 := if n < 2 ^ 32 then some (.ofNat n) else none

/-- The word of 64 bits for a number, if the number fits. -/
def unsigned64? (n : Nat) : Option UInt64 := if n < 2 ^ 64 then some (.ofNat n) else none

/-- The signed word of 64 bits for a number, if the number fits. -/
def signed64? (n : Int) : Option Int64 :=
  if -2 ^ 63 ≤ n ∧ n < 2 ^ 63 then some (.ofInt n) else none

theorem exists_unsigned32? {n : Nat} (h : n < 2 ^ 32) : ∃ w, unsigned32? n = some w ∧ w.toNat = n :=
  ⟨.ofNat n, if_pos h, UInt32.toNat_ofNat_of_lt' h⟩

theorem exists_unsigned64? {n : Nat} (h : n < 2 ^ 64) : ∃ w, unsigned64? n = some w ∧ w.toNat = n :=
  ⟨.ofNat n, if_pos h, UInt64.toNat_ofNat_of_lt' h⟩

theorem exists_signed64? {n : Int} (h : -2 ^ 63 ≤ n) (h' : n < 2 ^ 63) :
    ∃ w, signed64? n = some w ∧ w.toInt = n :=
  ⟨.ofInt n, if_pos ⟨h, h'⟩, Int64.toInt_ofInt_of_le h h'⟩

end CompoundFile.Words
