import CompoundFile.Bytes
import Mathlib

/-!
# Little-endian numerals

`toLE` and `ofLE` invert each other: a list of `w` bytes stands for exactly one number below `256
^ w`.

Main results: `ofLE_toLE`, `ofLE_lt` and `toLE_ofLE`.
-/

namespace CompoundFile.Bytes

theorem ofLE_toLE (w n : Nat) : ofLE (toLE w n) = n % 256 ^ w := by
  induction w generalizing n with
  | zero => simp [toLE, ofLE, Nat.mod_one]
  | succ w ih =>
    have digit : (UInt8.ofNat n).toNat = n % 256 := UInt8.toNat_ofNat'
    rw [toLE, ofLE, ih, digit, Nat.pow_succ, Nat.mul_comm (256 ^ w), Nat.mod_mul]

theorem ofLE_lt (bs : List UInt8) : ofLE bs < 256 ^ bs.length := by
  induction bs with
  | nil => simp [ofLE]
  | cons b bs ih =>
    have := b.toNat_lt
    rw [ofLE, List.length_cons, Nat.pow_succ]
    omega

theorem toLE_ofLE (bs : List UInt8) : toLE bs.length (ofLE bs) = bs := by
  induction bs with
  | nil => rfl
  | cons b bs ih =>
    have hb := b.toNat_lt
    have hdiv : (b.toNat + 256 * ofLE bs) / 256 = ofLE bs := by omega
    have hdigit : UInt8.ofNat (b.toNat + 256 * ofLE bs) = b := by
      apply UInt8.toNat_inj.1
      have digit : (UInt8.ofNat (b.toNat + 256 * ofLE bs)).toNat =
          (b.toNat + 256 * ofLE bs) % 256 := UInt8.toNat_ofNat'
      omega
    rw [List.length_cons, ofLE, toLE, hdiv, ih, hdigit]

end CompoundFile.Bytes
