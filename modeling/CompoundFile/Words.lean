/-!
# Sums of words

A sum of words that is no word itself ends the program. This is no error: nothing is given back to the
caller, who cannot handle it. A computation that may end so has its result in `Except Panic`, and one
that is known not to end so has a value (`Panic.value`).
-/

namespace CompoundFile

/-- Why a program ended. -/
inductive Panic where
  /-- A sum is no word. -/
  | addOverflow
  deriving DecidableEq, Repr

namespace Panic

/-- The words with which a program ends. -/
def message : Panic → String
  | addOverflow => "attempt to add with overflow"

/-- The value of a computation that does not end the program. -/
def value {α : Type} : (x : Except Panic α) → (∃ a, x = .ok a) → α
  | .ok a, _ => a
  | .error _, h => False.elim (h.elim fun _ heq => by cases heq)

theorem value_eq {α : Type} {x : Except Panic α} {a : α} (hx : x = .ok a) (h : ∃ a, x = .ok a) :
    value x h = a := by
  subst hx
  rfl

end Panic

namespace Words

/-- The sum of two words, if it is a word. -/
def add (a b : UInt64) : Except Panic UInt64 :=
  if a.toNat + b.toNat < UInt64.size then .ok (a + b) else .error .addOverflow

variable {a b : UInt64}

theorem add_eq_error_iff : add a b = .error .addOverflow ↔ UInt64.size ≤ a.toNat + b.toNat := by
  unfold add
  split
  next hlt => exact iff_of_false (fun h => nomatch h) (Nat.not_le.2 hlt)
  next hge => exact iff_of_true rfl (Nat.not_lt.1 hge)

theorem exists_add (hlt : a.toNat + b.toNat < UInt64.size) :
    ∃ w, add a b = .ok w ∧ w.toNat = a.toNat + b.toNat :=
  ⟨a + b, if_pos hlt, by rw [UInt64.toNat_add, Nat.mod_eq_of_lt hlt]⟩

end Words

end CompoundFile
