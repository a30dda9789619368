/-!
# Marked indices

A walk over indices below a bound remembers where it has been. `Marks n` is that memory: one flag
for every index below `n`, all clear at first. An index at or past the bound is never marked, and
marking it changes nothing.

`room` counts the clear flags. Marking a clear index makes it smaller (`room_mark_lt`), which is
why a walk that marks every index it visits, and stops at a marked one, ends.
-/

namespace CompoundFile

/-- A set of indices below a bound. -/
structure Marks (n : Nat) where
  flags : Vector Bool n
  deriving DecidableEq, Repr

namespace Marks

variable {n : Nat}

/-- No index marked. -/
def clear (n : Nat) : Marks n := ⟨Vector.replicate n false⟩

/-- Whether an index is marked. -/
def contains (m : Marks n) (i : Nat) : Bool := m.flags[i]?.getD false

/-- Mark one more index. -/
def mark (m : Marks n) (i : Nat) : Marks n := ⟨m.flags.setIfInBounds i true⟩

/-- How many indices are still clear. -/
def room (m : Marks n) : Nat := m.flags.count false

@[simp] theorem contains_clear (i : Nat) : (clear n).contains i = false := by
  simp [clear, contains, Vector.getElem?_replicate]
  split <;> rfl

theorem lt_of_contains {m : Marks n} {i : Nat} (h : m.contains i = true) : i < n := by
  unfold contains at h
  by_cases hi : i < n
  · exact hi
  · simp [Vector.getElem?_eq_none (Nat.le_of_not_lt hi)] at h

theorem contains_mark (m : Marks n) (i j : Nat) :
    (m.mark i).contains j = (m.contains j || (decide (i = j) && decide (i < n))) := by
  unfold contains mark
  rw [Vector.getElem?_setIfInBounds]
  by_cases hij : i = j
  · subst hij
    by_cases hi : i < n
    · simp [hi]
    · simp [hi]
  · simp [hij]

theorem room_mark_lt {m : Marks n} {i : Nat} (hi : i < n) (h : m.contains i = false) :
    (m.mark i).room < m.room := by
  have hget : m.flags[i] = false := by
    simpa [contains, Vector.getElem?_eq_getElem hi] using h
  have hpos : 0 < m.flags.count false := by
    rw [Vector.count_pos_iff]
    exact hget ▸ Vector.getElem_mem hi
  have hset : m.flags.setIfInBounds i true = m.flags.set i true hi := by
    ext j hj
    simp [Vector.getElem_setIfInBounds, Vector.getElem_set]
  have hcount : (m.flags.set i true hi).count false = m.flags.count false - 1 := by
    rw [Vector.count_set hi, hget]
    rfl
  unfold mark room
  rw [hset, hcount]
  exact Nat.sub_lt hpos Nat.one_pos

end Marks

end CompoundFile
