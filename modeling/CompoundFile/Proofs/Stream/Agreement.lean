import CompoundFile.Proofs.Stream.Cursor

/-!
# Readers on sources of the same bytes

Two readers of one stream that stand at one position may have sources that deliver in different
portions, are interrupted at different times and have their cursors in different places. As long as
the sources hold the same bytes the readers are `Alike`: every command gives the same result on both,
be it a success or a failure, and leaves them alike.

**Induction.** The loop of a read asks for its portions at absolute offsets. One portion is the same
from both sources (`Fetch.yields_readAt`), so the loop takes the same turn on both; the induction is
on the number of bytes that are still wanted.

Main result: `runAll_agree`.
-/

namespace CompoundFile.StreamReader

/-- The readers differ in their sources only, and these hold the same bytes. -/
def Alike (r r' : StreamReader) : Prop :=
  ∃ s, s.medium = r.source.medium ∧ r' = r.moved s r.position

/-- An operation gave the same on two readers, and left them alike. -/
def Agree {α : Type} (x x' : α × StreamReader) : Prop := x.1 = x'.1 ∧ x.2.Alike x'.2

theorem Agree.exists_eq {α : Type} {x x' : α × StreamReader} (h : Agree x x') :
    ∃ result r r', x = (result, r) ∧ x' = (result, r') ∧ r.Alike r' := by
  obtain ⟨result, r⟩ := x
  obtain ⟨result', r'⟩ := x'
  obtain ⟨rfl, halike⟩ : result = result' ∧ r.Alike r' := h
  exact ⟨result, r, r', rfl, rfl, halike⟩

theorem Alike.source {r r' : StreamReader} (h : r.Alike r') :
    r.source.medium = r'.source.medium := by
  obtain ⟨s, hs, rfl⟩ := h
  exact hs.symm

theorem alike_moved {s s' : Source} (hs : s.medium = s'.medium) (r : StreamReader) (p : Nat) :
    (r.moved s p).Alike (r.moved s' p) := ⟨s', hs.symm, rfl⟩

theorem make_agree {s s' : Source} (hs : s.medium = s'.medium) (a : Allocation)
    (e : Directory.Entry) :
    (∃ error, make s a e = .error error ∧ make s' a e = .error error) ∨
      ∃ r r', make s a e = .ok r ∧ make s' a e = .ok r' ∧ r.Alike r' := by
  cases hmake : make s a e with
  | ok r =>
    obtain ⟨htype, units, hunits, rfl⟩ := make_eq_ok_iff.1 hmake
    exact Or.inr ⟨_, _, rfl, make_eq_ok_iff.2 ⟨htype, units, hunits, rfl⟩, s', hs.symm, rfl⟩
  | error error =>
    refine Or.inl ⟨error, rfl, ?_⟩
    unfold make at hmake ⊢
    split at hmake
    next htype => rw [if_pos htype]; exact hmake
    next htype =>
      rw [if_neg htype]
      cases hunits : a.chainOf e with
      | error fault => rw [hunits] at hmake; exact hmake
      | ok units => rw [hunits] at hmake; cases hmake

/-! ## Reading -/

/-- **The loop takes the same turns on readers that are alike.** -/
theorem readInto_agree (got : ByteArray) (wanted : Nat) {r r' : StreamReader} (h : r.Alike r') :
    Agree (r.readInto got wanted) (r'.readInto got wanted) := by
  induction wanted using Nat.strongRecOn generalizing got r r' with
  | ind wanted ih =>
    obtain ⟨s, hs, rfl⟩ := h
    by_cases hmore : 0 < wanted ∧ r.position < r.size
    · cases hlocate : r.locate with
      | error fault =>
        rw [readInto_of_locate_error got hmore hlocate,
          readInto_of_locate_error (r := r.moved s r.position) got hmore hlocate]
        exact ⟨rfl, s, hs, rfl⟩
      | ok found =>
        obtain ⟨offset, left⟩ := found
        have hpos := portion_pos hmore
        obtain ⟨t, ht, hrun⟩ := Fetch.yields_readAt offset (r.portion wanted) r.source rfl
        obtain ⟨t', ht', hrun'⟩ := Fetch.yields_readAt offset (r.portion wanted) s hs
        have htt : t.medium = t'.medium := ht.trans ht'.symm
        have hcount : (r.moved s r.position).portion wanted = r.portion wanted := rfl
        have hsource : (r.moved s r.position).source = s := rfl
        rw [readInto_of_locate got hmore hlocate, hrun,
          readInto_of_locate (r := r.moved s r.position) got hmore hlocate, hcount, hsource, hrun']
        cases (r.source.medium.fetch offset (r.portion wanted)).mapError Error.io with
        | error e => exact ⟨rfl, alike_moved htt r _⟩
        | ok data =>
          by_cases hshort : data.size < r.portion wanted
          · simp only [if_pos hshort]
            exact ⟨rfl, alike_moved htt r _⟩
          · simp only [if_neg hshort]
            exact ih _ (by omega) _ (alike_moved htt r _)
    · rw [readInto, dif_neg hmore, readInto,
        dif_neg (show ¬ (0 < wanted ∧ (r.moved s r.position).position < (r.moved s r.position).size)
          from hmore)]
      exact ⟨rfl, s, hs, rfl⟩

section Commands

variable {r r' : StreamReader} (h : r.Alike r')
include h

theorem read_agree (wanted : Nat) : Agree (r.read wanted) (r'.read wanted) :=
  readInto_agree ByteArray.empty wanted h

theorem readExact_agree (wanted : Nat) : Agree (r.readExact wanted) (r'.readExact wanted) := by
  obtain ⟨result, after, after', hread, hread', hafter⟩ := (read_agree h wanted).exists_eq
  unfold readExact
  rw [hread, hread']
  cases result with
  | error e => exact ⟨rfl, hafter⟩
  | ok data => exact ⟨rfl, hafter⟩

theorem readToEnd_agree : Agree r.readToEnd r'.readToEnd := by
  have hleft : r'.size - r'.position = r.size - r.position := by
    obtain ⟨s, -, rfl⟩ := h
    rfl
  obtain ⟨result, after, after', hread, hread', hafter⟩ :=
    (read_agree h (r.size - r.position)).exists_eq
  unfold readToEnd
  rw [hleft, hread, hread']
  cases result with
  | error e => exact ⟨rfl, hafter⟩
  | ok data => exact ⟨rfl, hafter⟩

theorem seek_agree (t : SeekTarget) : Agree (r.seek t) (r'.seek t) := by
  obtain ⟨s, hs, rfl⟩ := h
  have htarget : (r.moved s r.position).target t = r.target t := by cases t <;> rfl
  unfold seek
  rw [htarget]
  by_cases hposition : 0 ≤ r.target t ∧ r.target t < UInt64.size
  · simp only [if_pos hposition]
    exact ⟨rfl, s, hs, rfl⟩
  · simp only [if_neg hposition]
    exact ⟨rfl, s, hs, rfl⟩

/-- A command gives the same reply on readers that are alike. -/
theorem run_agree (c : StreamCommand) : Agree (c.run r) (c.run r') := by
  have hreply : ∀ {ε α : Type} {x x' : Except ε α × StreamReader} (f : Except ε α → StreamReply),
      Agree x x' → Agree (x.map f id) (x'.map f id) :=
    fun f hx => ⟨congrArg f hx.1, hx.2⟩
  cases c with
  | read wanted => exact hreply _ (read_agree h wanted)
  | readExact wanted => exact hreply _ (readExact_agree h wanted)
  | readToEnd => exact hreply _ (readToEnd_agree h)
  | seek t => exact hreply _ (seek_agree h t)
  | layout | text =>
    obtain ⟨s, hs, rfl⟩ := h
    exact ⟨rfl, s, hs, rfl⟩

end Commands

/-- **A script gives the same replies and positions on readers that are alike.** -/
theorem runAll_agree (script : List StreamCommand) {r r' : StreamReader} (h : r.Alike r') :
    Agree (StreamCommand.runAll script r) (StreamCommand.runAll script r') := by
  induction script generalizing r r' with
  | nil => exact ⟨rfl, h⟩
  | cons c script ih =>
    obtain ⟨hreply, hafter⟩ := run_agree h c
    obtain ⟨hreplies, hlast⟩ := ih hafter
    have hposition : (c.run r').2.position = (c.run r).2.position := by
      obtain ⟨s, -, heq⟩ := hafter
      rw [heq]
      rfl
    refine ⟨?_, hlast⟩
    show ((c.run r).1, (c.run r).2.position) :: _ = ((c.run r').1, (c.run r').2.position) :: _
    rw [hreply, hposition]
    exact congrArg _ hreplies

end CompoundFile.StreamReader
