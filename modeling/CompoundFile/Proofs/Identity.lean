import CompoundFile.Proofs.Session.History

/-!
# What becomes of a source

Reading moves the cursor of a source and uses up interruptions, but the source stays the one that it
was: it has the same bytes and delivers them at the same pace (`Source.identity`).

**Programs.** A program is `Tame` on a source when it keeps the identity of the source and fails for
damage or at the bad region only. Programs put together of tame parts are tame. The header is the
only part that is read exactly, and it is read only from a file that is large enough.

Main results: `tame_load` and `Session.identity?_withStream`.
-/

namespace CompoundFile

namespace Source

/-- The bytes of a source and the way in which it delivers them. -/
def identity (s : Source) : Medium × Pace := (s.medium, s.pace)

theorem medium_eq_of_identity {s s' : Source} (h : s'.identity = s.identity) :
    s'.medium = s.medium :=
  congrArg Prod.fst h

theorem identity_read (s : Source) (wanted : Nat) : (s.read wanted).2.identity = s.identity := by
  unfold read
  split
  · rfl
  · dsimp only
    split <;> rfl

theorem identity_deliver (wanted : Nat) (s : Source) :
    (s.deliver wanted).2.identity = s.identity := by
  fun_induction deliver wanted s with
  | case1 s s' h ih =>
    have hread := s.identity_read wanted
    rw [h] at hread
    exact ih.trans hread
  | case2 s fault s' h | case3 s b s' h =>
    have hread := s.identity_read wanted
    rw [h] at hread
    exact hread

theorem identity_gather (got : ByteArray) (wanted : Nat) (s : Source) :
    (s.gather got wanted).2.identity = s.identity := by
  fun_induction gather got wanted s with
  | case1 => rfl
  | case2 got wanted s _ fault s' h | case3 got wanted s _ b s' h =>
    have hdeliver := s.identity_deliver wanted
    rw [h] at hdeliver
    exact hdeliver
  | case4 got wanted s _ b s' h _ ih =>
    have hdeliver := s.identity_deliver wanted
    rw [h] at hdeliver
    exact ih.trans hdeliver

end Source

/-! ## Tame programs -/

/-- An error that has a reason: damage, or the bad region of the medium. -/
def Error.Justified (m : Medium) (e : Error) : Prop :=
  (∃ fault, e = .format fault) ∨ ∃ r, m.bad = some r ∧ e = .io r.fault

theorem Error.justified_toError {m : Medium} {e : ReadError} (h : e.Justified m) :
    e.toError.Justified m := by
  rcases h with ⟨fault, rfl⟩ | ⟨r, hr, rfl⟩
  · exact Or.inl ⟨fault, rfl⟩
  · exact Or.inr ⟨r, hr, rfl⟩

theorem Error.Justified.ne_notOpen {m : Medium} {e : Error} (h : e.Justified m) : e ≠ .notOpen := by
  rcases h with ⟨fault, rfl⟩ | ⟨r, -, rfl⟩
  · rintro ⟨⟩
  · rintro ⟨⟩

namespace Fetch

variable {α β : Type} {s : Source}

/-- The program keeps the identity of the source, and fails only with a reason. -/
structure Tame (x : Fetch α) (s : Source) : Prop where
  identity : (x.run s).2.identity = s.identity
  justified : ∀ e, (x.run s).1 = .error e → e.Justified s.medium

theorem tame_pure (a : α) : Tame (pure a) s := ⟨rfl, fun _ h => by cases h⟩

theorem tame_throw (fault : FormatFault) : Tame (throw (.format fault) : Fetch α) s :=
  ⟨rfl, fun _ h => Or.inl ⟨fault, (Except.error.inj h).symm⟩⟩

theorem Tame.bind {x : Fetch α} {f : α → Fetch β} (hx : Tame x s)
    (hf : ∀ a s', x.run s = (.ok a, s') → Tame (f a) s') : Tame (x >>= f) s := by
  obtain ⟨hidentity, hjustified⟩ := hx
  cases hrun : x.run s with
  | mk r s' =>
    rw [hrun] at hidentity hjustified
    cases r with
    | error e =>
      have hfail : (x >>= f).run s = (.error e, s') := by rw [run_bind, hrun]
      refine ⟨by rw [hfail]; exact hidentity, fun e' he' => ?_⟩
      rw [hfail] at he'
      cases he'
      exact hjustified e rfl
    | ok a =>
      have hnext := hf a s' hrun
      have hrest : (x >>= f).run s = (f a).run s' := by rw [run_bind, hrun]
      refine ⟨by rw [hrest]; exact hnext.identity.trans hidentity, fun e' he' => ?_⟩
      rw [hrest] at he'
      rw [← Source.medium_eq_of_identity hidentity]
      exact hnext.justified e' he'

/-- A check that fails for damage before the rest of the program. -/
theorem Tame.guard {p : Prop} [Decidable p] {rest : PUnit → Fetch α} (fault : FormatFault)
    (h : ¬p → Tame (rest ()) s) :
    Tame (if p then throw (.format fault) >>= rest else rest ()) s := by
  by_cases hp : p
  · rw [if_pos hp]
    exact (tame_throw fault).bind fun _ _ hrun => by cases hrun
  · rw [if_neg hp]
    exact h hp

theorem tame_ofExcept {ε : Type} (wrap : ε → FormatFault) (x : Except ε α) :
    Tame (ofExcept wrap x) s := by
  cases x with
  | ok a => exact tame_pure a
  | error e => exact tame_throw (wrap e)

theorem tame_size : Tame size s := ⟨rfl, fun _ h => by cases h⟩

theorem tame_readAt (offset wanted : Nat) : Tame (readAt offset wanted) s := by
  refine ⟨?_, fun e he => ?_⟩
  · have hgather := (s.seek offset).identity_gather ByteArray.empty wanted
    show (read wanted (s.seek offset)).2.identity = _
    unfold read ExceptT.mk
    dsimp only
    split
    next h => rw [h] at hgather; exact hgather
    next h => rw [h] at hgather; exact hgather
  · obtain ⟨s', -, hrun⟩ := yields_readAt (m := s.medium) offset wanted s rfl
    rw [hrun] at he
    cases hfetch : s.medium.fetch offset wanted with
    | ok b => rw [hfetch] at he; cases he
    | error fault =>
      rw [hfetch] at he
      cases he
      exact Error.justified_toError (Medium.justified_of_fetch hfetch)

/-- What the source has can be read exactly. -/
theorem tame_readExactAt {offset wanted : Nat} (h : offset + wanted ≤ s.size) :
    Tame (readExactAt offset wanted) s := by
  refine (tame_readAt offset wanted).bind fun b s' hrun => ?_
  obtain ⟨s'', -, hrun'⟩ := yields_readAt (m := s.medium) offset wanted s rfl
  rw [hrun] at hrun'
  have hfetch : s.medium.fetch offset wanted = .ok b :=
    mapError_eq_ok_iff.1 (Prod.mk.inj hrun').1.symm
  have hsize : ¬ b.size < wanted := by
    rw [Medium.eq_extract_of_fetch hfetch, ByteArray.size_extract]
    unfold Source.size at h
    omega
  rw [if_neg hsize]
  exact tame_pure b

/-- A loop over a list of tame steps is tame. -/
theorem tame_foldlM {f : β → α → Fetch β} (hf : ∀ b a s, Tame (f b a) s) (l : List α) (b : β) :
    Tame (l.foldlM f b) s := by
  induction l generalizing b s with
  | nil => exact tame_pure b
  | cons a l ih =>
    rw [List.foldlM_cons]
    exact (hf b a s).bind fun _ _ _ => ih _

theorem tame_readSector (h : Header) (count : Nat) (sector : UInt32) :
    Tame (h.readSector count sector) s := by
  unfold Header.readSector
  exact .guard _ fun _ => (tame_readAt _ _).bind fun _ _ _ => tame_pure _

theorem tame_readChain (h : Header) (count : Nat) (chain : List UInt32) :
    Tame (h.readChain count chain) s :=
  tame_foldlM (fun _ sector _ => (tame_readSector h count sector).bind fun _ _ _ => tame_pure _)
    chain _

end Fetch

/-! ## Loading is tame -/

section Loading

open Fetch

variable {s : Source}

theorem tame_followDifat (h : Header) (count : Nat) (sector : UInt32) (visited : List UInt32)
    (found : Array UInt32) : Tame (Fat.followDifat h count sector visited found) s := by
  fun_induction Fat.followDifat h count sector visited found generalizing s with
  | case1 => exact tame_pure _
  | case2 => exact tame_throw _
  | case3 => exact tame_throw _
  | case4 => exact tame_throw _
  | case5 sector visited found _ _ _ _ ih =>
    exact (tame_readSector h count sector).bind fun block _ _ =>
      (tame_ofExcept _ _).bind fun found _ _ => ih block found

theorem tame_locations (h : Header) (count : Nat) : Tame (Fat.locations h count) s := by
  refine (tame_ofExcept _ _).bind fun found _ _ => ?_
  split
  · exact tame_pure _
  · exact tame_followDifat _ _ _ _ _

theorem tame_fatLoad (h : Header) (count : Nat) : Tame (Fat.load h count) s :=
  (tame_locations h count).bind fun _ _ _ => (tame_readChain _ _ _).bind fun _ _ _ => tame_pure _

theorem tame_loadHeader {size : Nat} (hsize : s.size = size) :
    Tame (Contents.loadHeader size) s := by
  unfold Contents.loadHeader
  refine .guard _ fun hlarge => ?_
  exact (tame_readExactAt (by omega)).bind fun _ _ _ => tame_ofExcept _ _

theorem tame_loadDirectory (h : Header) (fat : AllocationTable) (strict : Bool) :
    Tame (Contents.loadDirectory h fat strict) s :=
  (tame_ofExcept _ _).bind fun _ _ _ => (tame_readChain _ _ _).bind fun _ _ _ => tame_ofExcept _ _

theorem tame_loadMini (h : Header) (fat : AllocationTable) (tree : Directory.Tree) :
    Tame (Contents.loadMini h fat tree) s := by
  unfold Contents.loadMini MiniStream.load
  split
  · exact tame_pure _
  · split
    · exact tame_pure _
    · exact (tame_ofExcept _ _).bind fun _ _ _ => (tame_ofExcept _ _).bind fun _ _ _ =>
        (tame_readChain _ _ _).bind fun _ _ _ => tame_pure _

/-- **Loading keeps the identity of its source**, and fails only for damage or at the bad region. -/
theorem tame_load (options : OpenOptions) : Tame (Contents.load options) s := by
  refine tame_size.bind fun size s' hrun => ?_
  cases hrun
  refine (tame_loadHeader (s := s.seek s.size) rfl).bind fun _ _ _ => ?_
  refine (tame_fatLoad _ _).bind fun _ _ _ => (tame_loadDirectory _ _ _).bind fun read _ _ => ?_
  exact (tame_loadMini _ _ read.1).bind fun _ _ _ => tame_pure _

end Loading

/-! ## Streams -/

namespace StreamReader

theorem identity_readInto (got : ByteArray) (wanted : Nat) (r : StreamReader) :
    (r.readInto got wanted).2.source.identity = r.source.identity := by
  fun_induction readInto got wanted r with
  | case1 | case5 => rfl
  | case2 wanted got r _ offset left _ count e s hrun
  | case3 wanted got r _ offset left _ count data s hrun =>
    have hread := (Fetch.tame_readAt (s := r.source) offset count).identity
    rw [hrun] at hread
    exact hread
  | case4 wanted got r _ offset left _ count data s hrun _ ih =>
    have hread := (Fetch.tame_readAt (s := r.source) offset count).identity
    rw [hrun] at hread
    exact ih.trans hread

theorem identity_read (r : StreamReader) (wanted : Nat) :
    (r.read wanted).2.source.identity = r.source.identity :=
  identity_readInto ByteArray.empty wanted r

theorem identity_readExact (r : StreamReader) (wanted : Nat) :
    (r.readExact wanted).2.source.identity = r.source.identity := by
  have hread := r.identity_read wanted
  unfold readExact
  split
  next h => rw [h] at hread; exact hread
  next => exact hread

theorem identity_readToEnd (r : StreamReader) :
    r.readToEnd.2.source.identity = r.source.identity := by
  have hread := r.identity_read (r.size - r.position)
  unfold readToEnd
  split
  next h => rw [h] at hread; exact hread
  next h => rw [h] at hread; exact hread

theorem identity_seek (r : StreamReader) (t : SeekTarget) :
    (r.seek t).2.source.identity = r.source.identity := by
  unfold seek
  dsimp only
  split <;> rfl

theorem identity_run (c : StreamCommand) (r : StreamReader) :
    (c.run r).2.source.identity = r.source.identity := by
  cases c with
  | read wanted => exact r.identity_read wanted
  | readExact wanted => exact r.identity_readExact wanted
  | readToEnd => exact r.identity_readToEnd
  | seek t => exact r.identity_seek t
  | layout | text => rfl

/-- A script keeps the identity of the source. -/
theorem identity_runAll (script : List StreamCommand) (r : StreamReader) :
    (StreamCommand.runAll script r).2.source.identity = r.source.identity := by
  induction script generalizing r with
  | nil => rfl
  | cons c script ih => exact (ih _).trans (identity_run c r)

end StreamReader

/-! ## Sessions -/

namespace Session

/-- The identity of the source that is open. -/
def identity? (s : Session) : Option (Medium × Pace) := s.file?.map (·.source.identity)

theorem isOpen_iff_identity? {s : Session} : s.isOpen = true ↔ ∃ id, s.identity? = some id := by
  unfold isOpen identity?
  cases s.file? with
  | none => simp
  | some f => simp

/-- The session has the identity of its source again after a reader worked. -/
theorem identity?_withStream {α : Type} (s : Session) (l : Locator)
    {work : StreamReader → Except Error α × StreamReader}
    (hwork : ∀ r, (work r).2.source.identity = r.source.identity) :
    (s.withStream l work).2.identity? = s.identity? := by
  unfold withStream
  cases hreader : s.reader l with
  | error e => rfl
  | ok r =>
    obtain ⟨i, f, -, hopen, hmake⟩ := make_of_reader hreader
    obtain ⟨-, units, -, rfl⟩ := StreamReader.make_eq_ok_iff.1 hmake
    unfold identity? giveBack
    dsimp only
    rw [hopen, Option.map_some, Option.map_some, Option.map_some, hwork]

theorem identity?_readStream (s : Session) (l : Locator) :
    (s.readStream l).2.identity? = s.identity? :=
  identity?_withStream s l StreamReader.identity_readToEnd

theorem identity?_snapshotLine (s : Session) (path : String) (i : Item) :
    (s.snapshotLine path i).2.identity? = s.identity? := by
  unfold snapshotLine
  split
  · exact identity?_readStream s _
  · rfl

theorem identity?_snapshotLines (items : List (String × Item)) (s : Session) :
    (s.snapshotLines items).2.identity? = s.identity? := by
  induction items generalizing s with
  | nil => rfl
  | cons first rest ih => exact (ih _).trans (identity?_snapshotLine s first.1 first.2)

theorem identity?_snapshot (s : Session) : s.snapshot.2.identity? = s.identity? := by
  unfold snapshot
  cases s.contents with
  | error e => rfl
  | ok c => exact identity?_snapshotLines c.outline s

theorem identity?_propertySet (s : Session) (path : String) :
    (s.propertySet path).2.identity? = s.identity? := by
  have hread := identity?_readStream s (.path path)
  unfold propertySet
  split
  next h => rw [h] at hread; exact hread
  next h => rw [h] at hread; exact hread

end Session

end CompoundFile
