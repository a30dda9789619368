import CompoundFile.Source
import Mathlib

/-!
# What reading gives

A source has a cursor, it may deliver in small portions, and it may be interrupted. None of this
shows in what a program reads.

**One read** (`Medium.fetch`). Gathering bytes from an offset on gives the bytes of the medium
there, as far as the medium goes, or the fault of the region that cannot be read if these bytes
meet it. The induction is on the portions; a fault of the whole range is a fault of the first
portion or of the rest (`fault?_split`).

**Programs** (`Fetch.Yields`). A program yields a result on a medium if it gives this result from
every source of the medium, and leaves a source of the medium behind. Results of parts put
together are results of the whole (`Yields.bind`), and so every program that only reads at
absolute offsets is `Steady`: it yields one result on each medium.

Main results: `gather_eq`, `yields_readAt` and `steady_readChain`.
-/

namespace CompoundFile

/-! ## One read -/

namespace Medium

/-- What reading `wanted` bytes from an offset on gives. -/
def fetch (m : Medium) (offset wanted : Nat) : Except IoFault ByteArray :=
  match m.fault? offset (offset + min wanted (m.bytes.size - offset)) with
  | some fault => .error fault
  | none => .ok (m.bytes.extract offset (offset + wanted))

/-- The byte at an offset exists and can be read. -/
def Readable (m : Medium) (offset : Nat) : Prop :=
  offset < m.bytes.size ∧ ∀ r, m.bad = some r → ¬(r.first ≤ offset ∧ offset < r.past)

@[simp] theorem fault?_self (m : Medium) (offset : Nat) : m.fault? offset offset = none := by
  unfold fault?
  split
  next => rfl
  next r _ => exact if_neg (by omega)

/-- A range meets the bad region where its first part does or its last part does. -/
theorem fault?_split (m : Medium) {offset middle past : Nat} (h : offset ≤ middle)
    (h' : middle ≤ past) :
    m.fault? offset past = (m.fault? offset middle).or (m.fault? middle past) := by
  unfold fault?
  cases m.bad with
  | none => rfl
  | some r =>
    simp only
    split_ifs <;> first | rfl | omega

theorem fault?_eq_none_iff {m : Medium} {offset past : Nat} :
    m.fault? offset past = none ↔
      ∀ r, m.bad = some r → ∀ i, offset ≤ i → i < past → ¬(r.first ≤ i ∧ i < r.past) := by
  unfold fault?
  cases m.bad with
  | none => simp
  | some r =>
    simp only [ite_eq_right_iff, reduceCtorEq, imp_false, Option.some.injEq, forall_eq']
    constructor
    · intro h i _ _ _
      omega
    · intro h hmeet
      exact h (max offset r.first) (by omega) (by omega) (by omega)

/-- **All bytes of a range are fetched exactly when each can be read.** -/
theorem fetch_full_iff {m : Medium} {offset wanted : Nat} :
    (∃ b, m.fetch offset wanted = .ok b ∧ b.size = wanted) ↔
      ∀ j < wanted, m.Readable (offset + j) := by
  constructor
  · rintro ⟨b, hb, hsize⟩ j hj
    unfold fetch at hb
    split at hb
    next => cases hb
    next hfault =>
      cases hb
      rw [ByteArray.size_extract] at hsize
      refine ⟨by omega, fun r hr => ?_⟩
      exact fault?_eq_none_iff.1 hfault r hr (offset + j) (by omega) (by omega)
  · intro h
    have hend : ∀ j < wanted, offset + j < m.bytes.size := fun j hj => (h j hj).1
    have hnone : m.fault? offset (offset + min wanted (m.bytes.size - offset)) = none := by
      refine fault?_eq_none_iff.2 fun r hr i hi hi' => ?_
      have := (h (i - offset) (by omega)).2 r hr
      rwa [Nat.add_sub_cancel' hi] at this
    refine ⟨m.bytes.extract offset (offset + wanted), by rw [fetch, hnone], ?_⟩
    rw [ByteArray.size_extract]
    rcases Nat.eq_zero_or_pos wanted with rfl | hpos
    · omega
    · have := hend (wanted - 1) (by omega)
      omega

theorem eq_extract_of_fetch {m : Medium} {offset wanted : Nat} {b : ByteArray}
    (h : m.fetch offset wanted = .ok b) : b = m.bytes.extract offset (offset + wanted) := by
  unfold fetch at h
  split at h
  next => cases h
  next => cases h; rfl

/-- A medium without a bad region never fails. -/
theorem fetch_of_sound {m : Medium} (h : m.bad = none) (offset wanted : Nat) :
    m.fetch offset wanted = .ok (m.bytes.extract offset (offset + wanted)) := by
  rw [fetch, fault?_eq_none_iff.2 (by simp [h])]

end Medium

/-! ## Gathering -/

namespace Source

theorem deliver_of_interrupted {s s' : Source} {wanted : Nat}
    (h : s.read wanted = (.interrupted, s')) : s.deliver wanted = s'.deliver wanted := by
  rw [deliver]
  split
  next h' => rw [h] at h'; cases h'; rfl
  next h' => rw [h] at h'; cases h'
  next h' => rw [h] at h'; cases h'

/-- A delivery is a portion of what is wanted, empty only when nothing is left, or the fault that
this portion meets. -/
theorem deliver_eq (wanted : Nat) (s : Source) :
    ∃ n s', n ≤ min wanted (s.size - s.position) ∧
      (n = 0 → min wanted (s.size - s.position) = 0) ∧ s'.medium = s.medium ∧
      match s.medium.fault? s.position (s.position + n) with
      | some fault => s.deliver wanted = (.error fault, s')
      | none => s.deliver wanted = (.ok (s.medium.bytes.extract s.position (s.position + n)), s') ∧
          s'.position = s.position + n := by
  by_cases hpending : 0 < s.pending
  · have hread : s.read wanted = (.interrupted, { s with pending := s.pending - 1 }) := by
      rw [read, if_pos hpending]
    rw [deliver_of_interrupted hread]
    exact deliver_eq wanted { s with pending := s.pending - 1 }
  · refine ⟨s.share wanted, (s.read wanted).2, ?_, ?_, ?_, ?_⟩
    · unfold share
      omega
    · unfold share
      omega
    · unfold read
      rw [if_neg hpending]
      dsimp only
      split <;> rfl
    · rw [deliver]
      unfold read
      rw [if_neg hpending]
      dsimp only
      cases s.medium.fault? s.position (s.position + s.share wanted) with
      | some fault => rfl
      | none => exact ⟨rfl, rfl⟩
termination_by s.pending
decreasing_by exact Nat.sub_lt hpending Nat.one_pos

/-- **Gathering gives what the medium holds**, whatever the pace of the source. -/
theorem gather_eq (got : ByteArray) (wanted : Nat) (s : Source) :
    ∃ s', s'.medium = s.medium ∧
      s.gather got wanted = ((s.medium.fetch s.position wanted).map (got ++ ·), s') := by
  induction wanted using Nat.strongRecOn generalizing got s with
  | ind wanted ih =>
    rcases Nat.eq_zero_or_pos wanted with rfl | hpos
    · exact ⟨s, rfl, by rw [gather, if_pos rfl]; simp [Medium.fetch, Except.map]⟩
    · obtain ⟨n, s', hn, hzero, hmedium, hdeliver⟩ := deliver_eq wanted s
      have hsplit : s.medium.fault? s.position (s.position + min wanted (s.size - s.position)) =
          (s.medium.fault? s.position (s.position + n)).or (s.medium.fault? (s.position + n)
            (s.position + min wanted (s.size - s.position))) :=
        s.medium.fault?_split (Nat.le_add_right s.position n) (by omega)
      rw [gather, if_neg (by omega), Medium.fetch, ← size, hsplit]
      cases hfault : s.medium.fault? s.position (s.position + n) with
      | some fault =>
        rw [hfault] at hdeliver
        exact ⟨s', hmedium, by rw [hdeliver]; rfl⟩
      | none =>
        rw [hfault] at hdeliver
        obtain ⟨hdeliver, hposition⟩ := hdeliver
        rw [hdeliver]
        have hsize : (s.medium.bytes.extract s.position (s.position + n)).size = n := by
          have : n ≤ s.medium.bytes.size - s.position := by unfold size at hn; omega
          rw [ByteArray.size_extract]
          omega
        rcases Nat.eq_zero_or_pos n with rfl | hn0
        · -- Nothing is left: the medium ends at the cursor or before.
          have hend : s.medium.bytes.size ≤ s.position := by
            have := hzero rfl
            unfold size at this
            omega
          have hempty : s.medium.bytes.extract s.position (s.position + wanted) =
              ByteArray.empty := ByteArray.extract_eq_empty_iff.2 (by omega)
          refine ⟨s', hmedium, ?_⟩
          rw [hzero rfl]
          simp [hempty, Except.map]
        · obtain ⟨s'', hmedium', hrest⟩ := ih (wanted - n) (by omega)
            (got ++ s.medium.bytes.extract s.position (s.position + n)) s'
          refine ⟨s'', hmedium'.trans hmedium, ?_⟩
          simp only [hsize, Nat.ne_of_gt hn0, if_false]
          rw [hrest, hmedium, hposition, Medium.fetch]
          have hpast : s.position + n + min (wanted - n) (s.medium.bytes.size - (s.position + n)) =
              s.position + min wanted (s.size - s.position) := by unfold size at *; omega
          rw [hpast, Option.none_or]
          cases s.medium.fault? (s.position + n) (s.position + min wanted (s.size - s.position)) with
          | some fault => rfl
          | none =>
            simp only [Except.map]
            rw [ByteArray.append_assoc, ByteArray.extract_append_extract,
              show s.position + n + (wanted - n) = s.position + wanted by omega]
            rw [Nat.min_eq_left (by omega), Nat.max_eq_right (by omega)]

end Source

/-! ## Programs -/

namespace Fetch

variable {m : Medium} {α β : Type}

/-- From every source of the medium the program gives the result, and it leaves a source of the
medium behind. -/
def Yields (m : Medium) (x : Fetch α) (r : Except Error α) : Prop :=
  ∀ s : Source, s.medium = m → ∃ s', s'.medium = m ∧ x.run s = (r, s')

theorem yields_pure (a : α) : Yields m (pure a) (.ok a) := fun s hs => ⟨s, hs, rfl⟩

theorem yields_throw (e : Error) : Yields m (throw e : Fetch α) (.error e) :=
  fun s hs => ⟨s, hs, rfl⟩

theorem run_bind (x : Fetch α) (f : α → Fetch β) (s : Source) :
    (x >>= f).run s =
      match x.run s with
      | (.ok a, s') => (f a).run s'
      | (.error e, s') => (.error e, s') := by
  show (match x.run s with | (r, s') => ExceptT.bindCont f r s') = _
  rcases x.run s with ⟨e | a, s'⟩ <;> rfl

theorem Yields.bind {x : Fetch α} {f : α → Fetch β} {a : α} {r : Except Error β}
    (hx : Yields m x (.ok a)) (hf : Yields m (f a) r) : Yields m (x >>= f) r := by
  intro s hs
  obtain ⟨s₁, hs₁, hrun⟩ := hx s hs
  obtain ⟨s₂, hs₂, hrun'⟩ := hf s₁ hs₁
  exact ⟨s₂, hs₂, by rw [run_bind, hrun]; exact hrun'⟩

theorem Yields.bind_error {x : Fetch α} {e : Error} (hx : Yields m x (.error e))
    (f : α → Fetch β) : Yields m (x >>= f) (.error e) := by
  intro s hs
  obtain ⟨s₁, hs₁, hrun⟩ := hx s hs
  exact ⟨s₁, hs₁, by rw [run_bind, hrun]⟩

/-- A program yields one result only. -/
theorem Yields.unique {x : Fetch α} {r : Except Error α} (h : Yields m x r) {s : Source}
    (hs : s.medium = m) : (x.run s).1 = r ∧ (x.run s).2.medium = m := by
  obtain ⟨s', hs', hrun⟩ := h s hs
  rw [hrun]
  exact ⟨rfl, hs'⟩

theorem yields_ofExcept {ε : Type} (wrap : ε → FormatFault) (x : Except ε α) :
    Yields m (ofExcept wrap x) (x.mapError fun e => .format (wrap e)) := by
  cases x with
  | ok a => exact yields_pure a
  | error e => exact yields_throw _

theorem yields_ofExcept_ok {ε : Type} (wrap : ε → FormatFault) {x : Except ε α} {a : α}
    (h : x = .ok a) : Yields m (ofExcept wrap x) (.ok a) := by
  rw [h]
  exact yields_pure a

theorem yields_size : Yields m size (.ok m.bytes.size) := by
  rintro s rfl
  exact ⟨s.seek s.size, rfl, rfl⟩

theorem yields_readAt (offset wanted : Nat) :
    Yields m (readAt offset wanted) ((m.fetch offset wanted).mapError .io) := by
  rintro s rfl
  obtain ⟨s', hs', hgather⟩ := (s.seek offset).gather_eq ByteArray.empty wanted
  refine ⟨s', hs', ?_⟩
  show read wanted (s.seek offset) = _
  unfold read ExceptT.mk
  simp only [hgather]
  show _ = ((s.medium.fetch offset wanted).mapError Error.io, s')
  rw [show (s.seek offset).medium.fetch (s.seek offset).position wanted =
    s.medium.fetch offset wanted from rfl]
  cases s.medium.fetch offset wanted with
  | error fault => rfl
  | ok b => simp [Except.map, Except.mapError]

/-! ## Steady programs -/

/-- On each medium the program yields one result. -/
def Steady (x : Fetch α) : Prop := ∀ m, ∃ r, Yields m x r

theorem steady_pure (a : α) : Steady (pure a) := fun _ => ⟨_, yields_pure a⟩

theorem steady_throw (e : Error) : Steady (throw e : Fetch α) := fun _ => ⟨_, yields_throw e⟩

theorem Steady.bind {x : Fetch α} {f : α → Fetch β} (hx : Steady x) (hf : ∀ a, Steady (f a)) :
    Steady (x >>= f) := by
  intro m
  obtain ⟨e | a, hyields⟩ := hx m
  · exact ⟨_, hyields.bind_error f⟩
  · obtain ⟨r, hr⟩ := hf a m
    exact ⟨r, hyields.bind hr⟩

/-- A check that fails with an error before the rest of the program. -/
theorem Steady.guard {p : Prop} [Decidable p] {rest : PUnit → Fetch α} (e : Error)
    (h : Steady (rest ())) : Steady (if p then throw e >>= rest else rest ()) := by
  split
  · exact fun _ => ⟨_, (yields_throw e).bind_error rest⟩
  · exact h

theorem steady_ofExcept {ε : Type} (wrap : ε → FormatFault) (x : Except ε α) :
    Steady (ofExcept wrap x) := fun _ => ⟨_, yields_ofExcept wrap x⟩

theorem steady_size : Steady size := fun _ => ⟨_, yields_size⟩

theorem steady_readAt (offset wanted : Nat) : Steady (readAt offset wanted) :=
  fun _ => ⟨_, yields_readAt offset wanted⟩

theorem steady_readExactAt (offset wanted : Nat) : Steady (readExactAt offset wanted) :=
  (steady_readAt offset wanted).bind fun b => .guard _ (steady_pure b)

/-- A steady program yields one result on a medium. -/
theorem Yields.eq {x : Fetch α} {r r' : Except Error α} (h : Yields m x r) (h' : Yields m x r') :
    r = r' := by
  obtain ⟨hr, -⟩ := h.unique (s := .ofMedium m .steady) rfl
  obtain ⟨hr', -⟩ := h'.unique (s := .ofMedium m .steady) rfl
  exact hr.symm.trans hr'

theorem Steady.yields_of_run {x : Fetch α} {r : Except Error α} {s s' : Source} (hx : Steady x)
    (h : x.run s = (r, s')) : Yields s.medium x r := by
  obtain ⟨r', hr'⟩ := hx s.medium
  obtain ⟨rfl, -⟩ := hr'.unique rfl
  rwa [h] at hr'

/-- What a program of two parts yields, its parts yield. -/
theorem Yields.of_bind {x : Fetch α} {f : α → Fetch β} {b : β} (h : Yields m (x >>= f) (.ok b))
    (hx : Steady x) (hf : ∀ a, Steady (f a)) :
    ∃ a, Yields m x (.ok a) ∧ Yields m (f a) (.ok b) := by
  obtain ⟨e | a, hyields⟩ := hx m
  · cases h.eq (hyields.bind_error f)
  · obtain ⟨r, hr⟩ := hf a m
    obtain rfl := h.eq (hyields.bind hr)
    exact ⟨a, hyields, hr⟩

theorem Yields.of_guard {p : Prop} [Decidable p] {rest : PUnit → Fetch α} {e : Error} {a : α}
    (h : Yields m (if p then throw e >>= rest else rest ()) (.ok a)) :
    ¬p ∧ Yields m (rest ()) (.ok a) := by
  split at h
  · cases h.eq ((yields_throw e).bind_error rest)
  · exact ⟨‹¬p›, h⟩

theorem Yields.of_ofExcept {ε : Type} {wrap : ε → FormatFault} {x : Except ε α} {a : α}
    (h : Yields m (ofExcept wrap x) (.ok a)) : x = .ok a := by
  cases x with
  | ok a' =>
    cases h.eq (yields_ofExcept wrap _)
    rfl
  | error e => cases h.eq (yields_ofExcept wrap _)

theorem Yields.of_pure {a b : α} (h : Yields m (pure a) (.ok b)) : a = b := by
  cases h.eq (yields_pure a)
  rfl

/-- A loop over a list of steady steps is steady. -/
theorem steady_foldlM {f : β → α → Fetch β} (hf : ∀ b a, Steady (f b a)) (l : List α) (b : β) :
    Steady (l.foldlM f b) := by
  induction l generalizing b with
  | nil => exact steady_pure b
  | cons a l ih =>
    rw [List.foldlM_cons]
    exact (hf b a).bind ih

theorem steady_readSector (h : Header) (count : Nat) (sector : UInt32) :
    Steady (h.readSector count sector) := by
  unfold Header.readSector
  exact .guard _ ((steady_readAt _ _).bind fun _ => steady_pure _)

theorem steady_readChain (h : Header) (count : Nat) (chain : List UInt32) :
    Steady (h.readChain count chain) :=
  steady_foldlM (fun _ sector => (steady_readSector h count sector).bind fun _ => steady_pure _)
    chain _

end Fetch

end CompoundFile
