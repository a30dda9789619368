import CompoundFile.Chain
import CompoundFile.Proofs.Results
import CompoundFile.Source

/-!
# Chains

The links of a table lead from sector to sector (`AllocationTable.Path`). A chain is a path that
ends at the end mark. It repeats no sector: the sectors behind a sector are determined by it, so
they would repeat for ever.

**Walking.** A walk yields a path without repetition, and then a fault if the path does not lead to
the end mark (`finish_of_link`). A chain never meets a sector that was visited before, so the walk
along it yields all of it (`finish_of_path`).

**Resolving** collects what a walk yields, and fails if the walk yields a fault. For a prefix only
the first steps of the walk count (`resolvePrefix_eq`), so that a fault behind them does not matter.

Main results: `resolve_exact`, `resolvePrefix_exact`.
-/

namespace CompoundFile

/-- Different numbers below a bound. -/
theorem length_le_of_nodup {l : List UInt32} {n : Nat} (hnodup : l.Nodup)
    (hl : ∀ s ∈ l, s.toNat < n) : l.length ≤ n := by
  have hnodup' : (l.map UInt32.toNat).Nodup :=
    hnodup.map fun _ _ heq => UInt32.toNat_inj.1 heq
  have hsubset : l.map UInt32.toNat ⊆ List.range n := by
    intro i hi
    obtain ⟨s, hs, rfl⟩ := List.mem_map.1 hi
    exact List.mem_range.2 (hl s hs)
  simpa using (List.subperm_of_subset hnodup' hsubset).length_le

/-! ## Links -/

theorem SectorEntry.classify_of_le {raw : UInt32} (h : raw ≤ maxSector) :
    classify raw = .next raw := by
  have hmark : ∀ mark, maxSector < mark → raw ≠ mark := by
    rintro mark hlt rfl
    exact absurd h (UInt32.not_le.2 hlt)
  rw [classify, if_neg (hmark _ (by decide)), if_neg (hmark _ (by decide)),
    if_neg (hmark _ (by decide)), if_neg (hmark _ (by decide)), if_pos h]

/-- Where a link leads to. -/
theorem Place.ofLink_cases (after raw : UInt32) :
    raw ≤ maxSector ∧ ofLink after raw = .before raw ∨
      raw = endOfChainMark ∧ ofLink after raw = .finished ∨
      maxSector < raw ∧ raw ≠ endOfChainMark ∧ ∃ found, ofLink after raw = .broken after found := by
  by_cases hle : raw ≤ maxSector
  · exact Or.inl ⟨hle, by rw [ofLink, SectorEntry.classify_of_le hle]⟩
  · by_cases hend : raw = endOfChainMark
    · exact Or.inr (Or.inl ⟨hend, by rw [hend]; rfl⟩)
    · refine Or.inr (Or.inr ⟨UInt32.not_le.1 hle, hend, ?_⟩)
      unfold ofLink SectorEntry.classify
      rw [if_neg hend, if_neg hle]
      split_ifs <;> exact ⟨_, rfl⟩

namespace AllocationTable

variable {t : AllocationTable} {sector raw link last first : UInt32} {l c : List UInt32}

/-- A number that stands for a sector with data, as far as the table knows. -/
structure HasSector (t : AllocationTable) (sector : UInt32) : Prop where
  le_maxSector : sector ≤ maxSector
  lt_size : sector.toNat < t.size
  lt_capacity : sector.toNat < t.capacity

/-- The links of a table lead from a link through some sectors to another link. -/
inductive Path (t : AllocationTable) : UInt32 → List UInt32 → UInt32 → Prop
  | here (link : UInt32) : Path t link [] link
  | step {sector raw last : UInt32} {l : List UInt32} : t.HasSector sector →
      t.entry? sector = some raw → Path t raw l last → Path t sector (sector :: l) last

/-- A whole chain of a table. -/
structure IsChain (t : AllocationTable) (first : UInt32) (c : List UInt32) : Prop where
  head : c.head? = some first
  sector : ∀ s ∈ c, t.HasSector s
  linked : c.IsChain fun s s' => t.entry? s = some s'
  ends : ∀ s, c.getLast? = some s → t.entry? s = some endOfChainMark

namespace Path

theorem hasSector (h : t.Path link l last) : ∀ s ∈ l, t.HasSector s := by
  induction h with
  | here => exact List.forall_mem_nil _
  | step hsector _ _ ih => exact List.forall_mem_cons.2 ⟨hsector, ih⟩

theorem eq_cons (h : t.Path link (sector :: l) last) :
    link = sector ∧ t.HasSector sector ∧ ∃ raw, t.entry? sector = some raw ∧ t.Path raw l last := by
  cases h with
  | step hsector hentry hrest => exact ⟨rfl, hsector, _, hentry, hrest⟩

theorem not_hasSector_end : ¬t.HasSector endOfChainMark :=
  fun h => absurd h.le_maxSector (by decide)

/-- What follows a link up to the end mark is determined by it. -/
theorem unique {l' : List UInt32} (h : t.Path link l endOfChainMark)
    (h' : t.Path link l' endOfChainMark) : l = l' := by
  induction l generalizing link l' with
  | nil =>
    cases h
    cases h' with
    | here => rfl
    | step hsector => exact absurd hsector not_hasSector_end
  | cons s l ih =>
    obtain ⟨rfl, hsector, raw, hentry, hrest⟩ := h.eq_cons
    cases h' with
    | here => exact absurd hsector not_hasSector_end
    | step _ hentry' hrest' =>
      obtain rfl := Option.some.inj (hentry.symm.trans hentry')
      rw [ih hrest hrest']

theorem of_append {l' : List UInt32} (h : t.Path link (l ++ l') last) :
    ∃ middle, t.Path link l middle ∧ t.Path middle l' last := by
  induction l generalizing link with
  | nil => exact ⟨link, .here link, h⟩
  | cons s l ih =>
    obtain ⟨rfl, hsector, raw, hentry, hrest⟩ := h.eq_cons
    obtain ⟨middle, hfirst, hsecond⟩ := ih hrest
    exact ⟨middle, .step hsector hentry hfirst, hsecond⟩

/-- **A chain repeats no sector.** Otherwise the same sectors would follow a sector and its
repetition, which is nearer to the end. -/
theorem nodup (h : t.Path link l endOfChainMark) : l.Nodup := by
  induction l generalizing link with
  | nil => exact List.nodup_nil
  | cons s l ih =>
    obtain ⟨-, -, raw, hentry, hrest⟩ := id h.eq_cons
    refine List.nodup_cons.2 ⟨fun hmem => ?_, ih hrest⟩
    obtain ⟨before, after, rfl⟩ := List.append_of_mem hmem
    obtain ⟨middle, -, hagain⟩ := hrest.of_append
    obtain ⟨rfl, -⟩ := hagain.eq_cons
    obtain ⟨rfl, -⟩ := h.eq_cons
    have := congrArg List.length (h.unique hagain)
    simp only [List.length_cons, List.length_append] at this
    omega

end Path

/-- A chain is a path to the end mark. -/
theorem isChain_iff_path : t.IsChain first c ↔ c ≠ [] ∧ t.Path first c endOfChainMark := by
  induction c generalizing first with
  | nil => exact iff_of_false (fun h => by cases h.head) (fun h => h.1 rfl)
  | cons s c ih =>
    constructor
    · intro h
      obtain rfl : s = first := Option.some.inj h.head
      have hsector := h.sector s List.mem_cons_self
      refine ⟨List.cons_ne_nil _ _, ?_⟩
      cases c with
      | nil => exact .step hsector (h.ends s rfl) (.here _)
      | cons s' c =>
        obtain ⟨hlink, hlinked⟩ := List.isChain_cons_cons.1 h.linked
        have htail : t.IsChain s' (s' :: c) := {
          head := rfl
          sector := (List.forall_mem_cons.1 h.sector).2
          linked := hlinked
          ends := fun q hq => h.ends q (by rwa [List.getLast?_cons_cons]) }
        exact .step hsector hlink (ih.1 htail).2
    · rintro ⟨-, h⟩
      obtain ⟨rfl, hsector, raw, hentry, hrest⟩ := h.eq_cons
      cases c with
      | nil =>
        cases hrest
        exact {
          head := rfl
          sector := by simpa using hsector
          linked := List.isChain_singleton _
          ends := by rintro q ⟨⟩; exact hentry }
      | cons s' c =>
        obtain ⟨rfl, -⟩ := hrest.eq_cons
        have htail := ih.2 ⟨List.cons_ne_nil _ _, hrest⟩
        exact {
          head := rfl
          sector := List.forall_mem_cons.2 ⟨hsector, htail.sector⟩
          linked := List.isChain_cons_cons.2 ⟨hentry, htail.linked⟩
          ends := fun q hq => htail.ends q (by rwa [List.getLast?_cons_cons] at hq) }

end AllocationTable

/-! ## Walking -/

namespace Walker

open AllocationTable

variable {t : AllocationTable} {link : UInt32} {sectors c : List UInt32}

/-- The walk after a number of steps. -/
def after (w : Walker t) (k : Nat) : Walker t := (fun w => w.next.2)^[k] w

/-- **One step.** A walk at its end stays there. Any other walk yields the sector it stands before,
marks it and moves along the link, or yields a fault and ends. -/
theorem next_cases (w : Walker t) :
    w.place = .finished ∧ w.next = (none, w) ∨
      (∃ fault, w.place ≠ .finished ∧
        w.next = (some (.error fault), { w with place := .finished })) ∨
      ∃ sector raw, w.place = .before sector ∧ t.entry? sector = some raw ∧
        sector.toNat < t.capacity ∧ w.visited.contains sector.toNat = false ∧
        w.next =
          (some (.ok sector), ⟨Place.ofLink sector raw, w.visited.mark sector.toNat⟩) := by
  unfold next fail
  cases hplace : w.place with
  | finished => exact Or.inl ⟨rfl, rfl⟩
  | broken after found => exact Or.inr (Or.inl ⟨_, Place.noConfusion, rfl⟩)
  | before sector =>
    simp only
    cases hentry : t.entry? sector with
    | none => exact Or.inr (Or.inl ⟨_, Place.noConfusion, rfl⟩)
    | some raw =>
      by_cases hcapacity : t.capacity ≤ sector.toNat
      · exact Or.inr (Or.inl ⟨.beyondData t.kind sector t.capacity, Place.noConfusion,
          by simp only [if_pos hcapacity]⟩)
      · cases hvisited : w.visited.contains sector.toNat with
        | true =>
          exact Or.inr (Or.inl ⟨.cycle t.kind sector, Place.noConfusion, by simp [hcapacity]⟩)
        | false =>
          exact Or.inr (Or.inr ⟨sector, raw, rfl, hentry, Nat.lt_of_not_le hcapacity, hvisited,
            by simp [hcapacity]⟩)

theorem next_of_fresh {m : Marks t.size} {sector raw : UInt32} (hentry : t.entry? sector = some raw)
    (hcapacity : sector.toNat < t.capacity) (hfresh : m.contains sector.toNat = false) :
    next (t := t) ⟨.before sector, m⟩ =
      (some (.ok sector), ⟨Place.ofLink sector raw, m.mark sector.toNat⟩) := by
  simp [next, hentry, Nat.not_le.2 hcapacity, hfresh]

theorem finish_of_finished (m : Marks t.size) : (finish (t := t) ⟨.finished, m⟩).1 = [] := by
  rw [finish_of_none rfl]

/-- Sectors, and a fault behind them if there is one. -/
def results (sectors : List UInt32) (fault? : Option ChainFault) :
    List (Except ChainFault UInt32) :=
  sectors.map .ok ++ (fault?.map .error).toList

theorem mapM_results (sectors : List UInt32) (fault? : Option ChainFault) :
    (results sectors fault?).mapM id =
      match fault? with
      | none => .ok sectors
      | some fault => .error fault := by
  induction sectors with
  | nil => cases fault? <;> rfl
  | cons s sectors ih =>
    show ((Except.ok s :: results sectors fault?).mapM id) = _
    rw [List.mapM_cons, ih]
    cases fault? <;> rfl

/-- What comes first of sectors and a fault is sectors, with the fault behind them if it comes to
that. -/
theorem take_results (sectors : List UInt32) (fault? : Option ChainFault) (n : Nat) :
    (results sectors fault?).take n =
      results (sectors.take n) (if n ≤ sectors.length then none else fault?) := by
  unfold results
  rw [List.take_append, List.length_map, ← List.map_take]
  split
  next hle =>
    rw [Nat.sub_eq_zero_of_le hle]
    rfl
  next hlt =>
    have hfault : (fault?.map Except.error : Option (Except ChainFault UInt32)).toList.length ≤
        n - sectors.length := by
      cases fault? <;> simp only [Option.map, Option.toList, List.length] <;> omega
    rw [List.take_of_length_le (by omega), List.take_of_length_le hfault]

/-- **A walk yields a path** without repetition through sectors that were not visited, and a fault
if the path does not lead to the end mark. -/
theorem finish_of_link (after raw : UInt32) (m : Marks t.size) :
    ∃ sectors last fault?,
      (finish (t := t) ⟨Place.ofLink after raw, m⟩).1 = results sectors fault? ∧
      t.Path raw sectors last ∧ (fault? = none → last = endOfChainMark) ∧ sectors.Nodup ∧
      ∀ s ∈ sectors, m.contains s.toNat = false := by
  induction hroom : m.room using Nat.strongRecOn generalizing after raw m with
  | ind room ih =>
    rcases next_cases (t := t) ⟨Place.ofLink after raw, m⟩ with
      ⟨hplace, hnext⟩ | ⟨fault, -, hnext⟩ | ⟨sector, raw', hplace, hentry, hcapacity, hfresh, hnext⟩
    · refine ⟨[], raw, none, by rw [finish_of_none hnext]; rfl, .here raw, fun _ => ?_,
        List.nodup_nil, List.forall_mem_nil _⟩
      rcases Place.ofLink_cases after raw with ⟨-, h⟩ | ⟨hend, -⟩ | ⟨-, -, found, h⟩
      · rw [h] at hplace
        cases hplace
      · exact hend
      · rw [h] at hplace
        cases hplace
    · refine ⟨[], raw, some fault, ?_, .here raw, nofun, List.nodup_nil, List.forall_mem_nil _⟩
      rw [finish_of_some hnext, finish_of_finished]
      rfl
    · -- The walk stands before a sector, so the link names it.
      obtain ⟨rfl, hle⟩ : raw = sector ∧ raw ≤ maxSector := by
        rcases Place.ofLink_cases after raw with ⟨hle, h⟩ | ⟨-, h⟩ | ⟨-, -, found, h⟩ <;>
          rw [h] at hplace <;> cases hplace
        exact ⟨rfl, hle⟩
      have hsize := lt_size_of_entry? hentry
      obtain ⟨sectors, last, fault?, hfinish, hpath, hlast, hnodup, hrest⟩ :=
        ih _ (hroom ▸ Marks.room_mark_lt hsize hfresh) raw raw' (m.mark raw.toNat) rfl
      have hrest' : ∀ s ∈ sectors, m.contains s.toNat = false ∧ s ≠ raw := by
        intro s hs
        have := hrest s hs
        rw [Marks.contains_mark, Bool.or_eq_false_iff, Bool.and_eq_false_iff] at this
        refine ⟨this.1, ?_⟩
        rintro rfl
        simpa [hsize] using this.2
      refine ⟨raw :: sectors, last, fault?, ?_, .step ⟨hle, hsize, hcapacity⟩ hentry hpath, hlast,
        List.nodup_cons.2 ⟨fun hmem => (hrest' raw hmem).2 rfl, hnodup⟩,
        List.forall_mem_cons.2 ⟨hfresh, fun s hs => (hrest' s hs).1⟩⟩
      rw [finish_of_some hnext, hfinish]
      rfl

/-- **A walk along a chain yields the chain**, if it was nowhere on the chain before. -/
theorem finish_of_path {raw last : UInt32} (hpath : t.Path raw c last)
    (hlast : last = endOfChainMark) (hnodup : c.Nodup) (after : UInt32) (m : Marks t.size)
    (hfresh : ∀ s ∈ c, m.contains s.toNat = false) :
    (finish (t := t) ⟨Place.ofLink after raw, m⟩).1 = results c none := by
  induction hpath generalizing after m with
  | here raw =>
    subst hlast
    exact finish_of_finished m
  | @step sector raw last l hsector hentry _ ih =>
    have hplace : Place.ofLink after sector = .before sector := by
      rw [Place.ofLink, SectorEntry.classify_of_le hsector.le_maxSector]
    obtain ⟨hnew, hnodup⟩ := List.nodup_cons.1 hnodup
    obtain ⟨hhere, hrest⟩ := List.forall_mem_cons.1 hfresh
    have hrest' : ∀ s ∈ l, (m.mark sector.toNat).contains s.toNat = false := by
      intro s hs
      have hne : sector.toNat ≠ s.toNat := by
        intro heq
        rw [UInt32.toNat_inj.1 heq] at hnew
        exact hnew hs
      simp [Marks.contains_mark, hrest s hs, hne]
    rw [hplace, finish_of_some (next_of_fresh hentry hsector.lt_capacity hhere),
      ih hlast hnodup sector _ hrest']
    rfl

/-- The steps of a walk give what it yields one after the other, and nothing ever after. -/
theorem next_after (w : Walker t) (k : Nat) : (w.after k).next.1 = w.finish.1[k]? := by
  induction k generalizing w with
  | zero =>
    show w.next.1 = _
    match hnext : w.next with
    | (none, w') => rw [finish_of_none hnext]; rfl
    | (some r, w') => rw [finish_of_some hnext]; rfl
  | succ k ih =>
    show (w.next.2.after k).next.1 = _
    rw [ih]
    match hnext : w.next with
    | (none, w') =>
      rw [eq_of_next_eq_none hnext, finish_of_none hnext]
      rfl
    | (some r, w') =>
      rw [finish_of_some hnext]
      rfl

end Walker

/-! ## Resolving -/

namespace AllocationTable

variable {t : AllocationTable}

/-- What the walk from a sector number or a mark yields. -/
theorem walk_eq (t : AllocationTable) (first : UInt32) :
    ∃ sectors last fault?, t.walk first = Walker.results sectors fault? ∧
      t.Path first sectors last ∧ (fault? = none → last = endOfChainMark) ∧ sectors.Nodup := by
  obtain ⟨sectors, last, fault?, hwalk, hpath, hlast, hnodup, -⟩ :=
    Walker.finish_of_link first first (Marks.clear t.size)
  exact ⟨sectors, last, fault?, hwalk, hpath, hlast, hnodup⟩

theorem resolve_eq_ok_iff_path {first : UInt32} {c : List UInt32} :
    t.resolve first = .ok c ↔ t.Path first c endOfChainMark := by
  constructor
  · intro h
    obtain ⟨sectors, last, fault?, hwalk, hpath, hlast, -⟩ := t.walk_eq first
    rw [resolve, hwalk, Walker.mapM_results] at h
    cases fault? with
    | some fault => cases h
    | none =>
      cases h
      rwa [hlast rfl] at hpath
  · intro hpath
    have hwalk : t.walk first = Walker.results c none :=
      Walker.finish_of_path hpath rfl hpath.nodup first _ fun s _ => Marks.contains_clear _
    rw [resolve, hwalk, Walker.mapM_results]

theorem resolve_eq_ok_iff {first : UInt32} {c : List UInt32} :
    t.resolve first = .ok c ↔ first = endOfChainMark ∧ c = [] ∨ t.IsChain first c := by
  rw [resolve_eq_ok_iff_path, isChain_iff_path]
  cases c with
  | nil =>
    constructor
    · intro h
      cases h
      exact Or.inl ⟨rfl, rfl⟩
    · rintro (⟨rfl, -⟩ | ⟨hne, -⟩)
      · exact .here _
      · exact absurd rfl hne
  | cons s c => simp

/-- **A prefix is what a walk yields first.** If the walk yields fewer sectors than are needed, its
fault comes out, or that the chain is too short. -/
theorem resolvePrefix_eq {first : UInt32} {sectors : List UInt32} {fault? : Option ChainFault}
    (h : t.walk first = Walker.results sectors fault?) (needed : Nat) :
    t.resolvePrefix first needed =
      if needed ≤ sectors.length then .ok (sectors.take needed)
      else .error (fault?.getD (.tooShort t.kind first sectors.length needed)) := by
  unfold resolvePrefix
  rw [h, Walker.take_results, Walker.mapM_results]
  by_cases hle : needed ≤ sectors.length
  · rw [if_pos hle, if_pos hle]
    split
    next hzero =>
      rw [hzero, List.take_zero]
      rfl
    next =>
      have hlong : ¬(sectors.take needed).length < needed := by
        rw [List.length_take]
        omega
      show (if (sectors.take needed).length < needed then _ else _) = _
      rw [if_neg hlong]
      rfl
  · rw [if_neg hle, if_neg hle, if_neg (by omega), List.take_of_length_le (by omega)]
    cases fault? with
    | some fault => rfl
    | none =>
      show (if sectors.length < needed then _ else _) = _
      rw [if_pos (by omega)]
      rfl

theorem resolvePrefix_eq_ok_iff {first : UInt32} {sectors l : List UInt32}
    {fault? : Option ChainFault} (h : t.walk first = Walker.results sectors fault?) {needed : Nat} :
    t.resolvePrefix first needed = .ok l ↔ needed ≤ sectors.length ∧ l = sectors.take needed := by
  rw [resolvePrefix_eq h]
  split
  next hle => simp [hle, eq_comm]
  next hlt => simp [hlt]

theorem length_of_resolvePrefix {t : AllocationTable} {first : UInt32} {needed : Nat}
    {l : List UInt32} (h : t.resolvePrefix first needed = .ok l) : l.length = needed := by
  obtain ⟨sectors, _, _, hwalk, -⟩ := t.walk_eq first
  obtain ⟨hle, rfl⟩ := (resolvePrefix_eq_ok_iff hwalk).1 h
  exact List.length_take_of_le hle

theorem hasSector_of_resolvePrefix {needed : Nat} {first : UInt32} {l : List UInt32}
    (h : t.resolvePrefix first needed = .ok l) : l.Nodup ∧ ∀ s ∈ l, t.HasSector s := by
  obtain ⟨sectors, last, fault?, hwalk, hpath, -, hnodup⟩ := t.walk_eq first
  obtain ⟨-, rfl⟩ := (resolvePrefix_eq_ok_iff hwalk).1 h
  exact ⟨hnodup.sublist (List.take_sublist _ _),
    fun s hs => hpath.hasSector s (List.mem_of_mem_take hs)⟩

/-- **Resolving is exact.** It gives the empty chain at the end mark and the whole chain that begins
with a sector, in which no sector repeats; if there is neither, it fails for damage. The walk behind
it yields different sectors, no more than the table has entries or the file has data, then at most
one fault, and nothing ever after. -/
theorem resolve_exact (t : AllocationTable) (first : UInt32) :
    (∀ c, t.resolve first = .ok c ↔ first = endOfChainMark ∧ c = [] ∨ t.IsChain first c) ∧
      (∀ c, t.IsChain first c → c.Nodup) ∧
      ((∃ fault, ∀ source, (Fetch.ofExcept .chain (t.resolve first)).run source =
          (.error (.format (.chain fault)), source)) ↔
        ¬∃ c, first = endOfChainMark ∧ c = [] ∨ t.IsChain first c) ∧
      ∃ (sectors : List UInt32) (fault? : Option ChainFault),
        t.walk first = sectors.map .ok ++ (fault?.map .error).toList ∧
        sectors.Nodup ∧ sectors.length ≤ min t.size t.capacity ∧
        ∀ k, ((Walker.start t first).after k).next.1 =
          (sectors.map .ok ++ (fault?.map .error).toList)[k]? := by
  refine ⟨fun c => resolve_eq_ok_iff, fun c hc => (isChain_iff_path.1 hc).2.nodup, ?_, ?_⟩
  · simp only [← resolve_eq_ok_iff]
    cases t.resolve first with
    | error fault => exact iff_of_true ⟨fault, fun _ => rfl⟩ nofun
    | ok c =>
      refine iff_of_false ?_ (not_not.2 ⟨c, rfl⟩)
      rintro ⟨fault, h⟩
      cases h (.ofMedium ⟨.empty, none⟩ .steady)
  · obtain ⟨sectors, last, fault?, hwalk, hpath, -, hnodup⟩ := t.walk_eq first
    refine ⟨sectors, fault?, hwalk, hnodup, Nat.le_min.2 ⟨?_, ?_⟩, fun k => ?_⟩
    · exact length_le_of_nodup hnodup fun s hs => (hpath.hasSector s hs).lt_size
    · exact length_le_of_nodup hnodup fun s hs => (hpath.hasSector s hs).lt_capacity
    · rw [Walker.next_after]
      exact congrArg (·[k]?) hwalk

/-- **A prefix agrees with the whole.** Let some sectors be what the steps of a walk yield before the
walk ends or fails. A prefix is resolved when there are that many of them, and it is the first of
them; otherwise it fails for damage, for the fault of the walk if there is one. So a shorter prefix is
the beginning of a longer one, and every prefix is a beginning of the whole chain if that is
resolved. -/
theorem resolvePrefix_exact (t : AllocationTable) (first : UInt32) :
    ∃ (sectors : List UInt32) (fault? : Option ChainFault),
      (∀ k, ((Walker.start t first).after k).next.1 =
        (sectors.map .ok ++ (fault?.map .error).toList)[k]?) ∧
      (∀ needed l, t.resolvePrefix first needed = .ok l ↔
        needed ≤ sectors.length ∧ l = sectors.take needed) ∧
      (∀ needed, (∀ source, (Fetch.ofExcept .chain (t.resolvePrefix first needed)).run source =
          (.error (.format (.chain (fault?.getD (.tooShort t.kind first sectors.length needed)))),
            source)) ↔
        sectors.length < needed) ∧
      (∀ needed l, t.resolvePrefix first needed = .ok l →
        ∀ fewer ≤ needed, t.resolvePrefix first fewer = .ok (l.take fewer)) ∧
      ∀ c, t.resolve first = .ok c → ∀ needed l, t.resolvePrefix first needed = .ok l ↔
        needed ≤ c.length ∧ l = c.take needed := by
  obtain ⟨sectors, last, fault?, hwalk, -⟩ := t.walk_eq first
  have hresolved : ∀ needed l, t.resolvePrefix first needed = .ok l ↔
      needed ≤ sectors.length ∧ l = sectors.take needed := fun _ _ => resolvePrefix_eq_ok_iff hwalk
  refine ⟨sectors, fault?, fun k => ?_, hresolved, fun needed => ?_, ?_, ?_⟩
  · rw [Walker.next_after]
    exact congrArg (·[k]?) hwalk
  · rw [resolvePrefix_eq hwalk]
    split
    next hle =>
      refine iff_of_false (fun h => ?_) (Nat.not_lt.2 hle)
      cases h (.ofMedium ⟨.empty, none⟩ .steady)
    next hlt => exact iff_of_true (fun _ => rfl) (Nat.lt_of_not_le hlt)
  · intro needed l hl fewer hfewer
    obtain ⟨hle, rfl⟩ := (hresolved needed l).1 hl
    refine (hresolved fewer _).2 ⟨hfewer.trans hle, ?_⟩
    rw [List.take_take, Nat.min_eq_left hfewer]
  · intro c hc
    rw [resolve, hwalk, Walker.mapM_results] at hc
    cases fault? with
    | some fault => cases hc
    | none =>
      cases hc
      exact hresolved

end AllocationTable

end CompoundFile
