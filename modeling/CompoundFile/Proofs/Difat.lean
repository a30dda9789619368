import CompoundFile.Proofs.Chain
import CompoundFile.Proofs.Fat
import CompoundFile.Proofs.Stream.Reading

/-!
# Files whose FAT is loaded

A damaged file may list anything as locations of the FAT, and its DIFAT may lead anywhere. The header
bounds both: how many DIFAT sectors there are and how many locations. So loading the FAT always ends,
and it ends well exactly when a file keeps to its bounds (`Fat.Loadable`).

**Reading.** Following the DIFAT reads the sectors of a path, of which each is new and in the file,
and no more of them than the header declares (`Fat.Passable`). This is so wherever the path leads, and
also if reading breaks off.

**Accepting.** A program accepts a condition if it succeeds when the condition holds and fails for
damage when it does not (`Fetch.Accepts`). One part of a program is looked at after the other: what a
part accepts has to follow from the condition of the whole (`Accepts.bind`), and under what it accepts
the rest has to accept the whole condition.

Main result: `Fat.load_decides`.
-/

namespace CompoundFile

/-! ## Programs that accept a condition -/

namespace Fetch

variable {m : Medium} {α β : Type} {p q : Prop}

/-- A result that agrees with a condition, unless the medium is to blame. -/
inductive Verdict (m : Medium) (p : Prop) : Except Error α → Prop
  | accepted (a : α) : p → Verdict m p (.ok a)
  | refused (fault : FormatFault) : ¬p → Verdict m p (.error (.format fault))
  | broken (region : BadRegion) : m.bad = some region → Verdict m p (.error (.io region.fault))

/-- On a medium the program succeeds when the condition holds, and it fails for damage when it does
not. Only the bad region of the medium can come in between. -/
def Accepts (m : Medium) (x : Fetch α) (p : Prop) : Prop :=
  ∃ r, Yields m x r ∧ Verdict m p r

theorem accepts_pure (a : α) (hp : p) : Accepts m (pure a) p :=
  ⟨_, yields_pure a, .accepted a hp⟩

theorem accepts_throw (fault : FormatFault) (hp : ¬p) :
    Accepts m (throw (.format fault) : Fetch α) p :=
  ⟨_, yields_throw _, .refused fault hp⟩

theorem accepts_ofExcept {ε : Type} (wrap : ε → FormatFault) {x : Except ε α}
    (hx : (∃ a, x = .ok a) ↔ p) : Accepts m (ofExcept wrap x) p := by
  cases x with
  | ok a => exact accepts_pure a (hx.1 ⟨a, rfl⟩)
  | error e =>
    refine accepts_throw (wrap e) fun hp => ?_
    obtain ⟨a, ha⟩ := hx.2 hp
    cases ha

theorem accepts_readAt (offset wanted : Nat) : Accepts m (readAt offset wanted) True := by
  refine ⟨_, yields_readAt offset wanted, ?_⟩
  cases hfetch : m.fetch offset wanted with
  | ok b => exact .accepted b trivial
  | error fault =>
    rcases Medium.justified_of_fetch hfetch with ⟨_, h⟩ | ⟨region, hregion, h⟩
    · cases h
    · cases h
      exact .broken region hregion

/-- **A program in two parts.** The condition requires what the first part accepts, and the second
part accepts it when the first one has succeeded. -/
theorem Accepts.bind {x : Fetch α} {f : α → Fetch β} (hx : Accepts m x q) (hpq : p → q)
    (hf : ∀ a, q → Yields m x (.ok a) → Accepts m (f a) p) : Accepts m (x >>= f) p := by
  obtain ⟨r, hr, hverdict⟩ := hx
  cases hverdict with
  | accepted a hq =>
    obtain ⟨r', hr', hverdict'⟩ := hf a hq hr
    exact ⟨r', hr.bind hr', hverdict'⟩
  | refused fault hq => exact ⟨_, hr.bind_error f, .refused fault (mt hpq hq)⟩
  | broken region hregion => exact ⟨_, hr.bind_error f, .broken region hregion⟩

theorem Accepts.congr {x : Fetch α} (hx : Accepts m x q) (hpq : p ↔ q) : Accepts m x p := by
  rwa [propext hpq]

/-- A check that fails for damage before the rest of the program. -/
theorem Accepts.guard {b : Prop} [Decidable b] {rest : PUnit → Fetch α} (fault : FormatFault)
    (hp : p → ¬b) (h : ¬b → Accepts m (rest ()) p) :
    Accepts m (if b then throw (.format fault) >>= rest else rest ()) p := by
  by_cases hb : b
  · rw [if_pos hb]
    exact (accepts_throw (p := False) fault id).bind (fun h => hp h hb) fun _ h => h.elim
  · rw [if_neg hb]
    exact h hb

/-- What a program that accepts a condition gives from a source. -/
theorem Accepts.result {x : Fetch α} (hx : Accepts m x p) (source : Source)
    (hsource : source.medium = m) :
    (∃ region, m.bad = some region ∧ (x.run source).1 = .error (.io region.fault)) ∨
      ((∃ a, (x.run source).1 = .ok a) ↔ p) ∧
        ((∃ fault, (x.run source).1 = .error (.format fault)) ↔ ¬p) := by
  obtain ⟨r, hr, hverdict⟩ := hx
  rw [(hr.unique hsource).1]
  cases hverdict with
  | accepted a hp =>
    refine Or.inr ⟨iff_of_true ⟨a, rfl⟩ hp, iff_of_false ?_ (not_not.2 hp)⟩
    rintro ⟨fault, h⟩
    cases h
  | refused fault hp =>
    refine Or.inr ⟨iff_of_false ?_ hp, iff_of_true ⟨fault, rfl⟩ hp⟩
    rintro ⟨a, h⟩
    cases h
  | broken region hregion => exact Or.inl ⟨region, hregion, rfl⟩

theorem accepts_readSector (h : Header) (count : Nat) (sector : UInt32) :
    Accepts m (h.readSector count sector) (sector.toNat < count) := by
  unfold Header.readSector
  refine .guard _ Nat.not_le.2 fun hcount => ?_
  exact (accepts_readAt _ _).bind (fun _ => trivial)
    fun b _ _ => accepts_pure _ (Nat.lt_of_not_le hcount)

theorem accepts_readChain (h : Header) (count : Nat) (chain : List UInt32) :
    Accepts m (h.readChain count chain) (∀ s ∈ chain, s.toNat < count) := by
  unfold Header.readChain
  generalize ByteArray.empty = got
  induction chain generalizing got with
  | nil => exact accepts_pure got (List.forall_mem_nil _)
  | cons s chain ih =>
    rw [List.foldlM_cons, List.forall_mem_cons]
    have hfirst := (accepts_readSector (m := m) h count s).bind id
      fun data hs _ => accepts_pure (got ++ data) hs
    exact hfirst.bind And.left fun got' hs _ => (ih got').congr (and_iff_right hs)

end Fetch

/-! ## What is read -/

/-- A source after some sectors were read from it, one behind the other. -/
def Header.afterReading (h : Header) (count : Nat) (source : Source) (sectors : List UInt32) :
    Source :=
  sectors.foldl (fun source sector => ((h.readSector count sector).run source).2) source

namespace Fat

open Fetch Bytes

variable {h : Header} {image : ByteArray} {count : Nat}

/-- A part of the DIFAT: the sectors from a link on up to another link. -/
inductive DifatPath (h : Header) (image : ByteArray) : UInt32 → List UInt32 → UInt32 → Prop
  | here (link : UInt32) : DifatPath h image link [] link
  | sector {link last : UInt32} {rest : List UInt32} : IsLocation link →
      DifatPath h image (h.slot image link (h.entriesPerSector - 1)) rest last →
      DifatPath h image link (link :: rest) last

/-- The whole DIFAT is a part that leads to a mark. -/
theorem DifatPath.chain {link last : UInt32} {difat : List UInt32}
    (hpath : DifatPath h image link difat last) (hlast : ¬IsLocation last) :
    DifatChain h image link difat := by
  induction hpath with
  | here => exact .done hlast
  | sector hlocation _ ih => exact .sector hlocation (ih hlast)

/-- Sectors that can be passed one after the other when `visited` are passed already: each is in the
file and new, and all together are not more than the header declares. -/
structure Passable (h : Header) (count : Nat) (visited sectors : List UInt32) : Prop where
  lt_count : ∀ s ∈ sectors, s.toNat < count
  nodup : sectors.Nodup
  fresh : ∀ s ∈ sectors, s ∉ visited
  le_declared : visited.length + sectors.length ≤ h.difatSectors.toNat

theorem passable_nil {visited : List UInt32} (hle : visited.length ≤ h.difatSectors.toNat) :
    Passable h count visited [] :=
  ⟨List.forall_mem_nil _, List.nodup_nil, List.forall_mem_nil _, hle⟩

/-- **One more sector** is checked against the sectors before it only. -/
theorem passable_cons_iff {visited sectors : List UInt32} {s : UInt32} :
    Passable h count visited (s :: sectors) ↔
      (visited.length < h.difatSectors.toNat ∧ s.toNat < count ∧ s ∉ visited) ∧
        Passable h count (s :: visited) sectors := by
  constructor
  · intro hp
    obtain ⟨hs, hsectors⟩ := List.forall_mem_cons.1 hp.lt_count
    obtain ⟨hnew, hfresh⟩ := List.forall_mem_cons.1 hp.fresh
    obtain ⟨hmem, hnodup⟩ := List.nodup_cons.1 hp.nodup
    have hle := hp.le_declared
    rw [List.length_cons] at hle
    refine ⟨⟨by omega, hs, hnew⟩, hsectors, hnodup, fun s' hs' => ?_, ?_⟩
    · refine List.not_mem_cons_of_ne_of_not_mem ?_ (hfresh s' hs')
      rintro rfl
      exact hmem hs'
    · rw [List.length_cons]
      omega
  · rintro ⟨⟨-, hs, hnew⟩, hp⟩
    have hle := hp.le_declared
    rw [List.length_cons] at hle
    refine ⟨List.forall_mem_cons.2 ⟨hs, hp.lt_count⟩, List.nodup_cons.2 ⟨fun hmem => ?_, hp.nodup⟩,
      List.forall_mem_cons.2 ⟨hnew, fun s' hs' => ?_⟩, ?_⟩
    · exact hp.fresh s hmem List.mem_cons_self
    · exact fun hmem => hp.fresh s' hs' (List.mem_cons_of_mem _ hmem)
    · rw [List.length_cons]
      omega

theorem run_addAll (declared : Nat) (found : Array UInt32) (locations : List UInt32)
    (source : Source) :
    (addAll declared found locations).run source =
      ((locations.foldlM (add declared) found).mapError .format, source) := by
  unfold addAll
  cases locations.foldlM (add declared) found <;> rfl

/-- **Following the DIFAT reads a part of it** that can be passed, and nothing else. It reads all of
it if it succeeds. -/
theorem followDifat_reads (h : Header) (count : Nat) (link : UInt32) {visited : List UInt32}
    (found : Array UInt32) (hvisited : visited.length ≤ h.difatSectors.toNat) (source : Source) :
    ∃ read last, DifatPath h source.medium.bytes link read last ∧ Passable h count visited read ∧
      ((followDifat h count link visited found).run source).2 = h.afterReading count source read ∧
      ∀ found', ((followDifat h count link visited found).run source).1 = .ok found' →
        ¬IsLocation last := by
  fun_induction followDifat h count link visited found generalizing source with
  | case1 link visited found hmark =>
    exact ⟨[], link, .here link, passable_nil hvisited, rfl, fun _ _ => (isMark_iff link).1 hmark⟩
  | case2 link visited found | case3 link visited found | case4 link visited found =>
    exact ⟨[], link, .here link, passable_nil hvisited, rfl, fun _ h => by cases h⟩
  | case5 link visited found hmark hroom hcount hnew ih =>
    have hlocation : IsLocation link := by rwa [isMark_iff, not_not] at hmark
    have hroom : visited.length < h.difatSectors.toNat := Nat.lt_of_not_le hroom
    have hguards := And.intro hroom (And.intro (Nat.lt_of_not_le hcount) hnew)
    have hone : Passable h count visited [link] :=
      passable_cons_iff.2 ⟨hguards, passable_nil hroom⟩
    obtain ⟨r, hr⟩ := steady_readSector h count link source.medium
    obtain ⟨source', hmedium, hrun⟩ := hr source rfl
    have hafter : h.afterReading count source [link] = source' := congrArg Prod.snd hrun
    rw [run_bind, hrun]
    cases r with
    | error e =>
      exact ⟨[link], _, .sector hlocation (.here _), hone, hafter.symm, fun _ h => by cases h⟩
    | ok data =>
      -- The link in the sector is followed only if the locations in it could be added.
      obtain ⟨-, hsector⟩ := Sectors.of_readSector hr
      dsimp only
      rw [run_bind, run_addAll]
      cases (difatLocations h (words32 data)).foldlM (add h.fatSectors.toNat) found with
      | error fault =>
        exact ⟨[link], _, .sector hlocation (.here _), hone, hafter.symm, fun _ h => by cases h⟩
      | ok found' =>
        obtain ⟨read, last, hpath, hpassable, hread, hlast⟩ := ih data found' hroom source'
        rw [difatLink_eq hsector, hmedium] at hpath
        refine ⟨link :: read, last, .sector hlocation hpath,
          passable_cons_iff.2 ⟨hguards, hpassable⟩, hread.trans ?_, hlast⟩
        rw [← hafter]
        rfl

theorem Passable.length_le {sectors : List UInt32} (hp : Passable h count [] sectors) :
    sectors.length ≤ min h.difatSectors.toNat count := by
  have hle := hp.le_declared
  rw [List.length_nil, Nat.zero_add] at hle
  exact Nat.le_min.2 ⟨hle, length_le_of_nodup hp.nodup hp.lt_count⟩

/-- Reading a chain reads a first part of it. -/
theorem readChain_reads (h : Header) (count : Nat) (chain : List UInt32) (source : Source) :
    ∃ read, read <+: chain ∧
      ((h.readChain count chain).run source).2 = h.afterReading count source read := by
  unfold Header.readChain
  generalize ByteArray.empty = got
  induction chain generalizing got source with
  | nil => exact ⟨[], List.nil_prefix, rfl⟩
  | cons s chain ih =>
    rw [List.foldlM_cons, run_bind, run_bind]
    rcases hrun : (h.readSector count s).run source with ⟨e | data, source'⟩
    · refine ⟨[s], List.prefix_cons_inj s |>.2 List.nil_prefix, ?_⟩
      exact (congrArg Prod.snd hrun).symm
    · obtain ⟨read, hbegin, hread⟩ := ih source' (got ++ data)
      refine ⟨s :: read, (List.prefix_cons_inj s).2 hbegin, hread.trans ?_⟩
      rw [← show ((h.readSector count s).run source).2 = source' from congrArg Prod.snd hrun]
      rfl

/-! ## What is accepted -/

/-- Locations that can be listed behind `found` others: each can be a sector, and all together are
not more than the header declares. -/
structure Listable (declared found : Nat) (locations : List UInt32) : Prop where
  le_max : ∀ l ∈ locations, l ≤ maxSector
  le_declared : found + locations.length ≤ declared

theorem listable_nil {declared found : Nat} (hle : found ≤ declared) :
    Listable declared found [] :=
  ⟨List.forall_mem_nil _, hle⟩

theorem listable_append_iff {declared found : Nat} {locations locations' : List UInt32} :
    Listable declared found (locations ++ locations') ↔
      Listable declared found locations ∧
        Listable declared (found + locations.length) locations' := by
  constructor
  · rintro ⟨hmax, hle⟩
    rw [List.forall_mem_append] at hmax
    rw [List.length_append] at hle
    exact ⟨⟨hmax.1, by omega⟩, hmax.2, by omega⟩
  · rintro ⟨⟨hmax, -⟩, hmax', hle⟩
    refine ⟨List.forall_mem_append.2 ⟨hmax, hmax'⟩, ?_⟩
    rw [List.length_append]
    omega

theorem add_ok_iff {declared : Nat} {found found' : Array UInt32} {location : UInt32} :
    add declared found location = .ok found' ↔
      (location ≤ maxSector ∧ found.size < declared) ∧ found' = found.push location := by
  unfold add
  split
  next hmax => exact iff_of_false nofun fun h => absurd h.1.1 (UInt32.not_le.2 hmax)
  next hmax =>
    split
    next hfull => exact iff_of_false nofun fun h => absurd h.1.2 (Nat.not_lt.2 hfull)
    next hroom =>
      rw [and_iff_right ⟨UInt32.not_lt.1 hmax, Nat.lt_of_not_le hroom⟩]
      exact ⟨fun h => (Except.ok.inj h).symm, fun h => congrArg _ h.symm⟩

theorem addAll_ok_iff {declared : Nat} {found : Array UInt32} {locations : List UInt32}
    (hfound : found.size ≤ declared) :
    (∃ found', locations.foldlM (add declared) found = .ok found') ↔
      Listable declared found.size locations := by
  induction locations generalizing found with
  | nil => exact iff_of_true ⟨found, rfl⟩ (listable_nil hfound)
  | cons location locations ih =>
    rw [← List.singleton_append, listable_append_iff, List.singleton_append, List.foldlM_cons]
    simp only [bind_eq_ok_iff, add_ok_iff]
    constructor
    · rintro ⟨found', _, ⟨⟨hmax, hroom⟩, rfl⟩, hrest⟩
      have hpush : (found.push location).size ≤ declared := by
        rw [Array.size_push]
        exact hroom
      refine ⟨⟨List.forall_mem_singleton.2 hmax, hroom⟩, ?_⟩
      have hlistable := (ih hpush).1 ⟨found', hrest⟩
      rwa [Array.size_push] at hlistable
    · rintro ⟨⟨hmax, hroom⟩, hlistable⟩
      have hpush : (found.push location).size ≤ declared := by
        rw [Array.size_push]
        exact hroom
      obtain ⟨found', hrest⟩ := (ih hpush).2 (by rwa [Array.size_push])
      exact ⟨found', _, ⟨⟨hmax location List.mem_cons_self, hroom⟩, rfl⟩, hrest⟩

theorem accepts_addAll {m : Medium} {declared : Nat} {found : Array UInt32}
    {locations : List UInt32} (hfound : found.size ≤ declared) :
    Accepts m (addAll declared found locations) (Listable declared found.size locations) :=
  accepts_ofExcept _ (addAll_ok_iff hfound)

/-- What is needed to follow the DIFAT from a link to its end. -/
structure Followable (h : Header) (image : ByteArray) (count : Nat) (visited : List UInt32)
    (found : Nat) (link : UInt32) (difat : List UInt32) : Prop where
  chain : DifatChain h image link difat
  passable : Passable h count visited difat
  listable : Listable h.fatSectors.toNat found (difat.flatMap (locationsIn h image))

/-- **One more sector of the DIFAT.** -/
theorem followable_iff {visited : List UInt32} {found : Nat} {link : UInt32}
    (hlocation : IsLocation link) :
    (∃ difat, Followable h image count visited found link difat) ↔
      (visited.length < h.difatSectors.toNat ∧ link.toNat < count ∧ link ∉ visited) ∧
        Listable h.fatSectors.toNat found (locationsIn h image link) ∧
        ∃ difat, Followable h image count (link :: visited)
          (found + (locationsIn h image link).length)
          (h.slot image link (h.entriesPerSector - 1)) difat := by
  constructor
  · rintro ⟨difat, hchain, hpassable, hlistable⟩
    cases hchain with
    | done hmark => exact absurd hlocation hmark
    | sector _ hrest =>
      obtain ⟨hguards, hpassable⟩ := passable_cons_iff.1 hpassable
      rw [List.flatMap_cons] at hlistable
      obtain ⟨hfirst, hlistable⟩ := listable_append_iff.1 hlistable
      exact ⟨hguards, hfirst, _, hrest, hpassable, hlistable⟩
  · rintro ⟨hguards, hfirst, difat, hchain, hpassable, hlistable⟩
    refine ⟨link :: difat, .sector hlocation hchain, passable_cons_iff.2 ⟨hguards, hpassable⟩, ?_⟩
    rw [List.flatMap_cons]
    exact listable_append_iff.2 ⟨hfirst, hlistable⟩

/-- **Following the DIFAT accepts what can be followed.** -/
theorem accepts_followDifat {m : Medium} {link : UInt32} {visited : List UInt32}
    {found : Array UInt32} (hvisited : visited.length ≤ h.difatSectors.toNat)
    (hfound : found.size ≤ h.fatSectors.toNat) :
    Accepts m (followDifat h count link visited found)
      (∃ difat, Followable h m.bytes count visited found.size link difat) := by
  fun_induction followDifat h count link visited found with
  | case1 link visited found hmark =>
    exact accepts_pure found
      ⟨[], .done ((isMark_iff link).1 hmark), passable_nil hvisited, listable_nil hfound⟩
  | case2 link visited found hmark hfull =>
    rw [isMark_iff, not_not] at hmark
    refine accepts_throw _ fun h => ?_
    exact absurd ((followable_iff hmark).1 h).1.1 (Nat.not_lt.2 hfull)
  | case3 link visited found hmark _ hcount =>
    rw [isMark_iff, not_not] at hmark
    refine accepts_throw _ fun h => ?_
    exact absurd ((followable_iff hmark).1 h).1.2.1 (Nat.not_lt.2 hcount)
  | case4 link visited found hmark _ _ hmem =>
    rw [isMark_iff, not_not] at hmark
    refine accepts_throw _ fun h => ?_
    exact absurd hmem ((followable_iff hmark).1 h).1.2.2
  | case5 link visited found hmark hroom hcount hnew ih =>
    rw [isMark_iff, not_not] at hmark
    rw [followable_iff hmark]
    refine (accepts_readSector h count link).bind (fun h => h.1.2.1) fun data _ hdata => ?_
    obtain ⟨-, hsector⟩ := Sectors.of_readSector hdata
    dsimp only
    rw [difatLocations_eq hsector, difatLink_eq hsector]
    refine (accepts_addAll hfound).bind (fun h => h.2.1) fun found' hlistable hfound' => ?_
    have hadds := Adds.of_foldlM hfound'.of_ofExcept
    have hsize : found'.size = found.size + (locationsIn h m.bytes link).length := by
      rw [← Array.length_toList, hadds.toList, List.length_append, Array.length_toList]
    have hrest := ih data found' (Nat.lt_of_not_le hroom) (hadds.le_declared hfound)
    rw [difatLink_eq hsector, hsize] at hrest
    refine hrest.congr ?_
    rw [and_iff_right ⟨Nat.lt_of_not_le hroom, Nat.lt_of_not_le hcount, hnew⟩,
      and_iff_right hlistable]

theorem inlineLocations_eq (h : Header) :
    inlineLocations h = h.inlineDifat.toList.takeWhile (IsLocation ·) := by
  unfold inlineLocations
  simp only [not_isMark]

/-- What is needed to find all locations of the FAT. -/
structure Findable (h : Header) (image : ByteArray) (count : Nat) (difat : List UInt32) : Prop where
  hasDifat : HasDifat h image difat
  passable : Passable h count [] difat
  listable : Listable h.fatSectors.toNat 0 (described h image difat)

/-- **What makes a FAT loadable**, in terms of the bytes of the file. The DIFAT leads to an end. Its
sectors are in the file, none comes twice, and there are no more of them than the header declares. The
locations in the header and in these sectors are sectors of the file, and there are no more of them
than the header declares. -/
structure Loadable (h : Header) (image : ByteArray) (count : Nat) (difat : List UInt32) : Prop
    extends Findable h image count difat where
  locations_lt_count : ∀ l ∈ described h image difat, l.toNat < count

theorem accepts_locations (m : Medium) (h : Header) (count : Nat) :
    Accepts m (locations h count) (∃ difat, Findable h m.bytes count difat) := by
  have hinline : ∀ difat, Findable h m.bytes count difat →
      Listable h.fatSectors.toNat 0 (inlineLocations h) := by
    intro difat hfindable
    rw [inlineLocations_eq]
    exact (listable_append_iff.1 hfindable.listable).1
  refine (accepts_addAll (Nat.zero_le _)).bind (fun ⟨difat, h⟩ => hinline difat h)
    fun found hlistable hfound => ?_
  have hadds := Adds.of_foldlM hfound.of_ofExcept
  have hsize : found.size = 0 + (inlineLocations h).length := by
    rw [← Array.length_toList, hadds.toList, List.length_append]
    rfl
  split
  next hzero =>
    refine accepts_pure found ⟨[], ?_, passable_nil (Nat.zero_le _), ?_⟩
    · rw [HasDifat, if_pos hzero]
    · rwa [described, List.flatMap_nil, List.append_nil, ← inlineLocations_eq]
  next hsome =>
    refine (accepts_followDifat (Nat.zero_le _) (hadds.le_declared (Nat.zero_le _))).congr ?_
    refine exists_congr fun difat => ⟨fun hfindable => ⟨?_, hfindable.passable, ?_⟩,
      fun hfollowable => ⟨?_, hfollowable.passable, ?_⟩⟩
    · have hdifat := hfindable.hasDifat
      rwa [HasDifat, if_neg hsome] at hdifat
    · have hlistable := hfindable.listable
      rw [described, ← inlineLocations_eq] at hlistable
      rw [hsize]
      exact (listable_append_iff.1 hlistable).2
    · rw [HasDifat, if_neg hsome]
      exact hfollowable.chain
    · rw [described, ← inlineLocations_eq]
      refine listable_append_iff.2 ⟨hlistable, ?_⟩
      rw [← hsize]
      exact hfollowable.listable

theorem accepts_load (m : Medium) (h : Header) (count : Nat) :
    Accepts m (load h count) (∃ difat, Loadable h m.bytes count difat) := by
  refine (accepts_locations m h count).bind (fun ⟨difat, h⟩ => ⟨difat, h.toFindable⟩)
    fun found ⟨difat, hfindable⟩ hfound => ?_
  -- The DIFAT is determined by the file, so the locations that were found are the described ones.
  obtain ⟨difat', hdifat', hlist, -⟩ := locations_ok hfound
  have hread : Accepts m (h.readChain count found.toList) (∃ difat, Loadable h m.bytes count difat) := by
    refine (accepts_readChain h count found.toList).congr ⟨?_, fun hcount => ⟨difat, hfindable, ?_⟩⟩
    · rintro ⟨difat'', hloadable⟩
      rw [hlist, hdifat'.unique hloadable.hasDifat]
      exact hloadable.locations_lt_count
    · rw [hfindable.hasDifat.unique hdifat', ← hlist]
      exact hcount
  exact hread.bind id fun data hloadable _ => accepts_pure _ hloadable

/-! ## Loading -/

/-- Finding the locations reads what following the DIFAT reads. -/
theorem locations_reads (h : Header) (count : Nat) (source : Source) :
    ∃ read last, DifatPath h source.medium.bytes h.firstDifatSector read last ∧
      Passable h count [] read ∧
      ((locations h count).run source).2 = h.afterReading count source read ∧
      ∀ found, ((locations h count).run source).1 = .ok found →
        HasDifat h source.medium.bytes read := by
  unfold locations
  rw [run_bind, run_addAll]
  have hnothing : Passable h count [] [] := passable_nil (Nat.zero_le _)
  cases (inlineLocations h).foldlM (add h.fatSectors.toNat) #[] with
  | error fault => exact ⟨[], _, .here _, hnothing, rfl, fun _ h => by cases h⟩
  | ok found =>
    dsimp only [Except.mapError]
    by_cases hzero : h.difatSectors = 0
    · rw [if_pos hzero]
      exact ⟨[], _, .here _, hnothing, rfl, fun _ _ => by rw [HasDifat, if_pos hzero]⟩
    · rw [if_neg hzero]
      obtain ⟨read, last, hpath, hpassable, hread, hlast⟩ :=
        followDifat_reads h count h.firstDifatSector found hnothing.le_declared source
      refine ⟨read, last, hpath, hpassable, hread, fun found' hfound' => ?_⟩
      rw [HasDifat, if_neg hzero]
      exact hpath.chain (hlast found' hfound')

/-- **Loading reads sectors of the DIFAT**, and behind all of these sectors of the FAT that they
describe. It reads nothing else. -/
theorem load_reads (h : Header) (count : Nat) (source : Source) :
    ∃ read last fats, DifatPath h source.medium.bytes h.firstDifatSector read last ∧
      Passable h count [] read ∧ fats <+: described h source.medium.bytes read ∧
      (fats ≠ [] → HasDifat h source.medium.bytes read) ∧
      ((load h count).run source).2 = h.afterReading count source (read ++ fats) := by
  obtain ⟨read, last, hpath, hpassable, hread, hfound⟩ := locations_reads h count source
  obtain ⟨r, hr⟩ := steady_locations h count source.medium
  obtain ⟨source', hmedium, hrun⟩ := hr source rfl
  rw [hrun] at hread hfound
  unfold load
  rw [run_bind, hrun]
  cases r with
  | error e =>
    refine ⟨read, last, [], hpath, hpassable, List.nil_prefix, fun h => absurd rfl h, ?_⟩
    rwa [List.append_nil]
  | ok found =>
    obtain ⟨difat, hdifat, hlist, -⟩ := locations_ok hr
    obtain ⟨fats, hbegin, hfats⟩ := readChain_reads h count found.toList source'
    have hall := hfound found rfl
    rw [hlist, hdifat.unique hall] at hbegin
    refine ⟨read, last, fats, hpath, hpassable, hbegin, fun _ => hall, ?_⟩
    have hafter : ((h.readChain count found.toList).run source').2 =
        h.afterReading count source (read ++ fats) := by
      rw [hfats, Header.afterReading, Header.afterReading, List.foldl_append]
      exact congrArg (List.foldl _ · fats) hread
    rw [← hafter]
    dsimp only
    rw [run_bind]
    rcases (h.readChain count found.toList).run source' with ⟨e | data, source''⟩ <;> rfl

/-- **Loading ends, and accepts exactly the files that keep to their bounds.** Whatever the file, what
is read are sectors along the DIFAT, all different, and no more than are declared or than the file
has; and then, if all of the DIFAT was read, sectors of the FAT that it describes. Unless the medium
fails, the FAT is loaded exactly when it is loadable, and otherwise the error is damage. -/
theorem load_decides (h : Header) (count : Nat) (source : Source) :
    (∃ read last fats, DifatPath h source.medium.bytes h.firstDifatSector read last ∧
      read.Nodup ∧ read.length ≤ min h.difatSectors.toNat count ∧ (∀ s ∈ read, s.toNat < count) ∧
      fats <+: described h source.medium.bytes read ∧
      (fats ≠ [] → HasDifat h source.medium.bytes read) ∧
      ((load h count).run source).2 = h.afterReading count source (read ++ fats)) ∧
    ((∃ region, source.medium.bad = some region ∧
        ((load h count).run source).1 = .error (.io region.fault)) ∨
      ((∃ fat, ((load h count).run source).1 = .ok fat) ↔
          ∃ difat, Loadable h source.medium.bytes count difat) ∧
        ((∃ fault, ((load h count).run source).1 = .error (.format fault)) ↔
          ¬∃ difat, Loadable h source.medium.bytes count difat)) := by
  obtain ⟨read, last, fats, hpath, hpassable, hfats, hall, hrun⟩ := load_reads h count source
  exact ⟨⟨read, last, fats, hpath, hpassable.nodup, hpassable.length_le, hpassable.lt_count, hfats,
    hall, hrun⟩, (accepts_load source.medium h count).result source rfl⟩

end Fat

end CompoundFile
