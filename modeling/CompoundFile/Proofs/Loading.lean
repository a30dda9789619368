import CompoundFile.Proofs.Fetch
import CompoundFile.Session

/-!
# What opening gives

Everything that is read when a file is opened is read at absolute offsets. So what a session knows
of a file depends on the bytes of the file and the options only (`steady_load`), and the source that
an open session holds is still a source of these bytes (`opened`).
-/

namespace CompoundFile

open Fetch

/-! ## Loading is steady -/

theorem steady_followDifat (h : Header) (count : Nat) (sector : UInt32) (visited : List UInt32)
    (found : Array UInt32) : Steady (Fat.followDifat h count sector visited found) := by
  fun_induction Fat.followDifat h count sector visited found with
  | case1 => exact steady_pure _
  | case2 => exact steady_throw _
  | case3 => exact steady_throw _
  | case4 => exact steady_throw _
  | case5 sector visited found _ _ _ _ ih =>
    exact (steady_readSector h count sector).bind fun block =>
      (steady_ofExcept _ _).bind fun found => ih block found

theorem steady_locations (h : Header) (count : Nat) : Steady (Fat.locations h count) := by
  refine (steady_ofExcept _ _).bind fun found => ?_
  split
  · exact steady_pure _
  · exact steady_followDifat _ _ _ _ _

theorem steady_fatLoad (h : Header) (count : Nat) : Steady (Fat.load h count) :=
  (steady_locations h count).bind fun _ => (steady_readChain _ _ _).bind fun _ => steady_pure _

theorem steady_loadHeader (size : Nat) : Steady (Contents.loadHeader size) := by
  unfold Contents.loadHeader
  exact .guard _ ((steady_readExactAt _ _).bind fun _ => steady_ofExcept _ _)

theorem steady_loadDirectory (h : Header) (fat : AllocationTable) (strict : Bool) :
    Steady (Contents.loadDirectory h fat strict) :=
  (steady_ofExcept _ _).bind fun _ => (steady_readChain _ _ _).bind fun _ => steady_ofExcept _ _

theorem steady_miniLoad (h : Header) (fat : AllocationTable) (root : Directory.Entry) :
    Steady (MiniStream.load h fat root) := by
  unfold MiniStream.load
  split
  · exact steady_pure _
  · exact (steady_ofExcept _ _).bind fun _ => (steady_ofExcept _ _).bind fun _ =>
      (steady_readChain _ _ _).bind fun _ => steady_pure _

theorem steady_loadMini (h : Header) (fat : AllocationTable) (tree : Directory.Tree) :
    Steady (Contents.loadMini h fat tree) := by
  unfold Contents.loadMini
  split
  · exact steady_pure _
  · exact steady_miniLoad _ _ _

/-- **What is known of a file depends on its bytes and the options only.** -/
theorem steady_load (options : OpenOptions) : Steady (Contents.load options) :=
  steady_size.bind fun _ => (steady_loadHeader _).bind fun _ => (steady_fatLoad _ _).bind fun _ =>
    (steady_loadDirectory _ _ _).bind fun _ => (steady_loadMini _ _ _).bind fun _ => steady_pure _

/-! ## What loading yields -/

/-- Contents as loading a medium yields them, part by part. -/
structure Contents.LoadedFrom (m : Medium) (options : OpenOptions) (c : Contents) : Prop where
  size_eq : c.size = m.bytes.size
  header : Yields m (loadHeader c.size) (.ok c.header)
  fat : Yields m (Fat.load c.header (c.header.sectorCount c.size)) (.ok c.fat)
  directory : Yields m (loadDirectory c.header c.fat options.strict) (.ok (c.tree, c.warnings))
  mini : Yields m (loadMini c.header c.fat c.tree) (.ok c.mini)

namespace Contents

variable {m : Medium}

theorem loadedFrom_of_yields {options : OpenOptions} {c : Contents}
    (h : Yields m (load options) (.ok c)) : LoadedFrom m options c := by
  unfold load at h
  obtain ⟨size, hsize, h⟩ := h.of_bind steady_size fun _ => (steady_loadHeader _).bind fun _ =>
    (steady_fatLoad _ _).bind fun _ => (steady_loadDirectory _ _ _).bind fun _ =>
      (steady_loadMini _ _ _).bind fun _ => steady_pure _
  obtain ⟨header, hheader, h⟩ := h.of_bind (steady_loadHeader _) fun _ =>
    (steady_fatLoad _ _).bind fun _ => (steady_loadDirectory _ _ _).bind fun _ =>
      (steady_loadMini _ _ _).bind fun _ => steady_pure _
  obtain ⟨fat, hfat, h⟩ := h.of_bind (steady_fatLoad _ _) fun _ =>
    (steady_loadDirectory _ _ _).bind fun _ => (steady_loadMini _ _ _).bind fun _ => steady_pure _
  obtain ⟨⟨tree, warnings⟩, hdirectory, h⟩ := h.of_bind (steady_loadDirectory _ _ _) fun _ =>
    (steady_loadMini _ _ _).bind fun _ => steady_pure _
  obtain ⟨mini, hmini, h⟩ := h.of_bind (steady_loadMini _ _ _) fun _ => steady_pure _
  obtain rfl := h.of_pure
  cases hsize.eq yields_size
  exact ⟨rfl, hheader, hfat, hdirectory, hmini⟩

theorem exists_parse_of_yields_loadDirectory {h : Header} {fat : AllocationTable} {strict : Bool}
    {r : Directory.Tree × List Directory.Warning}
    (hload : Yields m (loadDirectory h fat strict) (.ok r)) :
    ∃ data, Directory.Tree.parse data h.version.major strict = .ok r := by
  obtain ⟨_, -, hload⟩ := hload.of_bind (steady_ofExcept _ _) fun _ =>
    (steady_readChain _ _ _).bind fun _ => steady_ofExcept _ _
  obtain ⟨data, -, hload⟩ := hload.of_bind (steady_readChain _ _ _) fun _ => steady_ofExcept _ _
  exact ⟨data, hload.of_ofExcept⟩

end Contents

/-- No file is smaller than a header. -/
theorem Contents.le_size_of_yields_loadHeader {m : Medium} {size : Nat} {h : Header}
    (hload : Yields m (loadHeader size) (.ok h)) : Header.size ≤ size := by
  unfold loadHeader at hload
  exact Nat.not_lt.1 hload.of_guard.1

/-- The FAT knows the sectors of the file. -/
theorem Fat.capacity_of_yields_load {m : Medium} {h : Header} {count : Nat} {fat : AllocationTable}
    (hload : Yields m (load h count) (.ok fat)) : fat.capacity = count := by
  unfold load at hload
  obtain ⟨_, -, hload⟩ := hload.of_bind (steady_locations h count) fun _ =>
    (steady_readChain _ _ _).bind fun _ => steady_pure _
  obtain ⟨_, -, hload⟩ := hload.of_bind (steady_readChain _ _ _) fun _ => steady_pure _
  obtain rfl := hload.of_pure
  rfl

/-- The sectors of the mini stream are found by the FAT from the root. It has as many short sectors
as the size of the root needs. -/
theorem MiniStream.eq_of_yields_load {m : Medium} {h : Header} {fat : AllocationTable}
    {root : Directory.Entry} {mini : MiniStream}
    (hload : Yields m (load h fat root) (.ok (some mini))) :
    mini.size = root.size ∧ mini.table.capacity = ceilDiv root.size.toNat h.shortSectorSize ∧
      fat.resolvePrefix root.startSector (ceilDiv root.size.toNat h.sectorSize) =
        .ok mini.sectors.toList := by
  unfold load at hload
  split at hload
  next => cases hload.of_pure
  next =>
    obtain ⟨sectors, hsectors, hload⟩ := hload.of_bind (steady_ofExcept _ _) fun _ =>
      (steady_ofExcept _ _).bind fun _ => (steady_readChain _ _ _).bind fun _ => steady_pure _
    obtain ⟨_, -, hload⟩ := hload.of_bind (steady_ofExcept _ _) fun _ =>
      (steady_readChain _ _ _).bind fun _ => steady_pure _
    obtain ⟨_, -, hload⟩ := hload.of_bind (steady_readChain _ _ _) fun _ => steady_pure _
    obtain rfl := Option.some.inj hload.of_pure
    exact ⟨rfl, rfl, hsectors.of_ofExcept⟩

/-- The mini stream is the content of the root. -/
theorem Contents.LoadedFrom.mini_eq {m : Medium} {options : OpenOptions} {c : Contents}
    {mini : MiniStream} (h : c.LoadedFrom m options) (hmini : c.mini = some mini) :
    ∃ root, c.tree.entry? c.tree.root = some root ∧ mini.size = root.size ∧
      mini.table.capacity = ceilDiv root.size.toNat c.header.shortSectorSize ∧
      c.fat.resolvePrefix root.startSector (ceilDiv root.size.toNat c.header.sectorSize) =
        .ok mini.sectors.toList := by
  have hload := h.mini
  rw [hmini] at hload
  unfold loadMini at hload
  split at hload
  next => cases hload.of_pure
  next root hroot => exact ⟨root, hroot, MiniStream.eq_of_yields_load hload⟩

/-! ## Open sessions -/

namespace Session

section Open

variable {s : Session} {f : OpenFile} (hopen : s.file? = some f)
include hopen

theorem file_eq : s.file = .ok f := by
  unfold file
  rw [hopen]

theorem contents_eq : s.contents = .ok f.contents := by
  unfold contents
  rw [file_eq hopen]
  rfl

end Open

/-- A session that opens a source holds what loading yields, and a source of the same medium. -/
theorem opened {options : OpenOptions} {source : Source} {s : Session}
    (h : (Session.new options).openSource source = (.ok (), s)) :
    ∃ f, s = ⟨options, some f⟩ ∧ f.source.medium = source.medium ∧
      Yields source.medium (Contents.load options) (.ok f.contents) := by
  obtain ⟨r, hr⟩ := steady_load options source.medium
  obtain ⟨source', hmedium, hrun⟩ := hr source rfl
  have hload : (Session.new options).openSource source = (Session.new options).load source := rfl
  rw [hload, load, show (Session.new options).options = options from rfl, hrun] at h
  cases r with
  | error e => cases h
  | ok contents =>
    cases h
    exact ⟨⟨contents, source'⟩, rfl, hmedium, hr⟩

/-- A source is opened when loading yields contents on its medium. -/
theorem openSource_of_yields {options : OpenOptions} {source : Source} {contents : Contents}
    (h : Yields source.medium (Contents.load options) (.ok contents)) :
    ∃ source', source'.medium = source.medium ∧
      (Session.new options).openSource source =
        (.ok (), ⟨options, some ⟨contents, source'⟩⟩) := by
  obtain ⟨source', hmedium, hrun⟩ := h source rfl
  refine ⟨source', hmedium, ?_⟩
  show (Session.new options).load source = _
  rw [load, show (Session.new options).options = options from rfl, hrun]

end Session

end CompoundFile
