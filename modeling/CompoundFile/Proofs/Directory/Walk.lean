import CompoundFile.Item
import CompoundFile.Proofs.Chain
import CompoundFile.Proofs.Directory.Acceptance
import CompoundFile.Proofs.Directory.Shape
import CompoundFile.Proofs.Layout

/-!
# Walks through a storage tree

A walk visits an item, then all that is below it, then the items that follow. Nothing in the walk
itself says that it ends (`DepthFirst`): it does because a decoded directory is a tree.

**State of a walk.** The entries that were visited and those that wait (`Exploring`) are all
different, they are the children of the root and of the entries that were visited. So every visit
leaves fewer entries, and when nothing waits all entries of the tree but the root were visited.

**Items.** An item is found for every entry of the tree, so a walk over entry numbers is a walk
over items.

Main result: `Directory.tree_of_parse`.
-/

namespace CompoundFile

/-! ## Depth first -/

section DepthFirst

variable {α β : Type} {next : α → List α} {as bs l : List α}

/-- What a walk visits that starts with some elements: every element is followed by all that comes
after it. -/
inductive DepthFirst (next : α → List α) : List α → List α → Prop
  | nil : DepthFirst next [] []
  | visit {a : α} {rest inner after : List α} : DepthFirst next (next a) inner →
      DepthFirst next rest after → DepthFirst next (a :: rest) (a :: (inner ++ after))

namespace DepthFirst

/-- A walk has one outcome. -/
theorem unique {l' : List α} (h : DepthFirst next as l) (h' : DepthFirst next as l') : l = l' := by
  induction h generalizing l' with
  | nil =>
    cases h'
    rfl
  | visit _ _ ihinner ihafter =>
    cases h' with
    | visit hinner hafter => rw [ihinner hinner, ihafter hafter]

theorem of_append (h : DepthFirst next (as ++ bs) l) :
    ∃ l₁ l₂, l = l₁ ++ l₂ ∧ DepthFirst next as l₁ ∧ DepthFirst next bs l₂ := by
  induction as generalizing l with
  | nil => exact ⟨[], l, rfl, .nil, h⟩
  | cons a as ih =>
    cases h with
    | visit hinner hafter =>
      obtain ⟨l₁, l₂, rfl, has, hbs⟩ := ih hafter
      exact ⟨_, l₂, by simp, .visit hinner has, hbs⟩

/-- A walk goes on with what comes after the first element. -/
theorem step {a : α} (h : DepthFirst next (next a ++ as) l) :
    DepthFirst next (a :: as) (a :: l) := by
  obtain ⟨l₁, l₂, rfl, hinner, hafter⟩ := h.of_append
  exact .visit hinner hafter

theorem filterMap {f : α → Option β} {next' : β → List β} (h : DepthFirst next as l)
    (hf : ∀ a ∈ l, ∃ b, f a = some b ∧ next' b = (next a).filterMap f) :
    DepthFirst next' (as.filterMap f) (l.filterMap f) := by
  induction h with
  | nil => exact .nil
  | @visit a rest inner after _ _ ihinner ihafter =>
    obtain ⟨b, hb, hnext⟩ := hf a List.mem_cons_self
    have hinner := ihinner fun c hc => hf c (List.mem_cons_of_mem a (List.mem_append_left _ hc))
    have hafter := ihafter fun c hc => hf c (List.mem_cons_of_mem a (List.mem_append_right _ hc))
    rw [List.filterMap_cons_some hb, List.filterMap_cons_some hb, List.filterMap_append]
    exact .visit (hnext ▸ hinner) hafter

end DepthFirst

end DepthFirst

theorem Item.found_eq_ok_iff {t : Directory.Tree} {name : String} {sid? : Option UInt32}
    {i : Item} :
    Item.found t name sid? = .ok i ↔ ∃ n, sid? = some n ∧ Item.ofSid? t n = some i := by
  rw [← Option.bind_eq_some_iff]
  unfold Item.found
  cases sid?.bind (Item.ofSid? t) <;> simp

namespace Directory

namespace Tree

variable {t : Tree}

/-! ## Entries of a tree -/

namespace Shaped

variable (h : t.Shaped)
include h

theorem isParent_of_mem {p c : UInt32} (hc : c ∈ t.children p) : t.IsParent p := by
  by_contra hp
  rw [h.children_eq_nil p hp] at hc
  cases hc

theorem isReachable_root : t.isReachable t.root = true := (h.isReachable_iff _).2 (Or.inl rfl)

theorem isReachable_of_mem {p c : UInt32} (hc : c ∈ t.children p) : t.isReachable c = true :=
  (h.isReachable_iff c).2 (Or.inr ⟨p, h.isParent_of_mem hc, hc⟩)

theorem parent_unique {p q c : UInt32} (hp : c ∈ t.children p) (hq : c ∈ t.children q) : p = q := by
  obtain ⟨_, -, -, honly⟩ := h.parent c (h.isReachable_of_mem hp) (h.child p c hp).1
  rw [honly p hp, honly q hq]

theorem nodup_children (p : UInt32) : (t.children p).Nodup := by
  refine List.nodup_iff_count_eq_one.2 fun c hc => ?_
  obtain ⟨q, -, hcount, honly⟩ := h.parent c (h.isReachable_of_mem hc) (h.child p c hc).1
  rwa [honly p hc]

end Shaped

/-- Different entries of a tree are no more than its entries. -/
theorem length_le_of_isReachable {l : List UInt32} (hnodup : l.Nodup)
    (hl : ∀ n ∈ l, t.isReachable n = true) : l.length ≤ t.entries.size :=
  length_le_of_nodup hnodup fun n hn => Marks.lt_of_contains (hl n hn)

/-! ## The state of a walk -/

/-- The entries that a walk has visited, and those that wait. -/
structure Exploring (t : Tree) (visited waiting : List UInt32) : Prop where
  nodup : (visited ++ waiting).Nodup
  mem_iff : ∀ c, c ∈ visited ++ waiting ↔ ∃ p ∈ t.root :: visited, c ∈ t.children p

namespace Exploring

variable {visited waiting : List UInt32}

theorem start (h : t.Shaped) : Exploring t [] (t.children t.root) where
  nodup := h.nodup_children t.root
  mem_iff c := by simp

theorem isReachable (h : t.Shaped) (he : Exploring t visited waiting) {c : UInt32}
    (hc : c ∈ visited ++ waiting) : t.isReachable c = true ∧ c ≠ t.root := by
  obtain ⟨p, -, hp⟩ := (he.mem_iff c).1 hc
  exact ⟨h.isReachable_of_mem hp, (h.child p c hp).1⟩

/-- The first entry that waits is visited, and its children wait. -/
theorem visit {n : UInt32} (h : t.Shaped) (he : Exploring t visited (n :: waiting)) :
    Exploring t (visited ++ [n]) (t.children n ++ waiting) := by
  have hperm : ((visited ++ [n]) ++ (t.children n ++ waiting)).Perm
      ((visited ++ n :: waiting) ++ t.children n) := by
    rw [List.append_assoc, List.append_assoc, List.singleton_append, List.cons_append]
    exact (List.perm_append_comm.cons n).append_left visited
  have hn : n ∈ visited ++ n :: waiting := List.mem_append_right _ List.mem_cons_self
  refine ⟨?_, ?_⟩
  · rw [hperm.nodup_iff, List.nodup_append]
    refine ⟨he.nodup, h.nodup_children n, fun c hc d hd heq => ?_⟩
    -- `c` has a parent that was visited before, which `n` was not
    obtain ⟨p, hp, hcp⟩ := (he.mem_iff c).1 hc
    obtain rfl := h.parent_unique hcp (heq ▸ hd)
    rcases List.mem_cons.1 hp with rfl | hp
    · exact (he.isReachable h hn).2 rfl
    · exact (List.nodup_append.1 he.nodup).2.2 p hp p List.mem_cons_self rfl
  · intro c
    rw [hperm.mem_iff, List.mem_append, he.mem_iff]
    simp only [List.mem_cons, List.mem_append, List.not_mem_nil, or_false]
    constructor
    · rintro (⟨p, hp, hc⟩ | hc)
      · exact ⟨p, hp.imp_right Or.inl, hc⟩
      · exact ⟨n, Or.inr (Or.inr rfl), hc⟩
    · rintro ⟨p, hp | hp | rfl, hc⟩
      · exact Or.inl ⟨p, Or.inl hp, hc⟩
      · exact Or.inl ⟨p, Or.inr hp, hc⟩
      · exact Or.inr hc

theorem length_lt (h : t.Shaped) (he : Exploring t visited waiting) :
    visited.length + waiting.length < t.entries.size := by
  have hnodup : (t.root :: (visited ++ waiting)).Nodup :=
    List.nodup_cons.2 ⟨fun hmem => (he.isReachable h hmem).2 rfl, he.nodup⟩
  have hle := length_le_of_isReachable hnodup fun n hn => by
    rcases List.mem_cons.1 hn with rfl | hn
    · exact h.isReachable_root
    · exact (he.isReachable h hn).1
  rw [List.length_cons, List.length_append] at hle
  exact hle

/-- **A walk ends** wherever it is. -/
theorem exists_depthFirst (h : t.Shaped) (he : Exploring t visited waiting) :
    ∃ l, DepthFirst t.children waiting l ∧ Exploring t (visited ++ l) [] := by
  induction hroom : t.entries.size - visited.length generalizing visited waiting with
  | zero =>
    have := he.length_lt h
    omega
  | succ room ih =>
    cases waiting with
    | nil => exact ⟨[], .nil, by rwa [List.append_nil]⟩
    | cons n waiting =>
      have hroom' : t.entries.size - (visited ++ [n]).length = room := by
        rw [List.length_append, List.length_singleton]
        omega
      obtain ⟨l, hl, hdone⟩ := ih (he.visit h) hroom'
      exact ⟨n :: l, hl.step, by simpa using hdone⟩

/-- When nothing waits, all entries but the root were visited. -/
theorem mem_visited_iff (h : t.Shaped) (he : Exploring t visited []) {n : UInt32} :
    n ∈ visited ↔ t.isReachable n = true ∧ n ≠ t.root := by
  have hmem : ∀ c, c ∈ visited ↔ ∃ p ∈ t.root :: visited, c ∈ t.children p := by
    intro c
    rw [← he.mem_iff, List.append_nil]
  refine ⟨fun hn => he.isReachable h (List.mem_append_left [] hn), ?_⟩
  have hrooted : ∀ m, Relation.ReflTransGen (fun p c => c ∈ t.children p) t.root m →
      m ∈ t.root :: visited := by
    intro m hm
    induction hm with
    | refl => exact List.mem_cons_self
    | tail _ hstep ih => exact List.mem_cons_of_mem _ ((hmem _).2 ⟨_, ih, hstep⟩)
  rintro ⟨hreachable, hne⟩
  exact (List.mem_cons.1 (hrooted n (h.rooted n hreachable))).resolve_left hne

theorem length_visited (h : t.Shaped) (he : Exploring t visited []) :
    visited.length + 1 = t.reachableCount := by
  have hnodup : (t.root :: visited).Nodup := by
    refine List.nodup_cons.2 ⟨fun hmem => ?_, (List.nodup_append.1 he.nodup).1⟩
    exact ((he.mem_visited_iff h).1 hmem).2 rfl
  have hmem : ∀ n, t.isReachable n = true ↔ n ∈ t.root :: visited := by
    intro n
    rw [List.mem_cons, he.mem_visited_iff h]
    by_cases hn : n = t.root
    · exact iff_of_true (hn ▸ h.isReachable_root) (Or.inl hn)
    · simp [hn]
  rw [h.reachableCount_eq, ncard_eq_length hnodup hmem, List.length_cons]

end Exploring

/-! ## The outline -/

theorem map_below_succ (depth : Nat) (path : String) (n : UInt32) :
    (t.below (depth + 1) path n).map (·.2) = (t.children n).flatMap fun c =>
      c :: (t.below depth (path ++ "/" ++ t.name c) c).map (·.2) := by
  simp [below, List.map_flatMap]

/-- As many levels as there are entries to visit are enough. -/
theorem flatMap_below {l ns : List UInt32} {depth : Nat} (h : DepthFirst t.children ns l)
    (hdepth : l.length ≤ depth) (path : UInt32 → String) :
    (ns.flatMap fun c => c :: (t.below depth (path c) c).map (·.2)) = l := by
  induction h generalizing depth path with
  | nil => rfl
  | @visit n rest inner after _ _ ihinner ihafter =>
    rw [List.length_cons, List.length_append] at hdepth
    obtain ⟨depth, rfl⟩ := Nat.exists_eq_add_one.2 (Nat.lt_of_lt_of_le (Nat.succ_pos _) hdepth)
    rw [List.flatMap_cons, map_below_succ, ihinner (by omega) fun c => path n ++ "/" ++ t.name c,
      ihafter (by omega) path, List.cons_append]

/-- **The outline is the walk from the root.** -/
theorem map_outline {l : List UInt32} (hl : DepthFirst t.children (t.children t.root) l)
    (hlength : l.length < t.entries.size) : t.outline.map (·.2) = l := by
  obtain ⟨depth, hdepth⟩ := Nat.exists_eq_add_one.2 (Nat.zero_lt_of_lt hlength)
  rw [outline, hdepth, map_below_succ]
  exact flatMap_below hl (by omega) _

end Tree

/-! ## Items -/

/-- Every entry of the tree has its number. -/
def Tree.Numbered (t : Tree) : Prop := ∀ n e, t.entry? n = some e → e.sid = n

namespace Tree

variable {t : Tree}

theorem ofSid?_eq_some_iff {n : UInt32} {i : Item} :
    Item.ofSid? t n = some i ↔ i.tree = t ∧ t.entry? n = some i.entry := by
  unfold Item.ofSid?
  rw [Option.map_eq_some_iff]
  constructor
  · rintro ⟨e, he, rfl⟩
    exact ⟨rfl, he⟩
  · rintro ⟨rfl, he⟩
    exact ⟨i.entry, he, rfl⟩

theorem exists_ofSid? {n : UInt32} (h : t.isReachable n = true) :
    ∃ i, Item.ofSid? t n = some i := by
  have hlt : n.toNat < t.entries.size := Marks.lt_of_contains h
  exact ⟨⟨t, t.entries[n.toNat]⟩, ofSid?_eq_some_iff.2 ⟨rfl, Array.getElem?_eq_getElem hlt⟩⟩

namespace Numbered

variable (h : t.Numbered)
include h

theorem sid_eq {n : UInt32} {i : Item} (hi : Item.ofSid? t n = some i) : i.sid = n :=
  h n i.entry (ofSid?_eq_some_iff.1 hi).2

theorem subItems_eq {n : UInt32} {i : Item} (hi : Item.ofSid? t n = some i) :
    i.subItems = (t.children n).filterMap (Item.ofSid? t) := by
  rw [Item.subItems, h.sid_eq hi, (ofSid?_eq_some_iff.1 hi).1]

theorem map_sid {l : List UInt32} (hl : ∀ n ∈ l, t.isReachable n = true) :
    (l.filterMap (Item.ofSid? t)).map Item.sid = l := by
  induction l with
  | nil => rfl
  | cons n l ih =>
    obtain ⟨i, hi⟩ := exists_ofSid? (hl n List.mem_cons_self)
    rw [List.filterMap_cons_some hi, List.map_cons, h.sid_eq hi,
      ih fun m hm => hl m (List.mem_cons_of_mem n hm)]

/-- A walk over entry numbers is a walk over items. -/
theorem depthFirst {ns l : List UInt32} (hl : ∀ n ∈ l, t.isReachable n = true)
    (hwalk : DepthFirst t.children ns l) :
    DepthFirst Item.subItems (ns.filterMap (Item.ofSid? t)) (l.filterMap (Item.ofSid? t)) :=
  hwalk.filterMap fun n hn => by
    obtain ⟨i, hi⟩ := exists_ofSid? (hl n hn)
    exact ⟨i, hi, h.subItems_eq hi⟩

end Numbered

/-- The items of a walk from the root. -/
structure Toured (t : Tree) (items : List Item) : Prop where
  /-- A walk through the items below the root visits these and ends. -/
  walk : ∃ root, Item.ofSid? t t.root = some root ∧ DepthFirst Item.subItems root.subItems items
  nodup : (items.map Item.sid).Nodup
  /-- They are all entries of the tree but the root. -/
  mem_iff : ∀ n, n ∈ items.map Item.sid ↔ t.isReachable n = true ∧ n ≠ t.root
  length : items.length + 1 = t.reachableCount
  /-- The outline lists them in the same order. -/
  outline : t.outline.map (·.2) = items.map Item.sid

theorem Toured.unique {items items' : List Item} (h : t.Toured items) (h' : t.Toured items') :
    items = items' := by
  obtain ⟨root, hroot, hwalk⟩ := h.walk
  obtain ⟨root', hroot', hwalk'⟩ := h'.walk
  obtain rfl := Option.some.inj (hroot.symm.trans hroot')
  exact hwalk.unique hwalk'

/-- **A tree is toured completely.** -/
theorem exists_toured (h : t.Shaped) (hnumbered : t.Numbered) : ∃ items, t.Toured items := by
  obtain ⟨l, hwalk, hdone⟩ := (Exploring.start h).exists_depthFirst h
  rw [List.nil_append] at hdone
  have hmem := fun n => hdone.mem_visited_iff (n := n) h
  have hsid := hnumbered.map_sid fun n hn => ((hmem n).1 hn).1
  obtain ⟨root, hroot⟩ := exists_ofSid? h.isReachable_root
  refine ⟨l.filterMap (Item.ofSid? t), ⟨root, hroot, ?_⟩, ?_, ?_, ?_, ?_⟩
  · rw [hnumbered.subItems_eq hroot]
    exact hnumbered.depthFirst (fun n hn => ((hmem n).1 hn).1) hwalk
  · rw [hsid]
    exact (List.nodup_append.1 hdone.nodup).1
  · intro n
    rw [hsid, hmem]
  · rw [← List.length_map Item.sid, hsid]
    exact hdone.length_visited h
  · rw [hsid]
    exact map_outline hwalk (by simpa using hdone.length_lt h)

end Tree

/-! ## Decoded directories -/

theorem Decodes.numbered {data : ByteArray} {major : UInt16} {es : List Entry}
    (h : Decodes data major es) {t : Tree} (ht : t.entries = es.toArray) : t.Numbered := by
  intro n e he
  rw [Tree.entry?, ht, List.getElem?_toArray] at he
  obtain ⟨hlt, rfl⟩ := List.getElem?_eq_some_iff.1 he
  rw [h.sid_eq hlt, UInt32.ofNat_toNat]

/-- A decoded directory has the shape of a tree, and its entries are numbered. -/
theorem shaped_of_parse {data : ByteArray} {major : UInt16} {strict : Bool} {t : Tree}
    {warnings : List Warning} (h : Tree.parse data major strict = .ok (t, warnings)) :
    t.Shaped ∧ t.Numbered := by
  obtain ⟨es, i, fs, seen, hdecodes, hi, -, hlinked, rfl, -⟩ := linked_of_parse h
  have hlt := hdecodes.toNat_lt hi
  have hshaped := Tree.shaped_of_linking (linking_of_link (Linking.start hlt) hlinked) hlt
  exact ⟨hshaped, hdecodes.numbered rfl⟩

theorem shaped_of_loadedFrom {m : Medium} {options : OpenOptions} {c : Contents}
    (h : c.LoadedFrom m options) : c.tree.Shaped ∧ c.tree.Numbered := by
  obtain ⟨data, hparse⟩ := Contents.exists_parse_of_yields_loadDirectory h.directory
  exact shaped_of_parse hparse

/-- **A decoded directory is a tree**, and going down from its root meets every other entry of the
tree once. -/
theorem tree_of_parse {data : ByteArray} {major : UInt16} {strict : Bool} {t : Tree}
    {warnings : List Warning} (h : Tree.parse data major strict = .ok (t, warnings)) :
    t.Shaped ∧ ∃ items, t.Toured items := by
  obtain ⟨hshaped, hnumbered⟩ := shaped_of_parse h
  exact ⟨hshaped, Tree.exists_toured hshaped hnumbered⟩

theorem tree_of_parse_sample :
    Tree.parse (Bytes.ofList Sample.directory) 3 false = .ok (Sample.contents.tree, []) ∧
      Sample.contents.tree.Shaped ∧ ∃ items, Sample.contents.tree.Toured items :=
  ⟨Sample.parse_directory, tree_of_parse Sample.parse_directory⟩

end Directory

end CompoundFile
