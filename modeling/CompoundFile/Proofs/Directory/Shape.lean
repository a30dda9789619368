import CompoundFile.Proofs.Directory.Records

/-!
# The shape of a storage tree

Siblings are listed in the order of their tree: what is on the left of an entry, the entry, what is
on its right (`Inorder`). The families that are linked fit together: no entry is a child twice, the
parents are the root and the storages among the children, and every child can be reached from the
root (`Linking`). So a directory that is decoded is a tree (`Tree.Shaped`).

**Induction.** While siblings are listed, the stack holds entries whose left side is listed. What is
still to come is the rest of the current side and then, for every entry of the stack, the entry and
its right side (`StackOrder`); the entries of the stack were marked before, the others are fresh.

Main result: `shaped_of_linking`.
-/

namespace CompoundFile.Directory

variable {es : Array Entry}

/-! ## Siblings in order -/

/-- The siblings that a link leads to, from the left to the right. -/
inductive Inorder (es : Array Entry) : UInt32 → List UInt32 → Prop
  | none : Inorder es noEntry []
  | node {n : UInt32} {e : Entry} {before after : List UInt32} : n ≠ noEntry →
      es[n.toNat]? = some e → Inorder es e.left before → Inorder es e.right after →
      Inorder es n (before ++ n :: after)

theorem Inorder.unique {n : UInt32} {l l' : List UInt32} (h : Inorder es n l)
    (h' : Inorder es n l') : l = l' := by
  induction h generalizing l' with
  | none =>
    cases h' with
    | none => rfl
    | node hne => exact absurd rfl hne
  | node hne he _ _ ihleft ihright =>
    cases h' with
    | none => exact absurd rfl hne
    | node _ he' hleft hright =>
      obtain rfl : _ = _ := Option.some.inj (he.symm.trans he')
      rw [ihleft hleft, ihright hright]

/-- What the entries of a stack stand for: the siblings to come, and those of them that are fresh. -/
inductive StackOrder (es : Array Entry) :
    List (UInt32 × UInt32) → List UInt32 → List UInt32 → Prop
  | nil : StackOrder es [] [] []
  | cons {n right : UInt32} {stack : List (UInt32 × UInt32)} {after rest fresh : List UInt32} :
      Inorder es right after → StackOrder es stack rest fresh →
      StackOrder es ((n, right) :: stack) (n :: (after ++ rest)) (after ++ fresh)

/-- Entries that are reached for the first time. -/
structure Fresh (es : Array Entry) (seen seen' : Marks es.size) (ns : List UInt32) : Prop where
  nodup : ns.Nodup
  unseen : ∀ n ∈ ns, seen.contains n.toNat = false
  usable : ∀ n ∈ ns, (Links.ofEntries es).Usable n
  seen_iff : ∀ n : UInt32, seen'.contains n.toNat = true ↔ seen.contains n.toNat = true ∨ n ∈ ns

theorem Fresh.mark {seen seen' : Marks es.size} {n : UInt32} {before after : List UInt32}
    (hlt : n.toNat < es.size) (husable : (Links.ofEntries es).Usable n)
    (hunseen : seen.contains n.toNat = false)
    (h : Fresh es (seen.mark n.toNat) seen' (before ++ after)) :
    Fresh es seen seen' (before ++ n :: after) := by
  have hmark : ∀ m : UInt32, (seen.mark n.toNat).contains m.toNat = true ↔
      seen.contains m.toNat = true ∨ n = m := fun m => contains_mark_iff hlt
  have hmem : ∀ m, m ∈ before ++ n :: after ↔ n = m ∨ m ∈ before ++ after := by
    intro m
    rw [List.perm_middle.mem_iff, List.mem_cons, eq_comm]
  have hnew : n ∉ before ++ after := by
    intro hn
    have := h.unseen n hn
    rw [Bool.eq_false_iff] at this
    exact this ((hmark n).2 (Or.inr rfl))
  refine ⟨List.perm_middle.nodup_iff.2 (List.nodup_cons.2 ⟨hnew, h.nodup⟩), ?_, ?_, ?_⟩
  · intro m hm
    rcases (hmem m).1 hm with rfl | hm
    · exact hunseen
    · have := h.unseen m hm
      rw [Bool.eq_false_iff] at this ⊢
      exact fun hseen => this ((hmark m).2 (Or.inl hseen))
  · intro m hm
    rcases (hmem m).1 hm with rfl | hm
    · exact husable
    · exact h.usable m hm
  · intro m
    rw [h.seen_iff, hmark, hmem]
    exact or_assoc

/-- **Siblings are listed in order**, and they are fresh. -/
theorem order_of_siblings {parent node : UInt32} {stack : List (UInt32 × UInt32)}
    {found : Array UInt32} {seen seen' : Marks es.size} {l : List UInt32}
    (h : siblings es parent node stack found seen = .ok (l, seen')) :
    ∃ before rest fresh, Inorder es node before ∧ StackOrder es stack rest fresh ∧
      l = found.toList ++ (before ++ rest) ∧ Fresh es seen seen' (before ++ fresh) := by
  fun_induction siblings es parent node stack found seen with
  | case1 found seen =>
    cases h
    exact ⟨[], [], [], .none, .nil, by simp, List.nodup_nil, by simp, by simp, by simp⟩
  | case2 found seen sid right stack ih =>
    obtain ⟨after, rest, fresh, hafter, hrest, rfl, hfresh⟩ := ih h
    exact ⟨[], _, _, .none, .cons hafter hrest, by simp, hfresh⟩
  | case3 => cases h
  | case4 => cases h
  | case5 node stack found seen hne e hlink hseen ih =>
    obtain ⟨husable, he⟩ := linked_eq_ok_iff.1 hlink
    obtain ⟨before, rest', fresh', hbefore, hrest', rfl, hfresh⟩ := ih h
    cases hrest' with
    | cons hafter hrest =>
      rw [← List.append_assoc] at hfresh
      refine ⟨_, _, _, .node hne he hbefore hafter, hrest, by simp, ?_⟩
      rw [List.append_assoc, List.cons_append]
      rw [List.append_assoc] at hfresh
      exact hfresh.mark (lt_size_of_linked hlink) husable (by simpa using hseen)

theorem order_of_children {parent : UInt32} {seen seen' : Marks es.size} {l : List UInt32}
    (h : siblings es parent (childLink es parent) [] #[] seen = .ok (l, seen')) :
    Inorder es (childLink es parent) l ∧ Fresh es seen seen' l := by
  obtain ⟨before, rest, fresh, hbefore, hrest, rfl, hfresh⟩ := order_of_siblings h
  cases hrest
  rw [List.append_nil] at hfresh
  simpa using ⟨hbefore, hfresh⟩

/-! ## Families -/

/-- All children of some families. -/
def allChildren (fs : List Family) : List UInt32 := fs.flatMap (·.children)

/-- One entry is a child of another. -/
def ChildOf (fs : List Family) (p c : UInt32) : Prop := ∃ f ∈ fs, f.parent = p ∧ c ∈ f.children

theorem mem_allChildren_iff {fs : List Family} {c : UInt32} :
    c ∈ allChildren fs ↔ ∃ p, ChildOf fs p c := by
  unfold allChildren ChildOf
  rw [List.mem_flatMap]
  constructor
  · rintro ⟨f, hf, hc⟩
    exact ⟨f.parent, f, hf, rfl, hc⟩
  · rintro ⟨p, f, hf, -, hc⟩
    exact ⟨f, hf, hc⟩

theorem allChildren_append (fs fs' : List Family) :
    allChildren (fs ++ fs') = allChildren fs ++ allChildren fs' := List.flatMap_append

theorem ChildOf.mono {fs fs' : List Family} (h : fs ⊆ fs') {p c : UInt32} (hc : ChildOf fs p c) :
    ChildOf fs' p c := by
  obtain ⟨f, hf, hp, hc⟩ := hc
  exact ⟨f, h hf, hp, hc⟩

/-- How families, waiting storages and entries that were reached fit together. -/
structure Linking (es : Array Entry) (root : UInt32) (waiting : List UInt32) (fs : List Family)
    (seen : Marks es.size) : Prop where
  inorder : ∀ f ∈ fs, Inorder es (childLink es f.parent) f.children
  nodup : (root :: allChildren fs).Nodup
  usable : ∀ c ∈ allChildren fs, (Links.ofEntries es).Usable c
  seen_iff : ∀ n : UInt32, seen.contains n.toNat = true ↔ n ∈ root :: allChildren fs
  parents : (fs.map (·.parent) ++ waiting).Perm
    (root :: (allChildren fs).filter (isContainer es))
  rooted : ∀ n ∈ root :: allChildren fs, Relation.ReflTransGen (ChildOf fs) root n

namespace Linking

variable {root : UInt32}

theorem start (hroot : root.toNat < es.size) :
    Linking es root [root] [] ((Marks.clear es.size).mark root.toNat) where
  inorder f hf := by cases hf
  nodup := List.nodup_singleton root
  usable c hc := by cases hc
  seen_iff n := by
    rw [contains_mark_iff hroot, Marks.contains_clear]
    simp [allChildren, eq_comm]
  parents := .refl _
  rooted n hn := by
    obtain rfl := List.mem_singleton.1 hn
    exact .refl

/-- The children of a storage are listed. -/
theorem advance {parent : UInt32} {waiting children : List UInt32} {fs : List Family}
    {seen seen' : Marks es.size} (h : Linking es root (parent :: waiting) fs seen)
    (hinorder : Inorder es (childLink es parent) children)
    (hfresh : Fresh es seen seen' children) :
    Linking es root ((children.filter (isContainer es)).reverse ++ waiting)
      (fs ++ [⟨parent, children⟩]) seen' := by
  have hall : allChildren (fs ++ [⟨parent, children⟩]) = allChildren fs ++ children := by
    rw [allChildren_append]
    simp [allChildren]
  have hparent : parent ∈ root :: allChildren fs := by
    have hmem := h.parents.subset (List.mem_append_right _ List.mem_cons_self)
    rcases List.mem_cons.1 hmem with rfl | hmem
    · exact List.mem_cons_self
    · exact List.mem_cons_of_mem _ (List.mem_filter.1 hmem).1
  have hold : ∀ p c, ChildOf fs p c → ChildOf (fs ++ [⟨parent, children⟩]) p c :=
    fun p c hc => hc.mono (List.subset_append_left _ _)
  refine ⟨?_, ?_, ?_, ?_, ?_, ?_⟩
  · intro f hf
    rcases List.mem_append.1 hf with hf | hf
    · exact h.inorder f hf
    · obtain rfl := List.mem_singleton.1 hf
      exact hinorder
  · rw [hall, ← List.cons_append, List.nodup_append]
    refine ⟨h.nodup, hfresh.nodup, fun n hn c hc heq => ?_⟩
    have hunseen := hfresh.unseen c hc
    rw [Bool.eq_false_iff] at hunseen
    exact hunseen ((h.seen_iff c).2 (heq ▸ hn))
  · intro c hc
    rw [hall] at hc
    rcases List.mem_append.1 hc with hc | hc
    · exact h.usable c hc
    · exact hfresh.usable c hc
  · intro n
    rw [hall, ← List.cons_append, List.mem_append, hfresh.seen_iff, h.seen_iff]
  · rw [hall, List.filter_append, List.map_append, ← List.cons_append]
    have hqueue : ((children.filter (isContainer es)).reverse ++ waiting).Perm
        (waiting ++ children.filter (isContainer es)) :=
      List.perm_append_comm.trans ((List.reverse_perm _).append_left waiting)
    refine (hqueue.append_left _).trans ?_
    have hnext := h.parents.append_right (children.filter (isContainer es))
    simpa using hnext
  · intro n hn
    rw [hall, ← List.cons_append] at hn
    rcases List.mem_append.1 hn with hn | hn
    · exact Relation.ReflTransGen.mono hold _ _ (h.rooted n hn)
    · refine (Relation.ReflTransGen.mono hold _ _ (h.rooted parent hparent)).tail ?_
      exact ⟨_, List.mem_append_right _ List.mem_cons_self, rfl, hn⟩

end Linking

/-- **Families that are linked fit together.** -/
theorem linking_of_link {root : UInt32} {waiting : List UInt32} {families : Array Family}
    {seen seen' : Marks es.size} {fs : List Family}
    (h : Linking es root waiting families.toList seen)
    (hlink : link es waiting families seen = .ok (fs, seen')) : Linking es root [] fs seen' := by
  fun_induction link es waiting families seen with
  | case1 families seen =>
    cases hlink
    exact h
  | case2 => cases hlink
  | case3 families seen parent waiting children seen' hsiblings ih =>
    obtain ⟨hinorder, hfresh⟩ := order_of_children hsiblings
    refine ih ?_ hlink
    rw [Array.toList_push]
    exact h.advance hinorder hfresh

/-! ## The table of children -/

/-- A family is put into a table of children. -/
def enter (t : Array (List UInt32)) (f : Family) : Array (List UInt32) :=
  t.setIfInBounds f.parent.toNat f.children

theorem table_eq (count : Nat) (fs : List Family) :
    Tree.table count fs = fs.foldl enter (Array.replicate count []) := rfl

section Table

variable {fs : List Family} {t : Array (List UInt32)}

theorem getElem?_enter_of_ne {f : Family} {p : UInt32} (h : f.parent ≠ p) :
    (enter t f)[p.toNat]? = t[p.toNat]? := by
  rw [enter, Array.getElem?_setIfInBounds_ne fun heq => h (UInt32.toNat_inj.1 heq)]

theorem getElem?_foldl_enter_of_notMem {p : UInt32} (h : p ∉ fs.map (·.parent)) :
    (fs.foldl enter t)[p.toNat]? = t[p.toNat]? := by
  induction fs generalizing t with
  | nil => rfl
  | cons f fs ih =>
    rw [List.map_cons, List.mem_cons, not_or] at h
    rw [List.foldl_cons, ih h.2, getElem?_enter_of_ne (Ne.symm h.1)]

theorem getElem?_foldl_enter_of_mem (hnodup : (fs.map (·.parent)).Nodup) {f : Family} (hf : f ∈ fs)
    (hlt : f.parent.toNat < t.size) : (fs.foldl enter t)[f.parent.toNat]? = some f.children := by
  induction fs generalizing t with
  | nil => cases hf
  | cons g fs ih =>
    rw [List.map_cons, List.nodup_cons] at hnodup
    rw [List.foldl_cons]
    rcases List.mem_cons.1 hf with rfl | hf
    · rw [getElem?_foldl_enter_of_notMem hnodup.1, enter, Array.getElem?_setIfInBounds_self_of_lt hlt]
    · exact ih hnodup.2 hf (by rwa [enter, Array.size_setIfInBounds])

/-- A family is put in the place of an empty list. -/
theorem perm_flatten_enter {f : Family} (h : t[f.parent.toNat]? = some []) :
    (enter t f).toList.flatten.Perm (t.toList.flatten ++ f.children) := by
  obtain ⟨hlt, hget⟩ := Array.getElem?_eq_some_iff.1 h
  have hlt' : f.parent.toNat < t.toList.length := hlt
  have hsplit : t.toList.flatten =
      (t.toList.take f.parent.toNat).flatten ++ (t.toList.drop (f.parent.toNat + 1)).flatten := by
    conv_lhs => rw [← List.take_append_drop f.parent.toNat t.toList,
      List.drop_eq_getElem_cons hlt', Array.getElem_toList, hget]
    simp
  rw [enter, Array.toList_setIfInBounds, List.set_eq_take_append_cons_drop, if_pos hlt', hsplit,
    List.flatten_append, List.flatten_cons, List.append_assoc]
  exact List.perm_append_comm.append_left _

/-- All children in the table are all children of the families. -/
theorem perm_flatten_foldl_enter (hnodup : (fs.map (·.parent)).Nodup)
    (hempty : ∀ f ∈ fs, t[f.parent.toNat]? = some []) :
    (fs.foldl enter t).toList.flatten.Perm (t.toList.flatten ++ allChildren fs) := by
  induction fs generalizing t with
  | nil =>
    rw [allChildren, List.flatMap_nil, List.append_nil]
    exact .refl _
  | cons f fs ih =>
    rw [List.map_cons, List.nodup_cons] at hnodup
    rw [List.foldl_cons]
    have hrest : ∀ g ∈ fs, (enter t f)[g.parent.toNat]? = some [] := by
      intro g hg
      have hne : f.parent ≠ g.parent := fun heq =>
        hnodup.1 (heq ▸ List.mem_map_of_mem hg)
      rw [getElem?_enter_of_ne hne]
      exact hempty g (List.mem_cons_of_mem f hg)
    refine (ih hnodup.2 hrest).trans ?_
    rw [show allChildren (f :: fs) = f.children ++ allChildren fs from List.flatMap_cons,
      ← List.append_assoc]
    exact (perm_flatten_enter (hempty f List.mem_cons_self)).append_right _

end Table

/-! ## Trees -/

namespace Tree

/-- The root or a storage that belongs to the tree. -/
def IsParent (t : Tree) (p : UInt32) : Prop :=
  p = t.root ∨ t.isReachable p = true ∧ ∃ e, t.entry? p = some e ∧ e.type = .storage

/-- The entries and links of the tree form a tree. -/
structure Shaped (t : Tree) : Prop where
  /-- The children of the root and of the storages are their siblings in order. -/
  inorder : ∀ p, t.IsParent p → Inorder t.entries (childLink t.entries p) (t.children p)
  children_eq_nil : ∀ p, ¬t.IsParent p → t.children p = []
  /-- Every child is a storage or a stream, and not the root. -/
  child : ∀ p c, c ∈ t.children p →
    c ≠ t.root ∧ ∃ e, t.entry? c = some e ∧ (e.type = .storage ∨ e.type = .stream)
  /-- Every entry of the tree but the root is a child once, of one parent. -/
  parent : ∀ c, t.isReachable c = true → c ≠ t.root →
    ∃ p, t.IsParent p ∧ (t.children p).count c = 1 ∧ ∀ q, c ∈ t.children q → q = p
  /-- From every entry of the tree the parents lead to the root. -/
  rooted : ∀ c, t.isReachable c = true →
    Relation.ReflTransGen (fun p c => c ∈ t.children p) t.root c
  acyclic : ∀ c, ¬Relation.TransGen (fun p c => c ∈ t.children p) c c
  isReachable_iff : ∀ n, t.isReachable n = true ↔
    n = t.root ∨ ∃ p, t.IsParent p ∧ n ∈ t.children p
  reachableCount_eq : t.reachableCount = {n | t.isReachable n = true}.ncard

theorem ncard_eq_length {p : UInt32 → Prop} {l : List UInt32} (hnodup : l.Nodup)
    (hl : ∀ n, p n ↔ n ∈ l) : {n | p n}.ncard = l.length := by
  have hset : {n | p n} = (l.toFinset : Set UInt32) := by
    rw [List.coe_toFinset]
    exact Set.ext hl
  rw [hset, Set.ncard_coe_finset, List.toFinset_card_of_nodup hnodup]

section Linked

variable {root : UInt32} {fs : List Family} {seen : Marks es.size}

/-- The tree that linked families form. -/
def ofLinked (es : Array Entry) (root : UInt32) (fs : List Family) (seen : Marks es.size) : Tree :=
  ⟨es, table es.size fs, root, seen⟩

theorem children_of_notMem {p : UInt32} (hp : p ∉ fs.map (·.parent)) :
    (ofLinked es root fs seen).children p = [] := by
  show ((table es.size fs)[p.toNat]?).getD [] = _
  rw [table_eq, getElem?_foldl_enter_of_notMem hp, Array.getElem?_replicate]
  split <;> rfl

variable (h : Linking es root [] fs seen)
include h

theorem nodup_parents : (fs.map (·.parent)).Nodup := by
  have hparents := h.parents
  rw [List.append_nil] at hparents
  rw [hparents.nodup_iff, List.nodup_cons]
  obtain ⟨hroot, hnodup⟩ := List.nodup_cons.1 h.nodup
  exact ⟨fun hmem => hroot (List.mem_filter.1 hmem).1, hnodup.filter _⟩

theorem mem_parents_iff {p : UInt32} :
    p ∈ fs.map (·.parent) ↔ (ofLinked es root fs seen).IsParent p := by
  have hparents := h.parents
  rw [List.append_nil] at hparents
  rw [hparents.mem_iff, List.mem_cons, List.mem_filter]
  have hreachable : (ofLinked es root fs seen).isReachable p = true ↔
      p ∈ root :: allChildren fs := h.seen_iff p
  unfold IsParent
  rw [hreachable, List.mem_cons]
  refine or_congr_right' fun hne => ?_
  change p ≠ root at hne
  have hstorage : (∃ e, es[p.toNat]? = some e ∧ e.type = .storage) ↔
      (Links.ofEntries es).type? p = some .storage := by
    show _ ↔ (es[p.toNat]?).map (·.type) = some .storage
    rw [Option.map_eq_some_iff]
  constructor
  · rintro ⟨hmem, hcontainer⟩
    exact ⟨Or.inr hmem, hstorage.2 ((isContainer_iff (h.usable p hmem)).1 hcontainer)⟩
  · rintro ⟨hmem | hmem, htype⟩
    · exact absurd hmem hne
    · exact ⟨hmem, (isContainer_iff (h.usable p hmem)).2 (hstorage.1 htype)⟩

/-- No entry has two parents. -/
theorem parent_unique {p q c : UInt32} (hp : ChildOf fs p c) (hq : ChildOf fs q c) : p = q := by
  obtain ⟨f, hf, rfl, hc⟩ := hp
  obtain ⟨g, hg, rfl, hc'⟩ := hq
  by_contra hne
  obtain ⟨-, hdisjoint⟩ := List.nodup_flatMap.1 (List.nodup_cons.1 h.nodup).2
  have hfg : f ≠ g := fun heq => hne (congrArg Family.parent heq)
  have hsymm : Std.Symm (Function.onFun List.Disjoint Family.children) :=
    ⟨fun _ _ hd => List.Disjoint.symm hd⟩
  exact hdisjoint.forall hf hg hfg hc hc'

theorem root_not_child {p : UInt32} (hp : ChildOf fs p root) : False :=
  (List.nodup_cons.1 h.nodup).1 (mem_allChildren_iff.2 ⟨p, hp⟩)

/-- An entry that can be reached from the root is on no cycle. -/
theorem acyclic_of_rooted {c : UInt32} (hc : Relation.ReflTransGen (ChildOf fs) root c) :
    ¬Relation.TransGen (ChildOf fs) c c := by
  induction hc with
  | refl =>
    intro hcycle
    obtain ⟨q, -, hq⟩ := Relation.TransGen.tail'_iff.1 hcycle
    exact root_not_child h hq
  | tail _ hstep ih =>
    intro hcycle
    obtain ⟨q, hpath, hq⟩ := Relation.TransGen.tail'_iff.1 hcycle
    obtain rfl := parent_unique h hq hstep
    exact ih (Relation.TransGen.head' hstep hpath)

section Root

variable (hroot : root.toNat < es.size)
include hroot

theorem lt_of_parent {f : Family} (hf : f ∈ fs) : f.parent.toNat < es.size := by
  have hmem : f.parent ∈ fs.map (·.parent) := List.mem_map_of_mem hf
  have hparents := h.parents
  rw [List.append_nil] at hparents
  rcases List.mem_cons.1 (hparents.subset hmem) with heq | hchild
  · rwa [heq]
  · obtain ⟨-, e, he, -⟩ := usable_iff.1 (h.usable _ (List.mem_filter.1 hchild).1)
    exact (Array.getElem?_eq_some_iff.1 he).1

theorem children_of_mem {f : Family} (hf : f ∈ fs) :
    (ofLinked es root fs seen).children f.parent = f.children := by
  have hget := getElem?_foldl_enter_of_mem (t := Array.replicate es.size []) (nodup_parents h) hf
    (by rw [Array.size_replicate]; exact lt_of_parent h hroot hf)
  show ((table es.size fs)[f.parent.toNat]?).getD [] = _
  rw [table_eq, hget, Option.getD_some]

theorem mem_children_iff {p c : UInt32} :
    c ∈ (ofLinked es root fs seen).children p ↔ ChildOf fs p c := by
  constructor
  · intro hc
    by_cases hp : p ∈ fs.map (·.parent)
    · obtain ⟨f, hf, rfl⟩ := List.mem_map.1 hp
      rw [children_of_mem h hroot hf] at hc
      exact ⟨f, hf, rfl, hc⟩
    · rw [children_of_notMem hp] at hc
      cases hc
  · rintro ⟨f, hf, rfl, hc⟩
    rwa [children_of_mem h hroot hf]

theorem reachableCount_ofLinked :
    (ofLinked es root fs seen).reachableCount = (root :: allChildren fs).length := by
  have hempty : ∀ f ∈ fs, (Array.replicate es.size ([] : List UInt32))[f.parent.toNat]? =
      some [] := by
    intro f hf
    rw [Array.getElem?_replicate, if_pos (lt_of_parent h hroot hf)]
  have hlength := (perm_flatten_foldl_enter (nodup_parents h) hempty).length_eq
  rw [← table_eq] at hlength
  show 1 + (table es.size fs).toList.flatten.length = _
  rw [hlength, List.length_cons]
  simp [Nat.add_comm]

/-- **Linked families form a tree.** -/
theorem shaped_of_linking : (ofLinked es root fs seen).Shaped := by
  have hchild : (fun p c => c ∈ (ofLinked es root fs seen).children p) = ChildOf fs := by
    funext p c
    exact propext (mem_children_iff h hroot)
  have hreachable : ∀ n, (ofLinked es root fs seen).isReachable n = true ↔
      n ∈ root :: allChildren fs := h.seen_iff
  have hparent : ∀ {p c}, ChildOf fs p c → (ofLinked es root fs seen).IsParent p := by
    rintro p c ⟨f, hf, rfl, -⟩
    exact (mem_parents_iff h).1 (List.mem_map_of_mem hf)
  exact {
    inorder := by
      intro p hp
      obtain ⟨f, hf, rfl⟩ := List.mem_map.1 ((mem_parents_iff h).2 hp)
      rw [children_of_mem h hroot hf]
      exact h.inorder f hf
    children_eq_nil := by
      intro p hp
      exact children_of_notMem fun hmem => hp ((mem_parents_iff h).1 hmem)
    child := by
      intro p c hc
      have hchildOf := (mem_children_iff h hroot).1 hc
      have hmem := mem_allChildren_iff.2 ⟨p, hchildOf⟩
      obtain ⟨-, husable⟩ := usable_iff.1 (h.usable c hmem)
      refine ⟨?_, husable⟩
      rintro rfl
      exact root_not_child h hchildOf
    parent := by
      intro c hc hne
      rcases List.mem_cons.1 ((hreachable c).1 hc) with heq | hmem
      · exact absurd heq hne
      · obtain ⟨p, hp⟩ := mem_allChildren_iff.1 hmem
        refine ⟨p, hparent hp, ?_, fun q hq =>
          parent_unique h ((mem_children_iff h hroot).1 hq) hp⟩
        obtain ⟨f, hf, rfl, hc⟩ := hp
        rw [children_of_mem h hroot hf]
        have hnodup := (List.nodup_flatMap.1 (List.nodup_cons.1 h.nodup).2).1 f hf
        exact List.count_eq_one_of_mem hnodup hc
    rooted := by
      intro c hc
      rw [hchild]
      exact h.rooted c ((hreachable c).1 hc)
    acyclic := by
      intro c hcycle
      rw [hchild] at hcycle
      obtain ⟨p, -, hp⟩ := Relation.TransGen.tail'_iff.1 hcycle
      have hrooted := h.rooted c (List.mem_cons_of_mem root (mem_allChildren_iff.2 ⟨p, hp⟩))
      exact acyclic_of_rooted h hrooted hcycle
    isReachable_iff := by
      intro n
      rw [hreachable, List.mem_cons, mem_allChildren_iff]
      refine or_congr Iff.rfl (exists_congr fun p => ?_)
      rw [mem_children_iff h hroot]
      exact ⟨fun hp => ⟨hparent hp, hp⟩, And.right⟩
    reachableCount_eq := by
      rw [reachableCount_ofLinked h hroot, ncard_eq_length h.nodup hreachable] }

end Root

end Linked

end Tree

end CompoundFile.Directory
