import CompoundFile.Proofs.Directory.Order

/-!
# Siblings in order

A strict reader compares every child of a storage with the next one only. This is enough: the order
of names is transitive, so children of which every one comes before the next come all of them in
order.

**The order.** Names are compared by their lengths and then by the UTF-16 units of their uppercase
forms. This is a total preorder, in which different names may be equal, so transitivity is about
three kinds of steps (`compareNames_trans`) and about replacing a name by an equal one
(`compareNames_congr`).

Main result: `unreported_iff_sorted`.
-/

namespace CompoundFile.Directory

/-! ## The order -/

/-- Names that are equal in the order take the same place in it. -/
theorem compareNames_congr {a b : String} (h : compareNames a b = .eq) (c : String) :
    compareNames a c = compareNames b c ∧ compareNames c a = compareNames c b :=
  ⟨Std.TransCmp.congr_left h, Std.TransCmp.congr_right h⟩

/-- A step in one direction after a step in the same direction is one in this direction. -/
theorem compareNames_trans {a b c : String} {o : Ordering} (hab : compareNames a b = o)
    (hbc : compareNames b c = o) : compareNames a c = o := by
  cases o with
  | lt => exact Std.TransCmp.lt_trans hab hbc
  | eq => exact Std.TransCmp.eq_trans hab hbc
  | gt => exact Std.TransCmp.gt_trans hab hbc

/-! ## Children -/

/-- **Nothing is reported of children exactly when all of them are in order**, not only those that
stand side by side. -/
theorem unreported_iff_pairwise {data : ByteArray} {major : UInt16} {t : Tree}
    {warnings : List Warning} {p : UInt32} (h : Tree.parse data major true = .ok (t, warnings)) :
    (∀ left right, .misordered p left right ∉ warnings) ↔
      (t.children p).Pairwise fun c d => compareNames (t.name c) (t.name d) = .lt := by
  refine ⟨pairwise_of_parse h, ?_⟩
  intro hpairwise left right hmem
  obtain ⟨-, hreported, -⟩ := Tree.reports_of_parse h
  cases (hreported _).1 hmem with
  | misordered _ hnext horder =>
    have hpair := hpairwise.sublist hnext.sublist
    simp only [List.pairwise_cons, List.mem_singleton, forall_eq] at hpair
    exact horder hpair.1

/-! ## Items -/

namespace Tree

variable {t : Tree} {p : UInt32} {i : Item}

theorem name_eq (hi : Item.ofSid? t p = some i) : t.name p = i.entry.name := by
  have hentry : t.entries[p.toNat]? = some i.entry := (ofSid?_eq_some_iff.1 hi).2
  simp [name, nameOf, hentry]

/-- The items of some entries have their names. -/
theorem map_name {l : List UInt32} (hl : ∀ n ∈ l, t.isReachable n = true) :
    (l.filterMap (Item.ofSid? t)).map (·.entry.name) = l.map t.name := by
  induction l with
  | nil => rfl
  | cons n l ih =>
    obtain ⟨j, hj⟩ := exists_ofSid? (hl n List.mem_cons_self)
    rw [List.filterMap_cons_some hj, List.map_cons, List.map_cons, name_eq hj,
      ih fun m hm => hl m (List.mem_cons_of_mem n hm)]

theorem IsParent.isReachable (hshaped : t.Shaped) (hp : t.IsParent p) : t.isReachable p = true := by
  rcases hp with rfl | hp
  · exact hshaped.isReachable_root
  · exact hp.1

/-- Below a parent there are the items of its children. -/
theorem exists_subItems (hshaped : t.Shaped) (hnumbered : t.Numbered) (hp : t.IsParent p) :
    ∃ i, Item.ofSid? t p = some i ∧ i.subItems.map Item.sid = t.children p ∧
      i.subItems.map (·.entry.name) = (t.children p).map t.name := by
  have hchild : ∀ n ∈ t.children p, t.isReachable n = true := fun n hn =>
    hshaped.isReachable_of_mem hn
  obtain ⟨i, hi⟩ := exists_ofSid? (hp.isReachable hshaped)
  refine ⟨i, hi, ?_, ?_⟩
  · rw [hnumbered.subItems_eq hi, hnumbered.map_sid hchild]
  · rw [hnumbered.subItems_eq hi, map_name hchild]

end Tree

/-- **Order of all siblings.** Names are compared in a total preorder: turning a comparison around
reverses it, steps in one direction add up, and equal names compare alike with every other. So when
every child stands before the next, it stands before all that follow: a strict reader reports no
children of a parent out of order if and only if all of them are in order. Then the items
below the parent come in increasing order of their names, and no name is there twice. -/
theorem unreported_iff_sorted :
    (∀ a b, compareNames b a = (compareNames a b).swap) ∧
    (∀ a b c o, compareNames a b = o → compareNames b c = o → compareNames a c = o) ∧
    (∀ a b, compareNames a b = .eq → ∀ c,
      compareNames a c = compareNames b c ∧ compareNames c a = compareNames c b) ∧
    ∀ data major t warnings, Tree.parse data major true = .ok (t, warnings) →
      ∀ p, t.IsParent p →
        ((∀ left right, .misordered p left right ∉ warnings) ↔
          ∀ (i j : Nat) (hi : i < (t.children p).length) (hj : j < (t.children p).length), i < j →
            compareNames (t.name (t.children p)[i]) (t.name (t.children p)[j]) = .lt) ∧
        ∃ item, Item.ofSid? t p = some item ∧ item.subItems.map Item.sid = t.children p ∧
          ((∀ left right, .misordered p left right ∉ warnings) →
            (item.subItems.map (·.entry.name)).Pairwise (fun a b => compareNames a b = .lt) ∧
            (item.subItems.map (·.entry.name)).Nodup) := by
  refine ⟨fun a b => Std.OrientedCmp.eq_swap, fun a b c o => compareNames_trans,
    fun a b => compareNames_congr, ?_⟩
  intro data major t warnings h p hp
  obtain ⟨hshaped, hnumbered⟩ := shaped_of_parse h
  obtain ⟨item, hitem, hsid, hname⟩ := Tree.exists_subItems hshaped hnumbered hp
  refine ⟨(unreported_iff_pairwise h).trans List.pairwise_iff_getElem, item, hitem, hsid, ?_⟩
  intro hquiet
  have hsorted : (item.subItems.map (·.entry.name)).Pairwise
      fun a b => compareNames a b = .lt := by
    rw [hname]
    exact List.pairwise_map.2 ((unreported_iff_pairwise h).1 hquiet)
  refine ⟨hsorted, hsorted.imp ?_⟩
  intro a b hlt heq
  have hself : compareNames b b = .eq := Std.ReflCmp.compare_self
  rw [heq, hself] at hlt
  cases hlt

/-- The streams `ß` and `SS` are below the root in increasing order of their names. -/
theorem unreported_iff_sorted_sharp :
    ∃ item, Item.ofSid? Sample.matchingTree 0 = some item ∧
      item.subItems.map Item.sid = [1, 2] ∧
      (item.subItems.map (·.entry.name)).Pairwise (fun a b => compareNames a b = .lt) ∧
      compareNames (Sample.matchingTree.name 1) (Sample.matchingTree.name 2) = .lt := by
  obtain ⟨-, -, -, hall⟩ := unreported_iff_sorted
  obtain ⟨hquiet, item, hitem, hsid, hsorted⟩ :=
    hall _ _ _ _ Sample.parse_matchingDirectory 0 (Or.inl rfl)
  have hnone : ∀ left right, Warning.misordered 0 left right ∉ ([] : List Warning) := by simp
  have hless := hquiet.1 hnone 0 1 (by decide) (by decide) (by decide)
  exact ⟨item, hitem, hsid, (hsorted hnone).1, hless⟩

end CompoundFile.Directory
