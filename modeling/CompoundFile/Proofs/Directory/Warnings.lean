import CompoundFile.Proofs.Bounds.Entries

/-!
# What a strict reader reports

Strict or not, a directory is decoded in the same way. A strict reader also reports what is irregular
about the tree (`Tree.Irregular`), all of it and once, and nothing about entries that do not belong to
the tree.

**Once.** Every storage of the tree is the parent of one family, and every entry is a child once. So
the warnings of one family differ (`nodup_warnings`), and those of two families differ in their
parents or in their children.

Main result: `strict_reports_exactly`.
-/

namespace CompoundFile.Directory

/-! ## Neighbours -/

theorem mem_zip_tail_iff {α : Type} {l : List α} {a b : α} :
    (a, b) ∈ l.zip l.tail ↔ [a, b] <:+: l := by
  induction l with
  | nil => simp
  | cons x l ih =>
    rw [List.infix_cons_iff, ← ih]
    cases l with
    | nil => simp
    | cons y l => simp [List.cons_prefix_cons]

theorem nodup_zip_tail {α : Type} {l : List α} (h : l.Nodup) : (l.zip l.tail).Nodup := by
  refine List.Nodup.of_map Prod.snd ?_
  rw [List.map_snd_zip (by simp)]
  exact h.sublist (List.tail_sublist l)

/-! ## One family -/

section Family

variable {es : Array Entry} {f : Family}

theorem mem_warnings_iff {w : Warning} :
    w ∈ f.warnings es ↔
      (∃ left right, [left, right] <:+: f.children ∧
        compareNames (nameOf es left) (nameOf es right) ≠ .lt ∧
          .misordered f.parent left right = w) ∨
      ∃ sid ∈ f.children, isContainer es sid = false ∧ childLink es sid ≠ noEntry ∧
        .streamWithChildren sid = w := by
  unfold Family.warnings
  simp only [List.mem_append, List.mem_map, List.mem_filter, Prod.exists, mem_zip_tail_iff, inOrder,
    Bool.not_eq_true', beq_eq_false_iff_ne, Bool.and_eq_true, bne_iff_ne, ne_eq, and_assoc]

theorem nodup_warnings (h : f.children.Nodup) : (f.warnings es).Nodup := by
  refine List.nodup_append.2 ⟨?_, ?_, ?_⟩
  · refine List.Nodup.map (fun p q heq => ?_) ((nodup_zip_tail h).filter _)
    obtain ⟨-, hleft, hright⟩ := Warning.misordered.inj heq
    exact Prod.ext hleft hright
  · exact (h.filter _).map fun _ _ heq => Warning.streamWithChildren.inj heq
  · intro w hw w' hw' heq
    obtain ⟨p, -, rfl⟩ := List.mem_map.1 hw
    obtain ⟨s, -, rfl⟩ := List.mem_map.1 hw'
    cases heq

end Family

/-! ## All families -/

/-- A stream is an entry that links may lead to but no container. -/
theorem streamWithChildren_iff {es : Array Entry} {n : UInt32}
    (h : (Links.ofEntries es).Usable n) :
    isContainer es n = false ∧ childLink es n ≠ noEntry ↔
      ∃ e, es[n.toNat]? = some e ∧ e.type = .stream ∧ e.child ≠ noEntry := by
  obtain ⟨-, e, he, htype | htype⟩ := usable_iff.1 h <;>
    simp [isContainer, childLink, he, htype, EntryType.isContainer]

namespace Tree

/-- What is irregular about a tree. -/
inductive Irregular (t : Tree) : Warning → Prop
  /-- Two neighbouring children of the root or of a storage of the tree are not in order. -/
  | misordered {p left right : UInt32} : t.IsParent p → [left, right] <:+: t.children p →
      compareNames (t.name left) (t.name right) ≠ .lt → t.Irregular (.misordered p left right)
  /-- A stream of the tree has a child link. -/
  | streamWithChildren {sid : UInt32} {e : Entry} : t.isReachable sid = true → sid ≠ t.root →
      t.entry? sid = some e → e.type = .stream → e.child ≠ noEntry →
      t.Irregular (.streamWithChildren sid)
  /-- The root is not the first record. -/
  | rootNotFirst : t.root ≠ 0 → t.Irregular (.rootNotFirst t.root)

section Linked

variable {es : Array Entry} {root : UInt32} {fs : List Family} {seen : Marks es.size}
  (h : Linking es root [] fs seen)
include h

theorem nodup_irregularities : (irregularities es root fs).Nodup := by
  have hroot : (if root ≠ 0 then [Warning.rootNotFirst root] else []).Nodup := by
    split
    · exact List.nodup_singleton _
    · exact List.nodup_nil
  have hparents : fs.Pairwise fun f g => f.parent ≠ g.parent :=
    List.pairwise_map.1 (nodup_parents h)
  obtain ⟨hchildren, hdisjoint⟩ := List.nodup_flatMap.1 (List.nodup_cons.1 h.nodup).2
  have hfamilies : (fs.flatMap (Family.warnings es)).Nodup := by
    refine List.nodup_flatMap.2 ⟨fun f hf => nodup_warnings (hchildren f hf), ?_⟩
    -- Two families have different parents and no child in common.
    refine (hparents.and hdisjoint).imp ?_
    rintro f g ⟨hne, hdisjoint⟩ w hw hw'
    rcases mem_warnings_iff.1 hw with ⟨_, _, -, -, rfl⟩ | ⟨sid, hsid, -, -, rfl⟩
    · rcases mem_warnings_iff.1 hw' with ⟨_, _, -, -, heq⟩ | ⟨_, -, -, -, heq⟩
      · exact hne (Warning.misordered.inj heq).1.symm
      · cases heq
    · rcases mem_warnings_iff.1 hw' with ⟨_, _, -, -, heq⟩ | ⟨sid', hsid', -, -, heq⟩
      · cases heq
      · cases heq
        exact hdisjoint hsid hsid'
  refine List.nodup_append.2 ⟨hroot, hfamilies, ?_⟩
  rintro w hw w' hw' rfl
  obtain ⟨f, -, hw'⟩ := List.mem_flatMap.1 hw'
  split at hw
  · obtain rfl := List.mem_singleton.1 hw
    rcases mem_warnings_iff.1 hw' with ⟨_, _, -, -, heq⟩ | ⟨_, -, -, -, heq⟩ <;> cases heq
  · cases hw

/-- **The irregularities that are collected are those of the tree.** -/
theorem mem_irregularities_iff (hroot : root.toNat < es.size) {w : Warning} :
    w ∈ irregularities es root fs ↔ (ofLinked es root fs seen).Irregular w := by
  have hreachable : ∀ n, (ofLinked es root fs seen).isReachable n = true ↔
      n ∈ root :: allChildren fs := h.seen_iff
  unfold irregularities
  rw [List.mem_append, List.mem_flatMap]
  constructor
  · rintro (hw | ⟨f, hf, hw⟩)
    · split at hw
      next hne =>
        obtain rfl := List.mem_singleton.1 hw
        exact .rootNotFirst hne
      next => cases hw
    rcases mem_warnings_iff.1 hw with ⟨left, right, hnext, horder, rfl⟩ | ⟨sid, hsid, hw⟩
    · refine .misordered ((mem_parents_iff h).1 (List.mem_map_of_mem hf)) ?_ horder
      rwa [children_of_mem h hroot hf]
    · have hmem : sid ∈ allChildren fs := List.mem_flatMap.2 ⟨f, hf, hsid⟩
      obtain ⟨hcontainer, hchild, rfl⟩ := hw
      obtain ⟨e, he, htype, hchild⟩ :=
        (streamWithChildren_iff (h.usable sid hmem)).1 ⟨hcontainer, hchild⟩
      refine .streamWithChildren ((hreachable sid).2 (List.mem_cons_of_mem root hmem)) ?_ he htype
        hchild
      rintro rfl
      exact (List.nodup_cons.1 h.nodup).1 hmem
  · intro hw
    cases hw with
    | @misordered p left right hp hnext horder =>
      obtain ⟨f, hf, rfl⟩ := List.mem_map.1 ((mem_parents_iff h).2 hp)
      rw [children_of_mem h hroot hf] at hnext
      exact Or.inr ⟨f, hf, mem_warnings_iff.2 (Or.inl ⟨left, right, hnext, horder, rfl⟩)⟩
    | @streamWithChildren sid e hmem hne he htype hchild =>
      rcases List.mem_cons.1 ((hreachable sid).1 hmem) with heq | hmem
      · exact absurd heq hne
      obtain ⟨hcontainer, hchild⟩ :=
        (streamWithChildren_iff (h.usable sid hmem)).2 ⟨e, he, htype, hchild⟩
      obtain ⟨f, hf, hsid⟩ := List.mem_flatMap.1 hmem
      exact Or.inr ⟨f, hf, mem_warnings_iff.2 (Or.inr ⟨sid, hsid, hcontainer, hchild, rfl⟩)⟩
    | rootNotFirst hne =>
      have hne : root ≠ 0 := hne
      rw [if_pos hne]
      exact Or.inl List.mem_cons_self

end Linked

/-! ## Decoding -/

/-- The warnings are all that a strict reader adds. -/
theorem parse_eq_map (data : ByteArray) (major : UInt16) (strict : Bool) :
    parse data major strict =
      (parse data major true).map fun (t, warnings) => (t, if strict then warnings else []) := by
  unfold parse
  by_cases hsize : data.size < Entry.recordSize
  · rw [if_pos hsize, if_pos hsize]
    rfl
  rw [if_neg hsize, if_neg hsize]
  cases parseEntries data major with
  | error fault => rfl
  | ok list =>
    show (findRoot list >>= _) = Except.map _ (findRoot list >>= _)
    cases findRoot list with
    | error fault => rfl
    | ok root =>
      show (link list.toArray [root] #[] _ >>= _) = Except.map _ (link list.toArray [root] #[] _ >>= _)
      cases link list.toArray [root] #[] ((Marks.clear list.toArray.size).mark root.toNat) <;> rfl

/-- What a strict reader reports of a directory that it decodes. -/
theorem reports_of_parse {data : ByteArray} {major : UInt16} {t : Tree} {warnings : List Warning}
    (h : parse data major true = .ok (t, warnings)) :
    warnings.Nodup ∧ (∀ w, w ∈ warnings ↔ t.Irregular w) ∧
      (t.root ≠ 0 ↔ warnings.head? = some (.rootNotFirst t.root)) := by
  obtain ⟨es, i, fs, seen, hdecodes, hi, -, hlinked, rfl, rfl⟩ := linked_of_parse h
  have hlt := hdecodes.toNat_lt hi
  have hlinking := linking_of_link (Linking.start hlt) hlinked
  have hmem : ∀ w, w ∈ irregularities es.toArray (UInt32.ofNat i) fs ↔ _ :=
    fun w => mem_irregularities_iff hlinking hlt
  refine ⟨nodup_irregularities hlinking, hmem, fun hne => ?_, fun hhead => ?_⟩
  · show (irregularities es.toArray (UInt32.ofNat i) fs).head? = _
    rw [irregularities, if_pos hne]
    rfl
  · cases (hmem _).1 (List.mem_of_head? hhead) with
    | rootNotFirst hne => exact hne

/-- As far as 32 bits suffice for entry numbers, the root is the record of its type. -/
theorem type_root_of_parse {data : ByteArray} {major : UInt16} {strict : Bool} {t : Tree}
    {warnings : List Warning} (h : parse data major strict = .ok (t, warnings))
    (hcount : recordCount data ≤ 2 ^ 32) : ∃ e, t.entry? t.root = some e ∧ e.type = .root := by
  obtain ⟨es, i, fs, seen, hdecodes, hi, honly, -, rfl, -⟩ := linked_of_parse h
  have hlt : i < es.length := hdecodes.length_eq ▸ hi
  have htoNat : (UInt32.ofNat i).toNat = i :=
    UInt32.toNat_ofNat_of_lt' (Nat.lt_of_lt_of_le hi hcount)
  refine ⟨es[i], ?_, ?_⟩
  · rw [Tree.entry?, htoNat, List.getElem?_toArray, List.getElem?_eq_getElem hlt]
  · rw [hdecodes.type_eq hlt]
    exact (honly i hi).2 rfl

end Tree

/-- **Strictness only reports.** Strict or not, decoding a directory fails with the same fault or
gives the same tree. Nothing is reported unless it is strict, and then every irregularity of the tree
is, once, and nothing else; a root that is not the first record comes first. It makes no difference
whether the irregularities are collected at the end or while the families are linked. -/
theorem strict_reports_exactly (data : ByteArray) (major : UInt16) :
    (∀ strict, Tree.parseChecked data major strict = some (Tree.parse data major strict)) ∧
    ((∃ fault, ∀ strict, Tree.parse data major strict = .error fault) ∨
      ∃ tree warnings, Tree.parse data major false = .ok (tree, []) ∧
        Tree.parse data major true = .ok (tree, warnings) ∧
        warnings.Nodup ∧ (∀ w, w ∈ warnings ↔ tree.Irregular w) ∧
        (tree.root ≠ 0 ↔ warnings.head? = some (.rootNotFirst tree.root)) ∧
        (recordCount data ≤ 2 ^ 32 → ∃ e, tree.entry? tree.root = some e ∧ e.type = .root)) := by
  refine ⟨Tree.parseChecked_eq data major, ?_⟩
  cases hparse : Tree.parse data major true with
  | error fault =>
    refine Or.inl ⟨fault, fun strict => ?_⟩
    rw [Tree.parse_eq_map, hparse]
    rfl
  | ok r =>
    obtain ⟨tree, warnings⟩ := r
    obtain ⟨hnodup, hmem, hhead⟩ := Tree.reports_of_parse hparse
    refine Or.inr ⟨tree, warnings, ?_, rfl, hnodup, hmem, hhead, Tree.type_root_of_parse hparse⟩
    rw [Tree.parse_eq_map, hparse]
    rfl

end CompoundFile.Directory
