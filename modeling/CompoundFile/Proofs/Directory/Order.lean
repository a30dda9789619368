import CompoundFile.Proofs.Directory.Warnings

/-!
# Order and match of names

Siblings stand in an order that looks at the lengths of their names first. A look-up does not look
at lengths: it compares uppercase forms only. So two names are equal in the order when they match
and have the same length (`compareNames_eq_iff`).

**Uppercase forms that grow.** The uppercase form of a character may have more characters than one.
`ß` comes before `SS` in the order and matches it, so the two may be the names of siblings of which
a strict reader has nothing to report, but only the first of them is ever found.

**Siblings in order.** What matches among siblings that are in order has different lengths, and the
shortest comes first. It is the one that a look-up finds.

Main result: `found_iff_shortest`.
-/

namespace CompoundFile

namespace Directory

open Text

/-! ## The order -/

instance : Std.TransCmp compareNames := by
  unfold compareNames
  infer_instance

theorem encode_injective : Function.Injective Utf16.encode :=
  Function.LeftInverse.injective Utf16.decode_encode

theorem foldedUnits_eq_iff {a b : String} :
    foldedUnits a = foldedUnits b ↔ namesMatch a b = true := by
  rw [namesMatch, beq_iff_eq]
  exact encode_injective.eq_iff

/-- Equal names are matching names of equal length. -/
theorem compareNames_eq_iff {a b : String} :
    compareNames a b = .eq ↔ namesMatch a b = true ∧ unitCount a = unitCount b := by
  rw [← foldedUnits_eq_iff, and_comm]
  unfold compareNames compareLex compareOn
  rw [Ordering.then_eq_eq, Std.LawfulEqOrd.compare_eq_iff_eq, Std.LawfulEqOrd.compare_eq_iff_eq]

/-- Among matching names the shorter comes first. -/
theorem unitCount_lt_of_lt {a b : String} (h : compareNames a b = .lt)
    (hmatch : namesMatch a b = true) : unitCount a < unitCount b := by
  have hne : unitCount a ≠ unitCount b := by
    intro heq
    rw [compareNames_eq_iff.2 ⟨hmatch, heq⟩] at h
    cases h
  unfold compareNames compareLex compareOn at h
  rcases Ordering.then_eq_lt.1 h with hlt | ⟨heq, -⟩
  · exact Nat.compare_eq_lt.1 hlt
  · exact absurd (Nat.compare_eq_eq.1 heq) hne

theorem namesMatch_comm (a b : String) : namesMatch a b = namesMatch b a := by
  unfold namesMatch
  exact BEq.comm

/-! ## Siblings that are not reported -/

theorem pairwise_of_isChain {t : Tree} {ns : List UInt32}
    (h : ns.IsChain fun c d => compareNames (t.name c) (t.name d) = .lt) :
    ns.Pairwise fun c d => compareNames (t.name c) (t.name d) = .lt := by
  have htrans : Trans (fun c d => compareNames (t.name c) (t.name d) = .lt)
      (fun c d => compareNames (t.name c) (t.name d) = .lt)
      (fun c d => compareNames (t.name c) (t.name d) = .lt) :=
    ⟨fun hab hbc => Std.TransCmp.lt_trans hab hbc⟩
  exact List.isChain_iff_pairwise.1 h

/-- **Children of which a strict reader reports nothing are in order.** -/
theorem pairwise_of_parse {data : ByteArray} {major : UInt16} {t : Tree} {warnings : List Warning}
    {p : UInt32} (h : Tree.parse data major true = .ok (t, warnings))
    (hp : ∀ left right, .misordered p left right ∉ warnings) :
    (t.children p).Pairwise fun c d => compareNames (t.name c) (t.name d) = .lt := by
  obtain ⟨-, hreported, -⟩ := Tree.reports_of_parse h
  by_cases hparent : t.IsParent p
  · refine pairwise_of_isChain (List.isChain_iff_forall_rel_of_append_cons_cons.2 ?_)
    intro left right before after hsplit
    by_contra horder
    refine hp left right ((hreported _).2 (.misordered hparent ⟨before, after, ?_⟩ horder))
    rw [hsplit, List.append_assoc]
    rfl
  · rw [(shaped_of_parse h).1.children_eq_nil p hparent]
    exact List.Pairwise.nil

/-! ## Look-up -/

namespace Tree

variable {t : Tree} {p c : UInt32}

/-- Among siblings in order those that match differ in length. -/
theorem unitCount_ne_of_pairwise
    (h : (t.children p).Pairwise fun c d => compareNames (t.name c) (t.name d) = .lt)
    {d : UInt32} (hc : c ∈ t.children p) (hd : d ∈ t.children p) (hne : c ≠ d)
    (hmatch : namesMatch (t.name c) (t.name d) = true) :
    unitCount (t.name c) ≠ unitCount (t.name d) := by
  obtain ⟨before, after, hsplit⟩ := List.mem_iff_append.1 hc
  rw [hsplit, List.pairwise_append, List.pairwise_cons] at h
  obtain ⟨-, ⟨hafter, -⟩, hbefore⟩ := h
  rw [hsplit] at hd
  rcases List.mem_append.1 hd with hd | hd
  · have hlt := hbefore d hd c List.mem_cons_self
    rw [namesMatch_comm] at hmatch
    exact (unitCount_lt_of_lt hlt hmatch).ne'
  · rcases List.mem_cons.1 hd with rfl | hd
    · exact absurd rfl hne
    · exact (unitCount_lt_of_lt (hafter d hd) hmatch).ne

/-- Among siblings in order the shortest that matches is found. -/
theorem findChild_name_iff_of_pairwise
    (h : (t.children p).Pairwise fun c d => compareNames (t.name c) (t.name d) = .lt)
    (hc : c ∈ t.children p) :
    t.findChild p (t.name c) = some c ↔
      ∀ d ∈ t.children p, namesMatch (t.name d) (t.name c) = true →
        unitCount (t.name c) ≤ unitCount (t.name d) := by
  rw [findChild_name_iff]
  constructor
  · rintro ⟨before, after, hsplit, hbefore⟩ d hd hmatch
    rw [hsplit, List.pairwise_append, List.pairwise_cons] at h
    rw [hsplit] at hd
    rcases List.mem_append.1 hd with hd | hd
    · rw [hbefore d hd] at hmatch
      cases hmatch
    · rcases List.mem_cons.1 hd with rfl | hd
      · exact Nat.le_refl _
      · rw [namesMatch_comm] at hmatch
        exact (unitCount_lt_of_lt (h.2.1.1 d hd) hmatch).le
  · intro hshortest
    obtain ⟨before, after, hsplit⟩ := List.mem_iff_append.1 hc
    refine ⟨before, after, hsplit, fun d hd => ?_⟩
    rw [hsplit, List.pairwise_append] at h
    by_contra hmatch
    rw [Bool.not_eq_false] at hmatch
    have hlt := unitCount_lt_of_lt (h.2.2 d hd c List.mem_cons_self) hmatch
    have hle := hshortest d (hsplit ▸ List.mem_append_left _ hd) hmatch
    omega

end Tree

/-- **Order and look-up.** Names are equal in the order when they match and have the same length.
Among the children of which a strict reader reports nothing, no two match and have the same length,
and a child is found by its name when no child that matches has a shorter one. -/
theorem found_iff_shortest (a b : String) :
    (compareNames a b = .eq ↔ namesMatch a b = true ∧ unitCount a = unitCount b) ∧
    ∀ data major t warnings, Tree.parse data major true = .ok (t, warnings) →
      ∀ p, (∀ left right, .misordered p left right ∉ warnings) → ∀ c ∈ t.children p,
        (∀ d ∈ t.children p, c ≠ d → namesMatch (t.name c) (t.name d) = true →
          unitCount (t.name c) ≠ unitCount (t.name d)) ∧
        (t.findChild p (t.name c) = some c ↔
          ∀ d ∈ t.children p, namesMatch (t.name d) (t.name c) = true →
            unitCount (t.name c) ≤ unitCount (t.name d)) := by
  refine ⟨compareNames_eq_iff, fun data major t warnings h p hp c hc => ?_⟩
  have hpairwise := pairwise_of_parse h hp
  exact ⟨fun d hd hne hmatch => Tree.unitCount_ne_of_pairwise hpairwise hc hd hne hmatch,
    Tree.findChild_name_iff_of_pairwise hpairwise hc⟩

end Directory

/-! ## A directory with two names that match -/

namespace Sample

open Bytes Directory

def sharp : Entry := entry 1 "ß" .stream 2 noEntry 1 64

def doubled : Entry := entry 2 "SS" .stream noEntry noEntry 4 70

/-- A directory with the streams `ß` and `SS`. -/
def matchingDirectory : List UInt8 :=
  [record root 0x52 5, record sharp 0xDF 2,
    (doubled.fields (fill 64 0 [0x53, 0, 0x53]) 6 2 70).flatten, record unused 0 0].flatten

def matchingTree : Tree :=
  ⟨#[root, sharp, doubled, unused], #[[1, 2], [], [], []], 0,
    (((Marks.clear 4).mark 0).mark 1).mark 2⟩

theorem folded_sharp : folded "ß" = ['S', 'S'] := by
  rw [folded, show "ß".toList = ['ß'] by simp]
  decide

theorem folded_doubled : folded "SS" = ['S', 'S'] := by
  rw [folded, show "SS".toList = ['S', 'S'] by simp]
  decide

theorem unitCount_sharp : unitCount "ß" = 1 := by
  rw [unitCount, show "ß".toList = ['ß'] by simp]
  decide

theorem unitCount_doubled : unitCount "SS" = 2 := by
  rw [unitCount, show "SS".toList = ['S', 'S'] by simp]
  decide

theorem namesMatch_sharp_doubled : namesMatch "ß" "SS" = true := by
  rw [namesMatch, folded_sharp, folded_doubled]
  decide

theorem compareNames_sharp_doubled : compareNames "ß" "SS" = .lt := by
  unfold compareNames compareLex compareOn
  rw [unitCount_sharp, unitCount_doubled]
  rfl

theorem written_sharp : sharp.Written 3 (fill 64 0 [0xDF]) 4 2 sharp.size := by
  constructor <;> decide

theorem written_doubled : doubled.Written 3 (fill 64 0 [0x53, 0, 0x53]) 6 2 70 := by
  constructor <;> decide

theorem parse_matchingDirectory :
    Tree.parse (Bytes.ofList matchingDirectory) 3 true = .ok (matchingTree, []) := by
  have hlength : ∀ r ∈ [record root 0x52 5, record sharp 0xDF 2,
      (doubled.fields (fill 64 0 [0x53, 0, 0x53]) 6 2 70).flatten, record unused 0 0],
      r.length = 128 := by
    simp [length_record written_root, length_record written_sharp, length_record written_unused,
      Entry.length_fields written_doubled, Entry.recordSize]
  have horder : inOrder #[root, sharp, doubled, unused] 1 2 = true :=
    beq_iff_eq.2 compareNames_sharp_doubled
  have hquiet : irregularities #[root, sharp, doubled, unused] 0 [⟨0, [1, 2]⟩] = [] := by
    have hsharp : childLink #[root, sharp, doubled, unused] 1 = noEntry := rfl
    have hdoubled : childLink #[root, sharp, doubled, unused] 2 = noEntry := rfl
    simp [irregularities, Family.warnings, horder, hsharp, hdoubled]
  have hparse : Tree.parse (Bytes.ofList matchingDirectory) 3 true =
      .ok (matchingTree, irregularities #[root, sharp, doubled, unused] 0 [⟨0, [1, 2]⟩]) :=
    Tree.parse_flatten [⟨0, [1, 2]⟩] (List.cons_ne_nil _ _) hlength
      (.cons (Entry.parse_fields written_root) (.cons (Entry.parse_fields written_sharp)
        (.cons (Entry.parse_fields written_doubled) (.cons (Entry.parse_fields written_unused)
          .nil))))
      (by decide) (by decide +kernel)
  rw [hparse, hquiet]

end Sample

namespace Directory

/-- `ß` comes before `SS` and matches it. A strict reader accepts them as siblings in order, and
finds the first of them by the name of the second. -/
theorem sharp_matches_doubled :
    compareNames "ß" "SS" = .lt ∧ namesMatch "ß" "SS" = true ∧
      Tree.parse (Bytes.ofList Sample.matchingDirectory) 3 true = .ok (Sample.matchingTree, []) ∧
      (Sample.matchingTree.children 0).map Sample.matchingTree.name = ["ß", "SS"] ∧
      Sample.matchingTree.findChild 0 "SS" = some 1 ∧
      ¬∀ a b, compareNames a b = .eq ↔ namesMatch a b = true := by
  have hfound : Sample.matchingTree.findChild 0 "SS" = some 1 := by
    refine List.find?_cons_of_pos (l := [2]) ?_
    exact Sample.namesMatch_sharp_doubled
  refine ⟨Sample.compareNames_sharp_doubled, Sample.namesMatch_sharp_doubled,
    Sample.parse_matchingDirectory, rfl, hfound, fun h => ?_⟩
  have heq := (h "ß" "SS").2 Sample.namesMatch_sharp_doubled
  rw [Sample.compareNames_sharp_doubled] at heq
  cases heq

/-- The stream `ß` is found by its name, and the stream `SS` is not. -/
theorem found_iff_shortest_sharp :
    Sample.matchingTree.findChild 0 "ß" = some 1 ∧
      Sample.matchingTree.findChild 0 "SS" ≠ some 2 := by
  obtain ⟨-, hall⟩ := found_iff_shortest "ß" "SS"
  have hsiblings := hall _ _ _ _ Sample.parse_matchingDirectory 0 fun _ _ => by simp
  obtain ⟨-, hsharp⟩ := hsiblings 1 (by decide)
  obtain ⟨-, hdoubled⟩ := hsiblings 2 (by decide)
  have hshort : unitCount (Sample.matchingTree.name 1) = 1 := Sample.unitCount_sharp
  have hlong : unitCount (Sample.matchingTree.name 2) = 2 := Sample.unitCount_doubled
  refine ⟨hsharp.2 fun d hd _ => ?_, fun hfound => ?_⟩
  · rcases List.mem_pair.1 hd with rfl | rfl
    · exact Nat.le_refl _
    · omega
  · have hle := hdoubled.1 hfound 1 (by decide) Sample.namesMatch_sharp_doubled
    omega

end Directory

end CompoundFile
