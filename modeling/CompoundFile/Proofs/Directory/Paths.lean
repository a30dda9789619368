import CompoundFile.Proofs.Directory.Walk

/-!
# Finding an entry by its path

Every entry of a storage tree has one way from the root (`Tree.Route`), and the names on this way
are its path. A look-up goes down by names, so it takes a wrong turn where an earlier sibling has a
matching name; `Tree.Clear` says that this happens nowhere on the way.

**Paths.** Splitting a path at its slashes undoes joining names by slashes, as long as the names are
not empty and have no slash themselves (`segments_join`).

**Descending.** A look-up that succeeds has followed a way, so what it finds belongs to the tree. If
it took a wrong turn it is below another sibling, and as no entry has two ways it does not come
back: an entry is found by the names on its way exactly when this way is clear (`descend_iff_clear`).

Main result: `found_by_own_path`.
-/

namespace CompoundFile

namespace Directory

/-! ## Paths -/

theorem pieces_eq_splitOn (separator : Char) (text : List Char) :
    pieces separator text = text.splitOn separator := by
  induction text with
  | nil => rfl
  | cons c text ih =>
    obtain ⟨first, rest, hsplit⟩ := List.exists_cons_of_ne_nil (List.splitOn_ne_nil separator text)
    unfold pieces
    rw [ih, List.splitOn_cons_eq_if_modifyHead, hsplit]
    by_cases hc : c = separator <;> simp [hc]

/-- The names of a path of two parts are the names of the parts. -/
theorem segments_append (path rest : String) :
    segments (path ++ "/" ++ rest) = segments path ++ segments rest := by
  have htext : (path ++ "/" ++ rest).toList = path.toList ++ '/' :: rest.toList := by
    rw [String.toList_append, String.toList_append, List.append_assoc]
    rfl
  unfold segments
  rw [htext]
  simp only [pieces_eq_splitOn, List.splitOn_append_cons_self, List.filter_append, List.map_append]

/-- The name can stand between two slashes. -/
def IsSegment (name : String) : Prop := name ≠ "" ∧ '/' ∉ name.toList

theorem segments_of_isSegment {name : String} (h : IsSegment name) : segments name = [name] := by
  obtain ⟨hne, hslash⟩ := h
  have htext : name.toList ≠ [] := by simpa using hne
  unfold segments
  rw [pieces_eq_splitOn, List.splitOn_eq_singleton hslash]
  simp [htext]

/-- **Splitting undoes joining.** -/
theorem segments_join {names : List String} (h : ∀ name ∈ names, IsSegment name) :
    segments ("/".intercalate names) = names := by
  induction names with
  | nil => decide
  | cons name rest ih =>
    rw [List.forall_mem_cons] at h
    have hname := segments_of_isSegment h.1
    cases rest with
    | nil => rw [String.intercalate_singleton, hname]
    | cons next rest =>
      rw [String.intercalate_cons_cons, segments_append, hname, ih h.2, List.singleton_append]

/-- A slash in front of a path makes no difference. -/
theorem segments_slash (path : String) : segments ("/" ++ path) = segments path := by
  have hempty : segments "" = [] := by decide
  have happend := segments_append "" path
  rwa [String.empty_append, hempty, List.nil_append] at happend

theorem namesMatch_self (name : String) : namesMatch name name = true := beq_self_eq_true _

namespace Tree

variable {t : Tree} {p c n : UInt32} {way : List UInt32}

/-! ## Ways -/

/-- The way from an entry down to another: the entries that are passed, the last one included. -/
inductive Route (t : Tree) : UInt32 → List UInt32 → UInt32 → Prop
  | here (n : UInt32) : Route t n [] n
  | step {p c n : UInt32} {way : List UInt32} : c ∈ t.children p → Route t c way n →
      Route t p (c :: way) n

namespace Route

theorem append {way' : List UInt32} (h : t.Route p way c) (h' : t.Route c way' n) :
    t.Route p (way ++ way') n := by
  induction h with
  | here => exact h'
  | step hchild _ ih => exact .step hchild (ih h')

theorem of_append {way' : List UInt32} (h : t.Route p (way ++ way') n) :
    ∃ c, t.Route p way c ∧ t.Route c way' n := by
  induction way generalizing p with
  | nil => exact ⟨p, .here p, h⟩
  | cons c way ih =>
    cases h with
    | step hchild hrest =>
      obtain ⟨middle, hfirst, hsecond⟩ := ih hrest
      exact ⟨middle, .step hchild hfirst, hsecond⟩

/-- The last step of a way. -/
theorem of_concat (h : t.Route p (way ++ [c]) n) :
    c = n ∧ ∃ q, t.Route p way q ∧ n ∈ t.children q := by
  obtain ⟨q, hway, hlast⟩ := h.of_append
  cases hlast with
  | step hchild hrest =>
    cases hrest
    exact ⟨rfl, q, hway, hchild⟩

/-- **No entry has two ways.** The last entries of two ways have the same parent. -/
theorem unique {way' : List UInt32} (hshaped : t.Shaped) (h : t.Route t.root way n)
    (h' : t.Route t.root way' n) : way = way' := by
  induction way using List.reverseRecOn generalizing way' n with
  | nil =>
    cases h
    rcases List.eq_nil_or_concat way' with rfl | ⟨before, last, rfl⟩
    · rfl
    · rw [List.concat_eq_append] at h'
      obtain ⟨rfl, q, -, hchild⟩ := h'.of_concat
      exact absurd rfl (hshaped.child q _ hchild).1
  | append_singleton way c ih =>
    obtain ⟨rfl, q, hway, hchild⟩ := h.of_concat
    rcases List.eq_nil_or_concat way' with rfl | ⟨before, last, rfl⟩
    · cases h'
      exact absurd rfl (hshaped.child q _ hchild).1
    · rw [List.concat_eq_append] at h' ⊢
      obtain ⟨rfl, q', hbefore, hchild'⟩ := h'.of_concat
      obtain rfl := hshaped.parent_unique hchild hchild'
      rw [ih hway hbefore]

theorem isReachable (hshaped : t.Shaped) (h : t.Route p way n) (hp : t.isReachable p = true) :
    t.isReachable n = true := by
  induction h with
  | here => exact hp
  | step hchild _ ih => exact ih (hshaped.isReachable_of_mem hchild)

end Route

/-- Links from parents to children make a way. -/
theorem exists_route (h : Relation.ReflTransGen (fun p c => c ∈ t.children p) p n) :
    ∃ way, t.Route p way n := by
  induction h with
  | refl => exact ⟨[], .here p⟩
  | @tail q c _ hchild ih =>
    obtain ⟨way, hway⟩ := ih
    exact ⟨way ++ [c], hway.append (.step hchild (.here c))⟩

/-! ## Descending -/

/-- No earlier sibling of the child has a matching name. -/
def Foremost (t : Tree) (p c : UInt32) : Prop :=
  ∃ before after, t.children p = before ++ c :: after ∧
    ∀ d ∈ before, namesMatch (t.name d) (t.name c) = false

/-- On a way down from an entry no earlier sibling has a matching name. -/
def Clear (t : Tree) : UInt32 → List UInt32 → Prop
  | _, [] => True
  | p, c :: way => t.Foremost p c ∧ t.Clear c way

/-- A child is found by its own name when it is the first that the name matches. -/
theorem findChild_name_iff : t.findChild p (t.name c) = some c ↔ t.Foremost p c := by
  unfold findChild Foremost
  rw [List.find?_eq_some_iff_append]
  simp [namesMatch_self]

theorem mem_children_of_findChild {name : String} (h : t.findChild p name = some c) :
    c ∈ t.children p := List.mem_of_find?_eq_some h

/-- Some child is found by the name of a child. -/
theorem exists_findChild (hc : c ∈ t.children p) : ∃ d, t.findChild p (t.name c) = some d :=
  Option.isSome_iff_exists.1 (List.find?_isSome.2 ⟨c, hc, namesMatch_self _⟩)

theorem descend_cons (name : String) (names : List String) :
    t.descend p (name :: names) = (t.findChild p name).bind fun c => t.descend c names := rfl

/-- A look-up follows a way. -/
theorem exists_route_of_descend {names : List String} (h : t.descend p names = some n) :
    ∃ way, t.Route p way n := by
  induction names generalizing p with
  | nil =>
    cases h
    exact ⟨[], .here _⟩
  | cons name names ih =>
    rw [descend_cons] at h
    obtain ⟨c, hc, h⟩ := Option.bind_eq_some_iff.1 h
    obtain ⟨way, hway⟩ := ih h
    exact ⟨c :: way, .step (mem_children_of_findChild hc) hway⟩

/-- **An entry is found by the names on its way exactly when the way is clear.** -/
theorem descend_iff_clear (hshaped : t.Shaped) (hp : t.isReachable p = true)
    (h : t.Route p way n) : t.descend p (way.map t.name) = some n ↔ t.Clear p way := by
  induction h with
  | here n => exact iff_of_true rfl trivial
  | @step p c n way hc hroute ih =>
    obtain ⟨d, hd⟩ := exists_findChild hc
    have hchild := mem_children_of_findChild hd
    rw [List.map_cons, descend_cons, hd, Option.bind_some, Clear, ← findChild_name_iff, hd]
    by_cases hdc : d = c
    · subst hdc
      simpa using ih (hshaped.isReachable_of_mem hc)
    · -- Below a wrong sibling the entry is not found, for it is below the right one.
      refine iff_of_false (fun hfound => ?_) fun hclear => hdc (Option.some.inj hclear.1)
      obtain ⟨way', hway'⟩ := exists_route_of_descend hfound
      obtain ⟨above, habove⟩ := exists_route (hshaped.rooted p hp)
      have hsame := (habove.append (.step hchild hway')).unique hshaped
        (habove.append (.step hc hroute))
      exact hdc (List.cons.inj (List.append_cancel_left hsame)).1

theorem Clear.of_append {above rest : List UInt32} (hclear : t.Clear p (above ++ rest))
    (h : t.Route p above c) : t.Clear c rest := by
  induction h with
  | here => exact hclear
  | step _ _ ih => exact ih hclear.2

/-- The names on a way, joined by slashes. -/
def pathOf (t : Tree) (way : List UInt32) : String := "/".intercalate (way.map t.name)

theorem segments_pathOf (hnames : ∀ c ∈ way, IsSegment (t.name c)) :
    segments (t.pathOf way) = way.map t.name := segments_join (List.forall_mem_map.2 hnames)

/-- An item is found below another by the names on a clear way. -/
theorem subItemByPath_of_clear (hshaped : t.Shaped) (hnumbered : t.Numbered) {i : Item}
    (hi : Item.ofSid? t p = some i) (hp : t.isReachable p = true) (h : t.Route p way n)
    (hnames : ∀ c ∈ way, IsSegment (t.name c)) (hclear : t.Clear p way) :
    ∃ j, i.subItemByPath (t.pathOf way) = .ok j ∧ Item.ofSid? t n = some j := by
  obtain ⟨j, hj⟩ := exists_ofSid? (h.isReachable hshaped hp)
  refine ⟨j, ?_, hj⟩
  unfold Item.subItemByPath
  rw [hnumbered.sid_eq hi, (ofSid?_eq_some_iff.1 hi).1, segments_pathOf hnames,
    (descend_iff_clear hshaped hp h).2 hclear, Item.found, Option.bind_some, hj]

end Tree

/-- **Every item is found by its own path.** In a decoded directory a look-up by path gives entries
of the tree only. Each of them has exactly one way from the root. When the names on this way are not
empty and have no slash, the path that joins them, with a slash in front or without, leads to the
entry if and only if on no level an earlier sibling has a matching name; and then the rest of
the path leads there from every entry on the way. -/
theorem found_by_own_path {data : ByteArray} {major : UInt16} {strict : Bool} {t : Tree}
    {warnings : List Warning} (h : Tree.parse data major strict = .ok (t, warnings)) :
    (∀ path n, t.findPath path = some n → t.isReachable n = true) ∧
      ∀ n, t.isReachable n = true → ∃ way, t.Route t.root way n ∧
        (∀ way', t.Route t.root way' n → way' = way) ∧
        ((∀ c ∈ way, IsSegment (t.name c)) →
          (t.findPath (t.pathOf way) = some n ↔ t.Clear t.root way) ∧
          (t.findPath ("/" ++ t.pathOf way) = some n ↔ t.Clear t.root way) ∧
          (t.Clear t.root way → ∀ p rest i, t.isReachable p = true → t.Route p rest n →
            Item.ofSid? t p = some i → ∃ j, i.subItemByPath (t.pathOf rest) = .ok j ∧
              Item.ofSid? t n = some j)) := by
  obtain ⟨hshaped, hnumbered⟩ := shaped_of_parse h
  have hroot := hshaped.isReachable_root
  refine ⟨fun path n hfound => ?_, fun n hn => ?_⟩
  · obtain ⟨way, hway⟩ := Tree.exists_route_of_descend hfound
    exact hway.isReachable hshaped hroot
  obtain ⟨way, hway⟩ := Tree.exists_route (hshaped.rooted n hn)
  refine ⟨way, hway, fun way' hway' => hway'.unique hshaped hway, fun hnames => ?_⟩
  have hfound := Tree.descend_iff_clear hshaped hroot hway
  refine ⟨?_, ?_, ?_⟩
  · rwa [Tree.findPath, Tree.segments_pathOf hnames]
  · rwa [Tree.findPath, segments_slash, Tree.segments_pathOf hnames]
  · intro hclear p rest i hp hrest hi
    obtain ⟨above, habove⟩ := Tree.exists_route (hshaped.rooted p hp)
    obtain rfl : way = above ++ rest := hway.unique hshaped (habove.append hrest)
    exact Tree.subItemByPath_of_clear hshaped hnumbered hi hp hrest
      (fun c hc => hnames c (List.mem_append_right above hc)) (hclear.of_append habove)

end Directory

namespace Sample

open Bytes Directory

def folder : Entry := entry 2 "D" .storage noEntry 3 0 0

def inner : Entry := entry 3 "T" .stream noEntry noEntry 4 70

/-- A directory with the stream `S` and the storage `D`, in which there is the stream `T`. -/
def nestedDirectory : List UInt8 :=
  [record root 0x52 5, record short 0x53 2, record folder 0x44 1, record inner 0x54 2].flatten

/-- The tree of the directory. -/
def nestedTree : Tree :=
  ⟨#[root, short, folder, inner], #[[1, 2], [], [3], []], 0, ⟨#v[true, true, true, true]⟩⟩

theorem written_folder : folder.Written 3 (fill 64 0 [0x44]) 4 1 folder.size := by
  constructor <;> decide

theorem written_inner : inner.Written 3 (fill 64 0 [0x54]) 4 2 inner.size := by
  constructor <;> decide

theorem parse_nestedDirectory :
    Tree.parse (Bytes.ofList nestedDirectory) 3 false = .ok (nestedTree, []) := by
  have hlength : ∀ r ∈ [record root 0x52 5, record short 0x53 2, record folder 0x44 1,
      record inner 0x54 2], r.length = 128 := by
    simp [length_record written_root, length_record written_short, length_record written_folder,
      length_record written_inner]
  exact Tree.parse_flatten [⟨0, [1, 2]⟩, ⟨2, [3]⟩] (List.cons_ne_nil _ _) hlength
    (.cons (Entry.parse_fields written_root) (.cons (Entry.parse_fields written_short)
      (.cons (Entry.parse_fields written_folder) (.cons (Entry.parse_fields written_inner) .nil))))
    (by decide) (by decide +kernel)

/-- The way to the stream `T`. -/
theorem route_inner : nestedTree.Route 0 [2, 3] 3 :=
  .step (List.mem_of_getElem? (i := 1) rfl) (.step (List.mem_of_getElem? (i := 0) rfl) (.here 3))

theorem clear_inner : nestedTree.Clear 0 [2, 3] := by
  have hshort : folded "S" = ['S'] := by
    rw [folded, show "S".toList = ['S'] by simp]
    decide
  have hfolder : folded "D" = ['D'] := by
    rw [folded, show "D".toList = ['D'] by simp]
    decide
  refine ⟨⟨[1], [], rfl, fun d hd => ?_⟩, ⟨[], [], rfl, List.forall_mem_nil _⟩, trivial⟩
  rw [List.mem_singleton.1 hd]
  show namesMatch "S" "D" = false
  rw [namesMatch, hshort, hfolder]
  decide

end Sample

/-- The stream `T` in the storage `D` is found at `D/T` and at `/D/T`, and at `T` from `D`. -/
theorem Directory.found_by_own_path_nested :
    Tree.parse (Bytes.ofList Sample.nestedDirectory) 3 false = .ok (Sample.nestedTree, []) ∧
      Sample.nestedTree.findPath "D/T" = some 3 ∧ Sample.nestedTree.findPath "/D/T" = some 3 ∧
      Item.subItemByPath ⟨Sample.nestedTree, Sample.folder⟩ "T" =
        .ok ⟨Sample.nestedTree, Sample.inner⟩ := by
  obtain ⟨-, hown⟩ := found_by_own_path Sample.parse_nestedDirectory
  obtain ⟨way, -, hunique, hfound⟩ := hown 3 rfl
  obtain rfl := hunique _ Sample.route_inner
  have hnames : ∀ c ∈ [2, 3], IsSegment (Sample.nestedTree.name c) := by
    simp [IsSegment, Tree.name, nameOf, Sample.nestedTree, Sample.folder, Sample.inner,
      Sample.entry]
  have hjoined : Sample.nestedTree.pathOf [2, 3] = "D/T" := by
    show "/".intercalate ["D", "T"] = "D/T"
    decide
  have hlast : Sample.nestedTree.pathOf [3] = "T" := String.intercalate_singleton
  have hslashed : "/" ++ "D/T" = "/D/T" := by decide
  obtain ⟨hpath, hslash, hbelow⟩ := hfound hnames
  rw [hjoined] at hpath hslash
  rw [hslashed] at hslash
  have hstep : Sample.nestedTree.Route 2 [3] 3 :=
    .step (List.mem_of_getElem? (i := 0) rfl) (.here 3)
  obtain ⟨j, hj, hitem⟩ :=
    hbelow Sample.clear_inner 2 [3] ⟨Sample.nestedTree, Sample.folder⟩ rfl hstep rfl
  rw [hlast] at hj
  obtain rfl := Option.some.inj hitem
  exact ⟨Sample.parse_nestedDirectory, hpath.2 Sample.clear_inner, hslash.2 Sample.clear_inner, hj⟩

end CompoundFile
