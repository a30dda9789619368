import CompoundFile.Proofs.Bounds.Walks
import CompoundFile.Proofs.Directory.Paths

/-!
# The directory uses its entries only

Linking a directory takes entries, marks and lists of children by number, and so does every look-up
later. Here the same is done with a table that has only the numbers below its size: nothing comes
out when another number is used. Something always comes out, and it is what decoding gives.

**Where numbers come from.** The number on the stack of `siblings` was found by a link, which leads
to an entry. A storage that waits is the root or such a number. So no more is carried along than
that the numbers that wait are below the number of entries.

**Items.** What an item can be is the root, an entry of the tree, a child of an item or what is
found below one (`Tree.HasItem`). All of them have an entry.

Main results: `parseChecked_eq` and `exists_entry_of_hasItem`.
-/

namespace CompoundFile.Directory

variable {es : Array Entry}

/-! ## Siblings -/

/-- List siblings as `siblings` does, when every entry and every mark that is used exists. The stack
holds numbers. -/
def siblingsChecked (es : Array Entry) (parent node : UInt32) (stack : List UInt32)
    (found : Array UInt32) (seen : Marks es.size) :
    Option (Except Fault (List UInt32 × Marks es.size)) :=
  if node = noEntry then
    match stack with
    | [] => some (.ok (found.toList, seen))
    | sid :: stack =>
      match es[sid.toNat]? with
      | none => none
      | some e => siblingsChecked es parent e.right stack (found.push sid) seen
  else
    match linked es parent node with
    | .error fault => some (.error fault)
    | .ok e =>
      match _hput : seen.put? node.toNat with
      | none => none
      | some (true, _) => some (.error (.repeated node))
      | some (false, seen) => siblingsChecked es parent e.left (node :: stack) found seen
termination_by 2 * seen.room + stack.length
decreasing_by
  · simp
  · have := Marks.room_of_put? _hput
    simp only [List.length_cons]
    omega

/-- The stack entries are numbers of entries with their right links. -/
def StackEntries (es : Array Entry) (stack : List (UInt32 × UInt32)) : Prop :=
  ∀ entry ∈ stack, (es[entry.1.toNat]?).map (·.right) = some entry.2

theorem siblingsChecked_eq {parent node : UInt32} {stack : List (UInt32 × UInt32)}
    {found : Array UInt32} {seen : Marks es.size} (hstack : StackEntries es stack) :
    siblingsChecked es parent node (stack.map (·.1)) found seen =
      some (siblings es parent node stack found seen) := by
  fun_induction siblings es parent node stack found seen with
  | case1 found seen => rw [List.map_nil, siblingsChecked, if_pos rfl]
  | case2 found seen sid right stack ih =>
    obtain ⟨hsid, hrest⟩ := List.forall_mem_cons.1 hstack
    obtain ⟨e, he, rfl⟩ := Option.map_eq_some_iff.1 hsid
    rw [List.map_cons, siblingsChecked, if_pos rfl]
    simp only [he]
    exact ih hrest
  | case3 node stack found seen hne fault hlink =>
    rw [siblingsChecked.eq_def, if_neg hne]
    simp only [hlink]
  | case4 node stack found seen hne e hlink hseen =>
    have hput := Marks.put?_of_lt (m := seen) (lt_size_of_linked hlink)
    rw [hseen] at hput
    rw [siblingsChecked.eq_def, if_neg hne]
    simp only [hlink]
    split
    next h => rw [hput] at h; cases h
    next => rfl
    next h => rw [hput] at h; cases h
  | case5 node stack found seen hne e hlink hseen ih =>
    have hput := Marks.put?_of_lt (m := seen) (lt_size_of_linked hlink)
    rw [Bool.eq_false_iff.2 hseen] at hput
    have he := (linked_eq_ok_iff.1 hlink).2
    have hnext : StackEntries es ((node, e.right) :: stack) :=
      List.forall_mem_cons.2 ⟨by rw [he]; rfl, hstack⟩
    rw [siblingsChecked.eq_def, if_neg hne]
    simp only [hlink]
    split
    next h => rw [hput] at h; cases h
    next h => rw [hput] at h; cases h
    next h => rw [hput] at h; cases h; exact ih hnext

theorem siblingsChecked_nil (es : Array Entry) (parent node : UInt32) (found : Array UInt32)
    (seen : Marks es.size) :
    siblingsChecked es parent node [] found seen = some (siblings es parent node [] found seen) := by
  have hstack : StackEntries es [] := List.forall_mem_nil _
  exact siblingsChecked_eq hstack

/-! ## Families -/

/-- The entries of a list of numbers, when they all exist. -/
def members (es : Array Entry) (sids : List UInt32) : Option (List (UInt32 × Entry)) :=
  sids.mapM fun sid => (es[sid.toNat]?).map fun e => (sid, e)

/-- The numbers of the containers among some entries. -/
def containers (ms : List (UInt32 × Entry)) : List UInt32 :=
  (ms.filter fun m => m.2.type.isContainer).map (·.1)

/-- The irregularities among the children of an entry. -/
def memberWarnings (parent : UInt32) (ms : List (UInt32 × Entry)) : List Warning :=
  ((ms.zip ms.tail).filter fun (a, b) => !(compareNames a.2.name b.2.name == .lt)).map
      (fun (a, b) => .misordered parent a.1 b.1) ++
    (ms.filter fun m => !m.2.type.isContainer && m.2.child != noEntry).map fun m =>
      .streamWithChildren m.1

theorem members_eq_some_iff {sids : List UInt32} {ms : List (UInt32 × Entry)} :
    members es sids = some ms ↔
      ms.map (·.1) = sids ∧ ∀ m ∈ ms, es[m.1.toNat]? = some m.2 := by
  unfold members
  induction sids generalizing ms with
  | nil =>
    rw [List.mapM_nil, List.map_eq_nil_iff]
    constructor
    · intro h
      cases h
      exact ⟨rfl, List.forall_mem_nil _⟩
    · rintro ⟨rfl, -⟩
      rfl
  | cons sid sids ih =>
    simp only [List.mapM_cons, Option.bind_eq_bind, Option.bind_eq_some_iff,
      Option.map_eq_some_iff, ih]
    constructor
    · rintro ⟨m, ⟨e, he, rfl⟩, rest, ⟨rfl, hentries⟩, h⟩
      cases h
      exact ⟨rfl, List.forall_mem_cons.2 ⟨he, hentries⟩⟩
    · rintro ⟨hmap, hentries⟩
      obtain ⟨m, rest, rfl, rfl, hrest⟩ := List.map_eq_cons_iff.1 hmap
      obtain ⟨hm, hentries⟩ := List.forall_mem_cons.1 hentries
      exact ⟨m, ⟨m.2, hm, rfl⟩, rest, ⟨hrest, hentries⟩, rfl⟩

theorem exists_members {sids : List UInt32} (h : ∀ n ∈ sids, n.toNat < es.size) :
    ∃ ms, members es sids = some ms := by
  induction sids with
  | nil => exact ⟨[], rfl⟩
  | cons sid sids ih =>
    obtain ⟨hlt, hrest⟩ := List.forall_mem_cons.1 h
    obtain ⟨ms, hms⟩ := ih hrest
    obtain ⟨hmap, hentries⟩ := members_eq_some_iff.1 hms
    refine ⟨(sid, es[sid.toNat]) :: ms, members_eq_some_iff.2 ⟨?_, ?_⟩⟩
    · rw [List.map_cons, hmap]
    · exact List.forall_mem_cons.2 ⟨Array.getElem?_eq_getElem hlt, hentries⟩

section Members

variable {ms : List (UInt32 × Entry)} (h : ∀ m ∈ ms, es[m.1.toNat]? = some m.2)
include h

theorem containers_eq : containers ms = (ms.map (·.1)).filter (isContainer es) := by
  rw [containers, List.filter_map]
  refine congrArg _ (List.filter_congr fun m hm => ?_)
  simp [isContainer, h m hm]

theorem memberWarnings_eq (parent : UInt32) :
    memberWarnings parent ms = Family.warnings es ⟨parent, ms.map (·.1)⟩ := by
  have hpairs : (ms.map (·.1)).zip (ms.map (·.1)).tail =
      (ms.zip ms.tail).map fun p => (p.1.1, p.2.1) := by
    rw [← List.map_tail, List.zip_map]
    rfl
  unfold memberWarnings Family.warnings
  simp only [hpairs, List.filter_map, List.map_map]
  congr 2
  · refine List.filter_congr fun p hp => ?_
    obtain ⟨hfirst, hsecond⟩ := List.of_mem_zip hp
    simp [inOrder, nameOf, h p.1 hfirst, h p.2 (List.mem_of_mem_tail hsecond)]
  · refine List.filter_congr fun m hm => ?_
    simp [isContainer, childLink, h m hm]

end Members

/-! ## Linking -/

/-- List families as `link` does and enter their children into a table, when every entry, every mark
and every place of the table that is used exists. -/
def linkChecked (es : Array Entry) (strict : Bool) (waiting : List UInt32)
    (table : Array (List UInt32)) (warnings : List Warning) (seen : Marks es.size) :
    Option (Except Fault (Array (List UInt32) × List Warning × Marks es.size)) :=
  match waiting with
  | [] => some (.ok (table, warnings, seen))
  | parent :: waiting =>
    match _hparent : es[parent.toNat]? with
    | none => none
    | some p =>
      match _hsiblings : siblingsChecked es parent p.child [] #[] seen with
      | none => none
      | some (.error fault) => some (.error fault)
      | some (.ok (children, seen')) =>
        match _hmembers : members es children with
        | none => none
        | some ms =>
          if _h : parent.toNat < table.size then
            linkChecked es strict ((containers ms).reverse ++ waiting)
              (table.set parent.toNat children)
              (warnings ++ if strict then memberWarnings parent ms else []) seen'
          else none
termination_by seen.room + waiting.length
decreasing_by
  rw [siblingsChecked_nil] at _hsiblings
  have hroom := room_of_siblings (Option.some.inj _hsiblings)
  have hlength := congrArg List.length (members_eq_some_iff.1 _hmembers).1
  have hfilter := List.length_filter_le (fun m : UInt32 × Entry => m.2.type.isContainer) ms
  simp only [containers, List.length_append, List.length_reverse, List.length_map, List.length_cons,
    List.length_nil, List.size_toArray] at *
  omega

/-- The irregularities that a reader reports. -/
def reported (es : Array Entry) (root : UInt32) (strict : Bool) (fs : List Family) : List Warning :=
  if strict then irregularities es root fs else []

theorem reported_nil (es : Array Entry) (root : UInt32) (strict : Bool) :
    reported es root strict [] = if strict ∧ root ≠ 0 then [.rootNotFirst root] else [] := by
  unfold reported irregularities
  cases strict <;> simp

theorem reported_append (root : UInt32) (strict : Bool) (fs : List Family) (f : Family) :
    reported es root strict (fs ++ [f]) =
      reported es root strict fs ++ if strict then f.warnings es else [] := by
  unfold reported irregularities
  cases strict <;> simp

theorem table_append (count : Nat) (fs : List Family) (f : Family) :
    Tree.table count (fs ++ [f]) = enter (Tree.table count fs) f := by
  rw [table_eq, table_eq, List.foldl_append]
  rfl

theorem size_table (count : Nat) (fs : List Family) : (Tree.table count fs).size = count := by
  have hsize : ∀ t : Array (List UInt32), (fs.foldl enter t).size = t.size := by
    induction fs with
    | nil => exact fun t => rfl
    | cons f fs ih =>
      intro t
      rw [List.foldl_cons, ih, enter, Array.size_setIfInBounds]
  rw [table_eq, hsize, Array.size_replicate]

/-- The children that are listed are entries. -/
theorem lt_of_mem_children {parent : UInt32} {seen seen' : Marks es.size} {children : List UInt32}
    (h : siblings es parent (childLink es parent) [] #[] seen = .ok (children, seen')) :
    ∀ n ∈ children, n.toNat < es.size := by
  intro n hn
  obtain ⟨-, hfresh⟩ := order_of_children h
  obtain ⟨-, e, he, -⟩ := usable_iff.1 (hfresh.usable n hn)
  exact (Array.getElem?_eq_some_iff.1 he).1

theorem exists_getElem?_of_lt {n : UInt32} (h : n.toNat < es.size) :
    ∃ e, es[n.toNat]? = some e := ⟨es[n.toNat], Array.getElem?_eq_getElem h⟩

theorem childLink_of_getElem? {n : UInt32} {e : Entry} (h : es[n.toNat]? = some e) :
    childLink es n = e.child := by
  rw [childLink, h]
  rfl

section Turn

variable {strict : Bool} {parent : UInt32} {p : Entry} {waiting : List UInt32}
  {table : Array (List UInt32)} {warnings : List Warning} {seen : Marks es.size}
  (hp : es[parent.toNat]? = some p)
include hp

/-- The children of an entry cannot be listed. -/
theorem linkChecked_of_error {fault : Fault}
    (hsiblings : siblings es parent p.child [] #[] seen = .error fault) :
    linkChecked es strict (parent :: waiting) table warnings seen = some (.error fault) := by
  have hchecked := siblingsChecked_nil es parent p.child #[] seen
  rw [hsiblings] at hchecked
  rw [linkChecked]
  split
  next h => rw [hp] at h; cases h
  next p' h =>
    obtain rfl : p = p' := Option.some.inj (hp.symm.trans h)
    split
    next h => rw [hchecked] at h; cases h
    next h => rw [hchecked] at h; cases h; rfl
    next h => rw [hchecked] at h; cases h

/-- The children of an entry are listed, and the rest is listed behind them. -/
theorem linkChecked_of_ok {children : List UInt32} {seen' : Marks es.size}
    {ms : List (UInt32 × Entry)}
    (hsiblings : siblings es parent p.child [] #[] seen = .ok (children, seen'))
    (hms : members es children = some ms) (hlt : parent.toNat < table.size) :
    linkChecked es strict (parent :: waiting) table warnings seen =
      linkChecked es strict ((containers ms).reverse ++ waiting)
        (enter table ⟨parent, children⟩)
        (warnings ++ if strict then memberWarnings parent ms else []) seen' := by
  have hchecked := siblingsChecked_nil es parent p.child #[] seen
  rw [hsiblings] at hchecked
  rw [linkChecked]
  split
  next h => rw [hp] at h; cases h
  next p' h =>
    obtain rfl : p = p' := Option.some.inj (hp.symm.trans h)
    split
    next h => rw [hchecked] at h; cases h
    next h => rw [hchecked] at h; cases h
    next h =>
      rw [hchecked] at h
      cases h
      split
      next h => rw [hms] at h; cases h
      next ms' h =>
        obtain rfl : ms = ms' := Option.some.inj (hms.symm.trans h)
        rw [dif_pos hlt, enter, Array.setIfInBounds, dif_pos hlt]

end Turn

/-- **Linking uses its entries only.** -/
theorem linkChecked_eq (root : UInt32) (strict : Bool) {waiting : List UInt32}
    (families : Array Family) (seen : Marks es.size) (hwaiting : ∀ n ∈ waiting, n.toNat < es.size) :
    linkChecked es strict waiting (Tree.table es.size families.toList)
        (reported es root strict families.toList) seen =
      some ((link es waiting families seen).map fun (fs, seen) =>
        (Tree.table es.size fs, reported es root strict fs, seen)) := by
  fun_induction link es waiting families seen with
  | case1 families seen =>
    rw [linkChecked]
    rfl
  | case2 families seen parent waiting fault hsiblings =>
    obtain ⟨p, hp⟩ := exists_getElem?_of_lt (List.forall_mem_cons.1 hwaiting).1
    rw [childLink_of_getElem? hp] at hsiblings
    rw [linkChecked_of_error hp hsiblings]
    rfl
  | case3 families seen parent waiting children seen' hsiblings ih =>
    obtain ⟨hparent, hrest⟩ := List.forall_mem_cons.1 hwaiting
    obtain ⟨p, hp⟩ := exists_getElem?_of_lt hparent
    have hchildren := lt_of_mem_children hsiblings
    obtain ⟨ms, hms⟩ := exists_members hchildren
    obtain ⟨hmap, hentries⟩ := members_eq_some_iff.1 hms
    have hcontainers := containers_eq hentries
    have hwarnings := memberWarnings_eq hentries parent
    rw [hmap] at hcontainers hwarnings
    have hnext : ∀ n ∈ (children.filter (isContainer es)).reverse ++ waiting,
        n.toNat < es.size := by
      intro n hn
      rcases List.mem_append.1 hn with hn | hn
      · exact hchildren n (List.mem_filter.1 (List.mem_reverse.1 hn)).1
      · exact hrest n hn
    rw [childLink_of_getElem? hp] at hsiblings
    rw [linkChecked_of_ok hp hsiblings hms (by rwa [size_table]), hcontainers, hwarnings,
      ← table_append, ← reported_append, ← Array.toList_push]
    exact ih hnext

/-! ## Decoding -/

namespace Tree

/-- Decode a directory as `parse` does, when every entry, every mark and every place of the table of
children that is used exists. -/
def parseChecked (data : ByteArray) (major : UInt16) (strict : Bool) :
    Option (Except Fault (Tree × List Warning)) :=
  if data.size < Entry.recordSize then some (.error .noRecords)
  else
    match parseEntries data major with
    | .error fault => some (.error fault)
    | .ok list =>
      match findRoot list with
      | .error fault => some (.error fault)
      | .ok root =>
        let entries := list.toArray
        match (Marks.clear entries.size).put? root.toNat with
        | none => none
        | some (_, seen) =>
          (linkChecked entries strict [root] (Array.replicate entries.size [])
              (if strict ∧ root ≠ 0 then [.rootNotFirst root] else []) seen).map fun result =>
            result.map fun (families, warnings, reachable) =>
              (⟨entries, families, root, reachable⟩, warnings)

/-- Decoding once the records are decoded and the root is found. -/
theorem parse_eq_link {data : ByteArray} {major : UInt16} {strict : Bool} {list : List Entry}
    {root : UInt32} (hsize : ¬data.size < Entry.recordSize)
    (hentries : parseEntries data major = .ok list) (hroot : findRoot list = .ok root) :
    parse data major strict =
      (link list.toArray [root] #[] ((Marks.clear list.toArray.size).mark root.toNat)).map
        fun (fs, seen) =>
          (ofLinked list.toArray root fs seen, reported list.toArray root strict fs) := by
  unfold parse
  rw [if_neg hsize, hentries]
  show (findRoot list >>= _) = _
  rw [hroot]
  show (link list.toArray [root] #[] ((Marks.clear list.toArray.size).mark root.toNat) >>= _) = _
  cases link list.toArray [root] #[] ((Marks.clear list.toArray.size).mark root.toNat) <;> rfl

/-- **Decoding a directory uses its entries only.** -/
theorem parseChecked_eq (data : ByteArray) (major : UInt16) (strict : Bool) :
    parseChecked data major strict = some (parse data major strict) := by
  unfold parseChecked
  by_cases hsize : data.size < Entry.recordSize
  · rw [if_pos hsize, parse, if_pos hsize]
    rfl
  rw [if_neg hsize]
  cases hentries : parseEntries data major with
  | error fault =>
    rw [parse, if_neg hsize, hentries]
    rfl
  | ok list =>
    dsimp only
    cases hroot : findRoot list with
    | error fault =>
      rw [parse, if_neg hsize, hentries]
      show _ = some (findRoot list >>= _)
      rw [hroot]
      rfl
    | ok root =>
      dsimp only
      have hdecodes := parseEntries_eq_ok_iff.1 hentries
      obtain ⟨i, hi, -, rfl⟩ := hdecodes.findRoot_eq_ok_iff.1 hroot
      have hlt := hdecodes.toNat_lt hi
      have hwaiting : ∀ n ∈ [UInt32.ofNat i], n.toNat < list.toArray.size :=
        List.forall_mem_singleton.2 hlt
      have hlinked := linkChecked_eq (UInt32.ofNat i) strict #[]
        ((Marks.clear list.toArray.size).mark (UInt32.ofNat i).toNat) hwaiting
      rw [parse_eq_link hsize hentries hroot]
      simp only [Marks.put?_of_lt hlt]
      rw [← reported_nil list.toArray]
      refine (congrArg (Option.map _) hlinked).trans ?_
      cases link list.toArray [UInt32.ofNat i] #[]
        ((Marks.clear list.toArray.size).mark (UInt32.ofNat i).toNat) <;> rfl

/-! ## Look-up -/

end Tree

/-- The first number whose entry has a matching name, when all entries up to there exist. -/
def firstMatch (es : Array Entry) (name : String) : List UInt32 → Option (Option UInt32)
  | [] => some none
  | sid :: sids =>
    match es[sid.toNat]? with
    | none => none
    | some e => if namesMatch e.name name then some (some sid) else firstMatch es name sids

theorem firstMatch_eq {sids : List UInt32} (name : String) (h : ∀ n ∈ sids, n.toNat < es.size) :
    firstMatch es name sids = some (sids.find? fun sid => namesMatch (nameOf es sid) name) := by
  induction sids with
  | nil => rfl
  | cons sid sids ih =>
    obtain ⟨hlt, hrest⟩ := List.forall_mem_cons.1 h
    obtain ⟨e, he⟩ := exists_getElem?_of_lt hlt
    have hname : nameOf es sid = e.name := by rw [nameOf, he]; rfl
    rw [firstMatch, List.find?_cons, ih hrest, hname]
    simp only [he]
    cases namesMatch e.name name <;> rfl

namespace Tree

variable {t : Tree}

/-- Find a child as `findChild` does, when every entry that is used exists. -/
def findChildChecked (t : Tree) (parent : UInt32) (name : String) : Option (Option UInt32) :=
  firstMatch t.entries name (t.children parent)

theorem lt_of_entry? {n : UInt32} {e : Entry} (h : t.entry? n = some e) :
    n.toNat < t.entries.size := (Array.getElem?_eq_some_iff.1 h).1

theorem findChildChecked_eq (hshaped : t.Shaped) (parent : UInt32) (name : String) :
    t.findChildChecked parent name = some (t.findChild parent name) := by
  refine firstMatch_eq name fun n hn => ?_
  obtain ⟨-, e, he, -⟩ := hshaped.child parent n hn
  exact lt_of_entry? he

/-! ## Items -/

/-- The numbers of items: an item is the root, is asked for by its number, is a child of an item or
is found below one. -/
inductive HasItem (t : Tree) : UInt32 → Prop
  | root : t.HasItem t.root
  | number {n : UInt32} : t.isReachable n = true → t.HasItem n
  | child {p c : UInt32} : t.HasItem p → c ∈ t.children p → t.HasItem c
  | found {p c : UInt32} {names : List String} : t.HasItem p → t.descend p names = some c →
      t.HasItem c

theorem HasItem.isReachable (hshaped : t.Shaped) {n : UInt32} (h : t.HasItem n) :
    t.isReachable n = true := by
  induction h with
  | root => exact hshaped.isReachable_root
  | number hn => exact hn
  | child _ hc => exact hshaped.isReachable_of_mem hc
  | found _ hc ih =>
    obtain ⟨way, hway⟩ := exists_route_of_descend hc
    exact hway.isReachable hshaped ih

/-- **Every item has an entry.** -/
theorem exists_entry_of_hasItem (hshaped : t.Shaped) {n : UInt32} (h : t.HasItem n) :
    ∃ e, t.entry? n = some e := by
  obtain ⟨i, hi⟩ := exists_ofSid? (h.isReachable hshaped)
  exact ⟨i.entry, (ofSid?_eq_some_iff.1 hi).2⟩

end Tree

end CompoundFile.Directory
