import CompoundFile.Directory.Tree
import Mathlib

/-!
# The links of a directory

Decoding a directory follows links: from the child link of the root on, the sibling links of every
entry that is reached, and the child links of the storages among them (`Links.Followed`). It
succeeds exactly when every link that is followed and leads somewhere leads to a usable entry of its
own (`Links.Accepts`), and none to the root (`Links.Sound`).

**Progress.** While links are followed, some are done and some are pending. Which ones is not
written down in the program: the stack, the siblings found so far and the waiting storages stand for
the pending links. `Progress` says how they belong together. A link that is pending is not done, so
an entry that was reached before and is reached again is the target of two links.

Main result: `link_ok_iff`.
-/

namespace CompoundFile.Directory

/-- The three links of an entry. -/
inductive Side where
  | left
  | right
  | child
  deriving DecidableEq, Repr

/-- A link is named by the number of the entry that has it and its side. -/
abbrev Link := UInt32 × Side

/-- Where the links of a directory lead, and the types of its entries. -/
structure Links where
  target : Link → UInt32
  /-- The type of an entry, if there is one with the number. -/
  type? : UInt32 → Option EntryType

namespace Links

/-! ## Links that are followed -/

section

variable (g : Links) (root : UInt32)

/-- The links that are followed. The sibling links of the root are not, and a stream has no child
link that counts. -/
inductive Followed : Link → Prop
  | root : Followed (root, .child)
  | left {l : Link} : Followed l → g.target l ≠ noEntry → Followed (g.target l, .left)
  | right {l : Link} : Followed l → g.target l ≠ noEntry → Followed (g.target l, .right)
  | child {l : Link} : Followed l → g.target l ≠ noEntry → g.type? (g.target l) = some .storage →
      Followed (g.target l, .child)

/-- An entry that may be a child. -/
def Usable (n : UInt32) : Prop :=
  n ≤ maxEntry ∧ (g.type? n = some .storage ∨ g.type? n = some .stream)

/-- Every link that is followed leads nowhere or to a usable entry of its own. -/
structure Accepts : Prop where
  usable : ∀ l, g.Followed root l → g.target l ≠ noEntry → g.Usable (g.target l)
  injective : ∀ l l', g.Followed root l → g.Followed root l' → g.target l ≠ noEntry →
    g.target l = g.target l' → l = l'

/-- No link that is followed leads back to the root. -/
def SparesRoot : Prop := ∀ l, g.Followed root l → g.target l ≠ noEntry → g.target l ≠ root

/-- The links below the root form a tree. -/
structure Sound : Prop extends g.Accepts root where
  sparesRoot : g.SparesRoot root

end

/-- A root that has its type is not usable. -/
theorem Accepts.sparesRoot {g : Links} {root : UInt32} (h : g.Accepts root)
    (hroot : g.type? root = some .root) : g.SparesRoot root := by
  intro l hl hne heq
  obtain ⟨-, htype | htype⟩ := h.usable l hl hne
  · rw [heq, hroot] at htype
    cases htype
  · rw [heq, hroot] at htype
    cases htype

/-- The links that are followed because of a link that is followed. -/
def onward (g : Links) (l : Link) : List Link :=
  if g.target l = noEntry then []
  else
    (g.target l, .left) :: (g.target l, .right) ::
      if g.type? (g.target l) = some .storage then [(g.target l, .child)] else []

theorem mem_onward_iff {g : Links} {l l' : Link} :
    l' ∈ g.onward l ↔ g.target l ≠ noEntry ∧ l'.1 = g.target l ∧
      (l'.2 = .child → g.type? (g.target l) = some .storage) := by
  obtain ⟨n, side⟩ := l'
  unfold onward
  cases side <;> split_ifs <;> simp_all

theorem nodup_onward (g : Links) (l : Link) : (g.onward l).Nodup := by
  unfold onward
  split_ifs <;> simp

theorem Followed.onward {g : Links} {root : UInt32} {l l' : Link} (h : g.Followed root l)
    (hl' : l' ∈ g.onward l) : g.Followed root l' := by
  obtain ⟨hne, howner, hchild⟩ := mem_onward_iff.1 hl'
  obtain ⟨n, side⟩ := l'
  change n = g.target l at howner
  subst howner
  cases side with
  | left => exact .left h hne
  | right => exact .right h hne
  | child => exact .child h hne (hchild rfl)

/-! ## Progress -/

/-- How links that are done, links that are pending and entries that were reached belong together. -/
structure Progress (g : Links) (root : UInt32) (done pending : List Link) (seen : UInt32 → Prop) : Prop where
  nodup : (done ++ pending).Nodup
  followed : ∀ l ∈ done ++ pending, g.Followed root l
  owner_seen : ∀ l ∈ done ++ pending, seen l.1
  seen_iff : ∀ n, seen n ↔ n = root ∨ ∃ l ∈ done, g.target l ≠ noEntry ∧ g.target l = n
  usable : ∀ l ∈ done, g.target l ≠ noEntry → g.Usable (g.target l) ∧ g.target l ≠ root
  injective : ∀ l ∈ done, ∀ l' ∈ done, g.target l ≠ noEntry → g.target l = g.target l' → l = l'
  root_mem : (root, .child) ∈ done ++ pending
  closed : ∀ l ∈ done, ∀ l' ∈ g.onward l, l' ∈ done ++ pending

namespace Progress

variable {g : Links} {root : UInt32} {done pending : List Link} {seen : UInt32 → Prop}

theorem start (g : Links) (root : UInt32) : g.Progress root [] [(root, .child)] (· = root) where
  nodup := List.nodup_singleton _
  followed l hl := by
    rw [List.mem_singleton.1 hl]
    exact .root
  owner_seen l hl := by rw [List.mem_singleton.1 hl]
  seen_iff n := by simp
  usable l hl := by cases hl
  injective l hl := by cases hl
  root_mem := List.mem_singleton_self _
  closed l hl := by cases hl

/-- The order of pending links does not matter. -/
theorem perm {pending' : List Link} (h : g.Progress root done pending seen)
    (hperm : pending.Perm pending') : g.Progress root done pending' seen := by
  have hall : ∀ l, l ∈ done ++ pending ↔ l ∈ done ++ pending' :=
    fun l => (hperm.append_left done).mem_iff
  exact {
    nodup := (hperm.append_left done).nodup_iff.1 h.nodup
    followed := fun l hl => h.followed l ((hall l).2 hl)
    owner_seen := fun l hl => h.owner_seen l ((hall l).2 hl)
    seen_iff := h.seen_iff
    usable := h.usable
    injective := h.injective
    root_mem := (hall _).1 h.root_mem
    closed := fun l hl l' hl' => (hall _).1 (h.closed l hl l' hl') }

/-- A link is done when the links that follow from it are pending. -/
theorem advance {l : Link} {seen' : UInt32 → Prop} (h : g.Progress root done (l :: pending) seen)
    (hseen' : ∀ n, seen' n ↔ seen n ∨ g.target l ≠ noEntry ∧ g.target l = n)
    (htarget : g.target l ≠ noEntry → g.Usable (g.target l) ∧ ¬seen (g.target l)) :
    g.Progress root (l :: done) (g.onward l ++ pending) seen' := by
  have hperm : ((l :: done) ++ (g.onward l ++ pending)).Perm
      (g.onward l ++ (done ++ l :: pending)) :=
    (List.perm_append_comm_assoc _ _ _).trans (List.perm_middle.symm.append_left _)
  have hmem : ∀ l', l' ∈ (l :: done) ++ (g.onward l ++ pending) ↔
      l' ∈ g.onward l ∨ l' ∈ done ++ l :: pending := by
    intro l'
    rw [hperm.mem_iff, List.mem_append]
  have hl : l ∈ done ++ l :: pending := List.mem_append_right _ List.mem_cons_self
  have hroot : seen root := (h.seen_iff root).2 (Or.inl rfl)
  have hdone : ∀ l' ∈ done, g.target l' ≠ noEntry → g.target l' ≠ g.target l := by
    intro l' hl' hne heq
    refine (htarget (heq ▸ hne)).2 ((h.seen_iff _).2 (Or.inr ⟨l', hl', hne, heq⟩))
  exact {
    nodup := by
      rw [hperm.nodup_iff, List.nodup_append]
      refine ⟨g.nodup_onward l, h.nodup, fun l₁ hl₁ l₂ hl₂ heq => ?_⟩
      obtain ⟨hne, howner, -⟩ := mem_onward_iff.1 hl₁
      exact (htarget hne).2 (howner ▸ heq ▸ h.owner_seen l₂ hl₂)
    followed := by
      intro l' hl'
      rcases (hmem l').1 hl' with hl' | hl'
      · exact (h.followed l hl).onward hl'
      · exact h.followed l' hl'
    owner_seen := by
      intro l' hl'
      rcases (hmem l').1 hl' with hl' | hl'
      · obtain ⟨hne, howner, -⟩ := mem_onward_iff.1 hl'
        exact (hseen' _).2 (Or.inr ⟨hne, howner.symm⟩)
      · exact (hseen' _).2 (Or.inl (h.owner_seen l' hl'))
    seen_iff := by
      intro n
      rw [hseen', h.seen_iff]
      simp only [List.mem_cons, exists_eq_or_imp]
      exact or_assoc.trans (or_congr_right or_comm)
    usable := by
      intro l' hl' hne
      rcases List.mem_cons.1 hl' with rfl | hl'
      · exact ⟨(htarget hne).1, fun heq => (htarget hne).2 (heq ▸ hroot)⟩
      · exact h.usable l' hl' hne
    injective := by
      intro l₁ hl₁ l₂ hl₂ hne heq
      rcases List.mem_cons.1 hl₁ with rfl | hmem₁
      · rcases List.mem_cons.1 hl₂ with rfl | hmem₂
        · rfl
        · exact absurd heq.symm (hdone l₂ hmem₂ (heq ▸ hne))
      · rcases List.mem_cons.1 hl₂ with rfl | hmem₂
        · exact absurd heq (hdone l₁ hmem₁ hne)
        · exact h.injective l₁ hmem₁ l₂ hmem₂ hne heq
    root_mem := (hmem _).2 (Or.inr h.root_mem)
    closed := by
      intro l₁ hl₁ l₂ hl₂
      rcases List.mem_cons.1 hl₁ with rfl | hl₁
      · exact (hmem l₂).2 (Or.inl hl₂)
      · exact (hmem l₂).2 (Or.inr (h.closed l₁ hl₁ l₂ hl₂)) }

/-- A link that leads nowhere is done at once. -/
theorem skip {l : Link} (h : g.Progress root done (l :: pending) seen)
    (hnone : g.target l = noEntry) : g.Progress root (l :: done) pending seen := by
  have honward : g.onward l = [] := if_pos hnone
  have hseen : ∀ n, seen n ↔ seen n ∨ g.target l ≠ noEntry ∧ g.target l = n := by
    intro n
    simp [hnone]
  have hnext := h.advance hseen fun hne => absurd hnone hne
  rwa [honward, List.nil_append] at hnext

/-- When no link is pending, all links that are followed are done. -/
theorem sound (h : g.Progress root done [] seen) : g.Sound root := by
  have hdone : ∀ l, g.Followed root l → l ∈ done := by
    have hmem : ∀ l, l ∈ done ++ [] → l ∈ done := fun l hl => by rwa [List.append_nil] at hl
    intro l hl
    induction hl with
    | root => exact hmem _ h.root_mem
    | left hl hne ih => exact hmem _ (h.closed _ ih _ (mem_onward_iff.2 ⟨hne, rfl, by simp⟩))
    | right hl hne ih => exact hmem _ (h.closed _ ih _ (mem_onward_iff.2 ⟨hne, rfl, by simp⟩))
    | child hl hne htype ih =>
      exact hmem _ (h.closed _ ih _ (mem_onward_iff.2 ⟨hne, rfl, fun _ => htype⟩))
  refine ⟨⟨?_, ?_⟩, ?_⟩
  · intro l hl hne
    exact (h.usable l (hdone l hl) hne).1
  · intro l l' hl hl'
    exact h.injective l (hdone l hl) l' (hdone l' hl')
  · intro l hl hne
    exact (h.usable l (hdone l hl) hne).2

/-- A pending link that leads to an entry that was reached already. -/
theorem not_sound {l : Link} (h : g.Progress root done (l :: pending) seen)
    (hne : g.target l ≠ noEntry) (hseen : seen (g.target l)) : ¬g.Sound root := by
  intro hsound
  have hl : l ∈ done ++ l :: pending := List.mem_append_right _ List.mem_cons_self
  rcases (h.seen_iff _).1 hseen with hroot | ⟨l', hl', -, heq⟩
  · exact hsound.sparesRoot l (h.followed l hl) hne hroot
  · have hfollowed := h.followed l' (List.mem_append_left _ hl')
    obtain rfl := hsound.injective l l' (h.followed l hl) hfollowed hne heq.symm
    exact (List.nodup_append.1 h.nodup).2.2 l hl' l List.mem_cons_self rfl

end Progress

/-- The links of a list of entries. -/
def ofEntries (es : Array Entry) : Links where
  target l :=
    match es[l.1.toNat]? with
    | none => noEntry
    | some e =>
      match l.2 with
      | .left => e.left
      | .right => e.right
      | .child => e.child
  type? n := (es[n.toNat]?).map (·.type)

end Links

open Links

variable {es : Array Entry}

theorem contains_mark_iff {size : Nat} {m : Marks size} {n k : UInt32} (hn : n.toNat < size) :
    (m.mark n.toNat).contains k.toNat = true ↔ m.contains k.toNat = true ∨ n = k := by
  rw [Marks.contains_mark]
  simp [hn, UInt32.toNat_inj]

theorem usable_iff {n : UInt32} :
    (ofEntries es).Usable n ↔
      n ≤ maxEntry ∧ ∃ e, es[n.toNat]? = some e ∧ (e.type = .storage ∨ e.type = .stream) := by
  show n ≤ maxEntry ∧ ((es[n.toNat]?).map (·.type) = some .storage ∨
    (es[n.toNat]?).map (·.type) = some .stream) ↔ _
  cases es[n.toNat]? <;> simp

/-- A link that can be followed leads to a usable entry. -/
theorem linked_eq_ok_iff {parent n : UInt32} {e : Entry} :
    linked es parent n = .ok e ↔ (ofEntries es).Usable n ∧ es[n.toNat]? = some e := by
  rw [usable_iff, ← UInt32.not_lt]
  unfold linked
  by_cases hmax : maxEntry < n
  · simp [hmax]
  · rw [if_neg hmax]
    cases es[n.toNat]? with
    | none => simp
    | some e' =>
      simp only [hmax, not_false_eq_true, true_and, Option.some.injEq, exists_eq_left']
      constructor
      · intro h
        split at h
        next htype => cases h; exact ⟨Or.inl htype, rfl⟩
        next htype => cases h; exact ⟨Or.inr htype, rfl⟩
        next => cases h
        next => cases h
      · rintro ⟨htype | htype, rfl⟩ <;> rw [htype]

theorem target_of_getElem? {n : UInt32} {e : Entry} (h : es[n.toNat]? = some e) :
    (ofEntries es).target (n, .left) = e.left ∧ (ofEntries es).target (n, .right) = e.right := by
  simp [ofEntries, h]

theorem target_child (n : UInt32) : (ofEntries es).target (n, .child) = childLink es n := by
  unfold ofEntries childLink
  cases h : es[n.toNat]? <;> simp [h]

/-- Among usable entries the containers are the storages. -/
theorem isContainer_iff {n : UInt32} (h : (ofEntries es).Usable n) :
    isContainer es n = true ↔ (ofEntries es).type? n = some .storage := by
  obtain ⟨-, e, he, htype | htype⟩ := usable_iff.1 h <;>
    simp [isContainer, ofEntries, he, htype, EntryType.isContainer]

/-! ## The program -/

/-- The child links of the containers among some entries. -/
def childLinks (es : Array Entry) (ns : List UInt32) : List Link :=
  (ns.filter (isContainer es)).map fun n => (n, .child)

theorem childLinks_append (xs ys : List UInt32) :
    childLinks es (xs ++ ys) = childLinks es xs ++ childLinks es ys := by
  simp [childLinks]

theorem onward_of_usable {l : Link} {n : UInt32} (hl : (ofEntries es).target l = n)
    (hne : n ≠ noEntry) (h : (ofEntries es).Usable n) :
    (ofEntries es).onward l = (n, .left) :: (n, .right) :: childLinks es [n] := by
  unfold onward childLinks
  rw [hl, if_neg hne]
  by_cases hcontainer : isContainer es n = true
  · rw [if_pos ((isContainer_iff h).1 hcontainer), List.filter_cons_of_pos hcontainer]
    rfl
  · rw [if_neg fun htype => hcontainer ((isContainer_iff h).2 htype),
      List.filter_cons_of_neg hcontainer]
    rfl

/-- The links that wait while siblings are listed: the right links of the stack, and the child links
of the stack and of the siblings found so far. -/
def waitingLinks (es : Array Entry) (stack : List (UInt32 × UInt32)) (found : List UInt32) :
    List Link :=
  (stack.map fun entry => (entry.1, .right)) ++
    (childLinks es (stack.map (·.1)) ++ childLinks es found)

/-- An entry is pushed on the stack. -/
theorem perm_waitingLinks_push (es : Array Entry) (n right : UInt32) (stack : List (UInt32 × UInt32))
    (found : List UInt32) :
    ((n, .right) :: childLinks es [n] ++ waitingLinks es stack found).Perm
      (waitingLinks es ((n, right) :: stack) found) := by
  have hsplit : childLinks es (n :: stack.map (·.1)) =
      childLinks es [n] ++ childLinks es (stack.map (·.1)) := childLinks_append [n] _
  simp only [waitingLinks, List.map_cons, hsplit, List.append_assoc, List.cons_append]
  exact (List.perm_append_comm_assoc _ _ _).cons _

/-- An entry is popped from the stack and is found. -/
theorem perm_waitingLinks_pop (es : Array Entry) (n right : UInt32) (stack : List (UInt32 × UInt32))
    (found : List UInt32) :
    (waitingLinks es ((n, right) :: stack) found).Perm
      ((n, .right) :: waitingLinks es stack (found ++ [n])) := by
  have hsplit : childLinks es (n :: stack.map (·.1)) =
      childLinks es [n] ++ childLinks es (stack.map (·.1)) := childLinks_append [n] _
  simp only [waitingLinks, List.map_cons, hsplit, childLinks_append, List.cons_append]
  refine ((List.Perm.append_left _ ?_).cons _)
  rw [List.append_assoc, ← List.append_assoc (childLinks es (stack.map (·.1)))]
  exact List.perm_append_comm

/-- **Listing siblings** does the pending links but the child links of the siblings, or meets a link
that cannot be accepted. -/
theorem progress_of_siblings {root parent node : UInt32} {stack : List (UInt32 × UInt32)}
    {found : Array UInt32} {seen : Marks es.size} {current : Link} {done others : List Link}
    (hcurrent : (ofEntries es).target current = node)
    (hstack : ∀ entry ∈ stack, (ofEntries es).target (entry.1, .right) = entry.2)
    (h : (ofEntries es).Progress root done
      (current :: (waitingLinks es stack found.toList ++ others)) fun n => seen.contains n.toNat) :
    match siblings es parent node stack found seen with
    | .ok (l, seen') => ∃ done', (ofEntries es).Progress root done' (childLinks es l ++ others)
        fun n => seen'.contains n.toNat
    | .error _ => ¬(ofEntries es).Sound root := by
  fun_induction siblings es parent node stack found seen generalizing current done with
  | case1 found seen => exact ⟨current :: done, h.skip hcurrent⟩
  | case2 found seen sid right stack ih =>
    have hnext := (h.skip hcurrent).perm
      ((perm_waitingLinks_pop es sid right stack found.toList).append_right others)
    rw [← Array.toList_push] at hnext
    exact ih (hstack (sid, right) List.mem_cons_self)
      (fun entry hentry => hstack entry (List.mem_cons_of_mem _ hentry)) hnext
  | case3 node stack found seen hne fault hlink =>
    intro hsound
    have hfollowed := h.followed current (List.mem_append_right _ List.mem_cons_self)
    have husable := hsound.usable current hfollowed (by rwa [hcurrent])
    rw [hcurrent] at husable
    obtain ⟨-, e, he, -⟩ := usable_iff.1 husable
    rw [linked_eq_ok_iff.2 ⟨husable, he⟩] at hlink
    cases hlink
  | case4 node stack found seen hne e hlink hseen =>
    exact h.not_sound (by rwa [hcurrent]) (by rwa [hcurrent])
  | case5 node stack found seen hne e hlink hseen ih =>
    obtain ⟨husable, he⟩ := linked_eq_ok_iff.1 hlink
    obtain ⟨hleft, hright⟩ := target_of_getElem? he
    have hmark : ∀ n : UInt32, (seen.mark node.toNat).contains n.toNat ↔
        seen.contains n.toNat ∨ (ofEntries es).target current ≠ noEntry ∧
          (ofEntries es).target current = n := by
      intro n
      rw [hcurrent, contains_mark_iff (lt_size_of_linked hlink)]
      simp [hne]
    have hnext := h.advance hmark fun _ => by
      rw [hcurrent]
      exact ⟨husable, hseen⟩
    rw [onward_of_usable hcurrent hne husable] at hnext
    have hpush := (perm_waitingLinks_push es node e.right stack found.toList).append_right others
    rw [List.append_assoc] at hpush
    refine ih hleft (fun entry hentry => ?_) (hnext.perm (hpush.cons _))
    rcases List.mem_cons.1 hentry with rfl | hentry
    · exact hright
    · exact hstack entry hentry

/-- The same for all children of an entry. -/
theorem progress_of_children {root parent : UInt32} {seen : Marks es.size}
    {done others : List Link}
    (h : (ofEntries es).Progress root done ((parent, .child) :: others) fun n =>
      seen.contains n.toNat) :
    match siblings es parent (childLink es parent) [] #[] seen with
    | .ok (l, seen') => ∃ done', (ofEntries es).Progress root done' (childLinks es l ++ others)
        fun n => seen'.contains n.toNat
    | .error _ => ¬(ofEntries es).Sound root :=
  progress_of_siblings (target_child parent) (fun _ hentry => by cases hentry) h

/-- **Linking** goes through sound links only. -/
theorem sound_of_link {root : UInt32} {waiting : List UInt32} {families : Array Family}
    {seen : Marks es.size} {done : List Link}
    (h : (ofEntries es).Progress root done (waiting.map fun n => (n, .child))
      fun n => seen.contains n.toNat) :
    match link es waiting families seen with
    | .ok _ => (ofEntries es).Sound root
    | .error _ => ¬(ofEntries es).Sound root := by
  fun_induction link es waiting families seen generalizing done with
  | case1 families seen => exact h.sound
  | case2 families seen parent waiting fault hsiblings =>
    have hlisted := progress_of_children h
    rwa [hsiblings] at hlisted
  | case3 families seen parent waiting children seen' hsiblings ih =>
    have hlisted := progress_of_children h
    rw [hsiblings] at hlisted
    obtain ⟨done', hprogress⟩ := hlisted
    refine ih (hprogress.perm ?_)
    rw [List.map_append]
    exact ((List.reverse_perm _).symm.map _).append_right _

/-- **A directory is linked exactly when its links are sound.** -/
theorem link_ok_iff {root : UInt32} (hroot : root.toNat < es.size) :
    (∃ r, link es [root] #[] ((Marks.clear es.size).mark root.toNat) = .ok r) ↔
      (ofEntries es).Sound root := by
  have hseen : (fun n : UInt32 =>
      ((Marks.clear es.size).mark root.toNat).contains n.toNat = true) = (· = root) := by
    funext n
    rw [contains_mark_iff hroot, Marks.contains_clear]
    simp [eq_comm]
  have hstart := Progress.start (ofEntries es) root
  rw [← hseen] at hstart
  have hlink : match link es [root] #[] ((Marks.clear es.size).mark root.toNat) with
      | .ok _ => (ofEntries es).Sound root
      | .error _ => ¬(ofEntries es).Sound root := sound_of_link hstart
  cases h : link es [root] #[] ((Marks.clear es.size).mark root.toNat) with
  | error fault =>
    rw [h] at hlink
    refine ⟨?_, fun hsound => absurd hsound hlink⟩
    rintro ⟨r, hr⟩
    cases hr
  | ok r =>
    rw [h] at hlink
    exact ⟨fun _ => hlink, fun _ => ⟨r, rfl⟩⟩

end CompoundFile.Directory
