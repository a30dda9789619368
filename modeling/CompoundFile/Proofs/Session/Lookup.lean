import CompoundFile.Proofs.Directory.Order
import CompoundFile.Proofs.Session.History

/-!
# Looking up items by path

A look-up by path goes down by one name after the other. So a path of two parts leads where the
second part leads from the item of the first (`Tree.descend_append`), wherever the slashes are, and
either both ways end at one item or both fail.

**Spelling.** A child is found by its uppercase form only. Names that match have the same uppercase
form, so the same child is the first that they match, also where several children do
(`Tree.findChild_congr`). Paths whose names match one by one lead to the same item.

Main result: `Client.item_by_parts`.
-/

namespace CompoundFile

namespace Directory

/-! ## Names -/

theorem namesMatch_iff {a b : String} : namesMatch a b = true ↔ folded a = folded b := by
  unfold namesMatch
  exact beq_iff_eq

/-- The names of a path are its pieces between slashes that are not empty. -/
theorem segments_eq (path : String) :
    segments path = ((path.toList.splitOn '/').filter (· ≠ [])).map String.ofList := by
  unfold segments
  rw [pieces_eq_splitOn]

namespace Tree

variable {t : Tree} {p : UInt32}

/-! ## Entries -/

/-- **Names that match find the same child.** -/
theorem findChild_congr {a b : String} (h : namesMatch a b = true) :
    t.findChild p a = t.findChild p b := by
  have hfolded := namesMatch_iff.1 h
  unfold findChild namesMatch
  rw [hfolded]

/-- **A look-up by the names of two parts** goes on with the second part where the first one led. -/
theorem descend_append (names rest : List String) :
    t.descend p (names ++ rest) = (t.descend p names).bind fun c => t.descend c rest := by
  unfold descend
  rw [List.foldlM_append]
  rfl

theorem descend_congr {names names' : List String}
    (h : List.Forall₂ (fun a b => namesMatch a b = true) names names') :
    t.descend p names = t.descend p names' := by
  induction h generalizing p with
  | nil => rfl
  | cons hmatch _ ih =>
    rw [descend_cons, descend_cons, findChild_congr hmatch]
    exact congrArg _ (funext fun c => ih)

theorem isReachable_of_descend (hshaped : t.Shaped) (hp : t.isReachable p = true)
    {names : List String} {c : UInt32} (h : t.descend p names = some c) :
    t.isReachable c = true := by
  obtain ⟨way, hway⟩ := exists_route_of_descend h
  exact hway.isReachable hshaped hp

end Tree

end Directory

/-! ## Items -/

namespace Item

open Directory (segments)

variable {t : Directory.Tree} {name : String} {sid? : Option UInt32}

/-- What was looked for makes a difference only to the error. -/
theorem found_congr {name' : String} :
    (∃ i, found t name sid? = .ok i ∧ found t name' sid? = .ok i) ∨
      found t name sid? = .error (.itemNotFound name) ∧
        found t name' sid? = .error (.itemNotFound name') := by
  unfold found
  cases sid?.bind (ofSid? t) with
  | some i => exact Or.inl ⟨i, rfl, rfl⟩
  | none => exact Or.inr ⟨rfl, rfl⟩

/-- **An item is found in two steps** when it is found in one. -/
theorem found_descend_append_iff (hshaped : t.Shaped) (hnumbered : t.Numbered) {n : UInt32}
    (hn : t.isReachable n = true) {whole : String} (names : List String) (rest : String)
    {j : Item} :
    found t whole (t.descend n (names ++ segments rest)) = .ok j ↔
      ∃ i, found t name (t.descend n names) = .ok i ∧ i.subItemByPath rest = .ok j := by
  unfold subItemByPath
  simp only [found_eq_ok_iff, Directory.Tree.descend_append, Option.bind_eq_some_iff]
  constructor
  · intro ⟨k, ⟨m, hm, hk⟩, hj⟩
    obtain ⟨i, hi⟩ := Directory.Tree.exists_ofSid?
      (Directory.Tree.isReachable_of_descend hshaped hn hm)
    obtain ⟨htree, -⟩ := Directory.Tree.ofSid?_eq_some_iff.1 hi
    refine ⟨i, ⟨m, hm, hi⟩, k, ?_, ?_⟩
    · rwa [htree, hnumbered.sid_eq hi]
    · rwa [htree]
  · intro ⟨i, ⟨m, hm, hi⟩, k, hk, hj⟩
    obtain ⟨htree, -⟩ := Directory.Tree.ofSid?_eq_some_iff.1 hi
    rw [htree, hnumbered.sid_eq hi] at hk
    rw [htree] at hj
    exact ⟨k, ⟨m, hm, hk⟩, hj⟩

end Item

/-! ## Open files -/

theorem Session.itemByPath_eq {s : Session} {f : OpenFile} (hopen : s.file? = some f)
    (path : String) : s.itemByPath path = f.contents.itemByPath path := by
  unfold itemByPath
  rw [contents_eq hopen]
  rfl

/-- **Look-up by parts, however they are spelled.** A client has a file open, after any steps. The
names of a path are its pieces between slashes, without the empty ones. A path of two parts leads to
an item if and only if the first part leads to an item below which the second part leads to this
one. Two paths that have equally many names, which match one by one, lead to the same item, or both
fail and each is named in its error as it was given. -/
theorem Client.item_by_parts {options : OpenOptions} {steps : List Client.Step} {c : Client}
    {f : OpenFile} (hrun : ((Client.new options).runAll steps).2 = c)
    (hopen : c.session.file? = some f) :
    (∀ path, Directory.segments path =
      ((path.toList.splitOn '/').filter (· ≠ [])).map String.ofList) ∧
    (∀ path rest j, c.session.itemByPath (path ++ "/" ++ rest) = .ok j ↔
      ∃ i, c.session.itemByPath path = .ok i ∧ i.subItemByPath rest = .ok j) ∧
    ∀ path path', List.Forall₂ (fun a b => Directory.namesMatch a b = true)
        (Directory.segments path) (Directory.segments path') →
      (∃ i, c.session.itemByPath path = .ok i ∧ c.session.itemByPath path' = .ok i) ∨
        c.session.itemByPath path = .error (.itemNotFound path) ∧
          c.session.itemByPath path' = .error (.itemNotFound path') := by
  obtain ⟨hshaped, hnumbered⟩ := Directory.shaped_of_loadedFrom (loadedFrom_of_runAll hrun hopen)
  have hitem : ∀ path, c.session.itemByPath path = Item.found f.contents.tree path
      (f.contents.tree.descend f.contents.tree.root (Directory.segments path)) :=
    Session.itemByPath_eq hopen
  refine ⟨Directory.segments_eq, ?_, ?_⟩
  · intro path rest j
    rw [hitem, hitem, Directory.segments_append]
    exact Item.found_descend_append_iff hshaped hnumbered hshaped.isReachable_root _ rest
  · intro path path' hmatch
    rw [hitem, hitem, Directory.Tree.descend_congr hmatch]
    exact Item.found_congr

/-- The stream `S` of the sample is at `s`, with any slashes, and it is where `//s` leads from the
root. -/
theorem Client.item_by_parts_sample :
    ∃ c f i root,
      ((Client.new ⟨false, .ascii⟩).runAll [.command (.openSource Sample.source)]).2 = c ∧
      c.session.file? = some f ∧ c.session.itemByPath "S" = .ok i ∧
      c.session.itemByPath "//s/" = .ok i ∧ c.session.itemByPath "" = .ok root ∧
      root.subItemByPath "/s/" = .ok i := by
  obtain ⟨source', hrun⟩ := Sample.exists_runAll (s := Sample.source) rfl
  obtain ⟨-, hparts, hspelled⟩ := Client.item_by_parts hrun rfl
  have hitem : Session.itemByPath ⟨⟨false, .ascii⟩, some ⟨Sample.contents, source'⟩⟩ "S" =
      .ok ⟨Sample.contents.tree, Sample.short⟩ := by
    have hfound : Sample.contents.tree.findChild 0 "S" = some 1 := by
      apply List.find?_cons_of_pos
      exact Directory.namesMatch_self "S"
    rw [Session.itemByPath_eq rfl]
    show Item.found _ "S" (Directory.Tree.descend _ 0 (Directory.segments "S")) = _
    rw [show Directory.segments "S" = ["S"] by decide, Directory.Tree.descend_cons, hfound]
    rfl
  have hmatch : Directory.namesMatch "S" "s" = true := by
    rw [Directory.namesMatch_iff, Directory.folded, Directory.folded,
      show "S".toList = ['S'] by simp, show "s".toList = ['s'] by simp]
    decide
  have hnames : List.Forall₂ (fun a b => Directory.namesMatch a b = true)
      (Directory.segments "S") (Directory.segments "//s/") := by
    rw [show Directory.segments "S" = ["S"] by decide,
      show Directory.segments "//s/" = ["s"] by decide]
    exact .cons hmatch .nil
  have hspell : Session.itemByPath ⟨⟨false, .ascii⟩, some ⟨Sample.contents, source'⟩⟩ "//s/" =
      .ok ⟨Sample.contents.tree, Sample.short⟩ := by
    rcases hspelled "S" "//s/" hnames with ⟨i, hi, hi'⟩ | ⟨hi, -⟩
    · rwa [← hi.symm.trans hitem]
    · cases hi.symm.trans hitem
  obtain ⟨root, hroot, hbelow⟩ := (hparts "" "/s/" _).1 hspell
  exact ⟨_, _, _, root, hrun, rfl, hitem, hspell, hroot, hbelow⟩

end CompoundFile
