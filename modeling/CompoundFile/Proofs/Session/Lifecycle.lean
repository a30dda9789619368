import CompoundFile.Proofs.Identity

/-!
# The life of a session

A session is opened and closed any number of times, and in between it is read from and asked. What
came of every command is its history (`Session.history`). An event of the history opens a source if
it offered one and succeeded, and it closes the file if it was a close that succeeded.

**The last opening** (`LastOpened`). A source was opened last if an event opened it, and no event
after that opened a source or closed the file. By what one command can do (`Turn`), a session has
the source open that was opened last (`identity?_eq_iff`): the induction is on the history from its
end, since a new event comes behind the others.

**Failures.** No failure changes whether a file is open, or which, and a closed session that fails
to open a file is as good as new. Opening fails only for damage, if all bytes can be read.

Main result: `lifecycle`.
-/

namespace CompoundFile

namespace Session

/-! ## Histories -/

/-- The source that a command opens if it succeeds. -/
def Command.source? : Command → Option Source
  | .openSource source => some source
  | .openWithFlags source _ => some source
  | .openPath path lookup => (lookup path).toOption
  | _ => none

/-- A command and what came of it. -/
structure Event where
  command : Command
  outcome : Except Error Reply

/-- The event opened a source. -/
def Event.Opens (e : Event) (source : Source) : Prop :=
  e.command.source? = some source ∧ e.outcome.isOk = true

/-- The event closed the file. -/
def Event.Closes (e : Event) : Prop := e.command = .close ∧ e.outcome.isOk = true

/-- The events when commands are carried out one after the other. -/
def history (s : Session) : List Command → List Event
  | [] => []
  | c :: rest => ⟨c, (s.run c).1⟩ :: (s.run c).2.history rest

/-- The source was opened by an event, and after it no source was opened and no file closed. -/
def LastOpened (events : List Event) (source : Source) : Prop :=
  ∃ before e after, events = before ++ e :: after ∧ e.Opens source ∧
    ∀ e' ∈ after, ¬e'.Closes ∧ ∀ source', ¬e'.Opens source'

theorem runAll_concat (s : Session) (commands : List Command) (c : Command) :
    s.runAll (commands ++ [c]) = ((s.runAll commands).run c).2 := by
  unfold runAll
  rw [List.foldl_append]
  rfl

theorem history_concat (s : Session) (commands : List Command) (c : Command) :
    s.history (commands ++ [c]) =
      s.history commands ++ [⟨c, ((s.runAll commands).run c).1⟩] := by
  induction commands generalizing s with
  | nil => rfl
  | cons first rest ih => exact congrArg _ (ih (s.run first).2)

theorem not_lastOpened_nil (source : Source) : ¬LastOpened [] source := by
  rintro ⟨before, e, after, h, -⟩
  exact List.append_ne_nil_of_right_ne_nil before (List.cons_ne_nil e after) h.symm

/-- A source was opened last if the last event opened it, or if it was so before and the last event
left it. -/
theorem lastOpened_concat_iff {events : List Event} {e : Event} {source : Source} :
    LastOpened (events ++ [e]) source ↔
      e.Opens source ∨
        LastOpened events source ∧ ¬e.Closes ∧ ∀ source', ¬e.Opens source' := by
  constructor
  · rintro ⟨before, e', after, h, hopens, hafter⟩
    rcases List.eq_nil_or_concat after with rfl | ⟨rest, last, rfl⟩
    · obtain ⟨-, hlast⟩ := List.append_inj' h rfl
      obtain rfl := List.head_eq_of_cons_eq hlast
      exact Or.inl hopens
    · rw [List.concat_eq_append, ← List.cons_append, ← List.append_assoc] at h
      obtain ⟨rfl, hlast⟩ := List.append_inj' h rfl
      obtain rfl := List.head_eq_of_cons_eq hlast
      rw [List.concat_eq_append, List.forall_mem_append, List.forall_mem_singleton] at hafter
      exact Or.inr ⟨⟨before, e', rest, rfl, hopens, hafter.1⟩, hafter.2⟩
  · rintro (hopens | ⟨⟨before, e', after, rfl, hopens, hafter⟩, hlast⟩)
    · exact ⟨events, e, [], rfl, hopens, List.forall_mem_nil _⟩
    · refine ⟨before, e', after ++ [e], by simp, hopens, ?_⟩
      rw [List.forall_mem_append, List.forall_mem_singleton]
      exact ⟨hafter, hlast⟩

/-! ## What one command does -/

/-- A command opens a source, closes the file, or leaves open what is open. -/
inductive Turn (s : Session) (c : Command) : Except Error Reply × Session → Prop where
  | opened {source : Source} {after : Session} (hsource : c.source? = some source)
      (h : after.identity? = some source.identity) : Turn s c (.ok .done, after)
  | closed {source : Source} {after : Session} (hclose : c = .close) (h : after.identity? = none) :
      Turn s c (.ok (.source source), after)
  | stayed {outcome : Except Error Reply} {after : Session}
      (hopens : ∀ source, ¬Event.Opens ⟨c, outcome⟩ source) (hcloses : ¬Event.Closes ⟨c, outcome⟩)
      (h : after.identity? = s.identity?) : Turn s c (outcome, after)

section Turns

variable {s : Session} {c : Command}

theorem Turn.failed (s : Session) (c : Command) (e : Error) : s.Turn c (.error e, s) :=
  .stayed (fun _ h => by cases h.2) (fun h => by cases h.2) rfl

/-- A command that offers no source and is no close leaves what is open. -/
theorem Turn.of_identity? {x : Except Error Reply × Session} (hsource : c.source? = none)
    (hclose : c ≠ .close) (h : x.2.identity? = s.identity?) : s.Turn c x := by
  refine .stayed (fun source hopens => ?_) (fun hcloses => hclose hcloses.1) h
  rw [Event.Opens, hsource] at hopens
  cases hopens.1

theorem load_turn {source : Source} (hsource : c.source? = some source) :
    s.Turn c (replying (fun _ => .done) (s.load source)) := by
  have hload := (tame_load (s := source) s.options).identity
  unfold load
  split
  next contents source' hrun =>
    rw [hrun] at hload
    exact .opened hsource (congrArg some hload)
  next e source' hrun => exact .failed s c e

theorem openSource_turn {source : Source} (hsource : c.source? = some source) :
    s.Turn c (replying (fun _ => .done) (s.openSource source)) := by
  unfold openSource
  split
  · exact .failed s c _
  · exact load_turn hsource

theorem openWithFlags_turn {source : Source} (flags : AccessFlags)
    (hsource : c.source? = some source) :
    s.Turn c (replying (fun _ => .done) (s.openWithFlags source flags)) := by
  unfold openWithFlags
  split
  · exact .failed s c _
  · exact openSource_turn hsource

theorem openPath_turn (path : String) (lookup : String → Except IoFault Source) :
    s.Turn (.openPath path lookup) (replying (fun _ => .done) (s.openPath path lookup)) := by
  unfold openPath
  split_ifs
  · exact .failed s _ _
  · exact .failed s _ _
  · cases hfound : lookup path with
    | error fault => exact .failed s _ _
    | ok source => exact load_turn (by rw [Command.source?, hfound]; rfl)

/-- **A command takes one turn.** -/
theorem run_turn (s : Session) (c : Command) : s.Turn c (s.run c) := by
  cases c with
  | openSource source => exact openSource_turn rfl
  | openWithFlags source flags => exact openWithFlags_turn flags rfl
  | openPath path lookup => exact openPath_turn path lookup
  | close =>
    obtain ⟨options, _ | f⟩ := s
    · exact .failed _ _ _
    · exact .closed rfl rfl
  | setCodepage name =>
    refine .of_identity? rfl (by rintro ⟨⟩) ?_
    show (s.setCodepage name).2.identity? = s.identity?
    unfold setCodepage
    split <;> rfl
  | ask question => exact .of_identity? rfl (by rintro ⟨⟩) rfl
  | stream l script =>
    have hwork : (s.withStream l fun r => (.ok (StreamCommand.runAll script r).1,
        (StreamCommand.runAll script r).2)).2.identity? = s.identity? :=
      s.identity?_withStream l (StreamReader.identity_runAll script)
    exact .of_identity? rfl (by rintro ⟨⟩) hwork
  | readStream l => exact .of_identity? rfl (by rintro ⟨⟩) (s.identity?_readStream l)
  | propertySet path => exact .of_identity? rfl (by rintro ⟨⟩) (s.identity?_propertySet path)
  | snapshot => exact .of_identity? rfl (by rintro ⟨⟩) s.identity?_snapshot

end Turns

/-! ## Runs -/

/-- **What is open is what was opened last.** -/
theorem identity?_eq_iff (options : OpenOptions) (commands : List Command) (id : Medium × Pace) :
    ((Session.new options).runAll commands).identity? = some id ↔
      ∃ source, LastOpened ((Session.new options).history commands) source ∧
        source.identity = id := by
  induction commands using List.reverseRecOn with
  | nil =>
    constructor
    · intro h
      cases h
    · rintro ⟨source, hlast, -⟩
      exact absurd hlast (not_lastOpened_nil source)
  | append_singleton commands c ih =>
    have hturn := ((Session.new options).runAll commands).run_turn c
    rw [runAll_concat, history_concat]
    simp only [lastOpened_concat_iff]
    generalize ((Session.new options).runAll commands).run c = x at hturn
    cases hturn with
    | @opened source after hsource h =>
      rw [h, Option.some.injEq]
      constructor
      · rintro rfl
        exact ⟨source, Or.inl ⟨hsource, rfl⟩, rfl⟩
      · rintro ⟨source', ⟨hsource', -⟩ | ⟨-, -, hnone⟩, rfl⟩
        · rw [Option.some.inj (hsource.symm.trans hsource')]
        · exact absurd ⟨hsource, rfl⟩ (hnone source)
    | closed hclose h =>
      subst hclose
      rw [h]
      constructor
      · intro hid
        cases hid
      · rintro ⟨source', ⟨hsource', -⟩ | ⟨-, hstill, -⟩, -⟩
        · cases hsource'
        · exact absurd ⟨rfl, rfl⟩ hstill
    | stayed hopens hcloses h =>
      rw [h, ih]
      constructor
      · rintro ⟨source, hlast, rfl⟩
        exact ⟨source, Or.inr ⟨hlast, hcloses, hopens⟩, rfl⟩
      · rintro ⟨source, hopened | ⟨hlast, -⟩, rfl⟩
        · exact absurd hopened (hopens source)
        · exact ⟨source, hlast, rfl⟩

/-! ## Failures -/

/-- What can be asked of an open file only. -/
def Question.NeedsFile : Question → Prop
  | .isOpen | .options | .text => False
  | _ => True

/-- The command can be carried out with an open file only. -/
def Command.NeedsFile : Command → Prop
  | .close | .stream .. | .readStream _ | .propertySet _ | .snapshot => True
  | .ask question => question.NeedsFile
  | _ => False

theorem eq_new_of_not_isOpen {s : Session} (h : ¬s.isOpen = true) : s = .new s.options := by
  obtain ⟨options, _ | f⟩ := s
  · rfl
  · exact absurd rfl h

section Failures

variable {s : Session}

theorem justified_of_load {source : Source} {e : Error} (h : (s.load source).1 = .error e) :
    e.Justified source.medium := by
  have hload := (tame_load (s := source) s.options).justified
  unfold load at h
  split at h
  next => cases h
  next e' source' hrun =>
    cases h
    exact hload e (by rw [hrun])

theorem openSource_ne_notOpen (source : Source) : (s.openSource source).1 ≠ .error .notOpen := by
  intro h
  unfold openSource at h
  split at h
  · cases h
  · exact (justified_of_load h).ne_notOpen rfl

theorem openWithFlags_ne_notOpen (source : Source) (flags : AccessFlags) :
    (s.openWithFlags source flags).1 ≠ .error .notOpen := by
  intro h
  unfold openWithFlags at h
  split at h
  · cases h
  · exact openSource_ne_notOpen source h

theorem openPath_ne_notOpen (path : String) (lookup : String → Except IoFault Source) :
    (s.openPath path lookup).1 ≠ .error .notOpen := by
  intro h
  unfold openPath at h
  split at h
  · cases h
  · split at h
    · cases h
    · split at h
      · cases h
      · exact (justified_of_load h).ne_notOpen rfl

theorem setCodepage_ne_notOpen (name : String) : (s.setCodepage name).1 ≠ .error .notOpen := by
  intro h
  unfold setCodepage at h
  split at h <;> cases h

theorem found_ne_notOpen (t : Directory.Tree) (name : String) (sid : Option UInt32) :
    Item.found t name sid ≠ .error .notOpen := by
  intro h
  unfold Item.found at h
  split at h <;> cases h

theorem chainOf_ne_notOpen (a : Allocation) (e : Directory.Entry) :
    a.chainOf e ≠ .error .notOpen := by
  intro h
  unfold Allocation.chainOf at h
  dsimp only at h
  split at h
  · obtain ⟨fault, -, hfault⟩ := mapError_eq_error_iff.1 h
    cases hfault
  · split at h
    · cases h
    · split at h
      · cases h
      · obtain ⟨fault, -, hfault⟩ := mapError_eq_error_iff.1 h
        cases hfault

theorem make_ne_notOpen (source : Source) (a : Allocation) (e : Directory.Entry) :
    StreamReader.make source a e ≠ .error .notOpen := by
  intro h
  unfold StreamReader.make at h
  split at h
  · cases h
  · rcases bind_eq_error_iff.1 h with h | ⟨units, -, h⟩
    · exact chainOf_ne_notOpen a e h
    · cases h

/-! An open session has what is needed. -/

variable {f : OpenFile} (hopen : s.file? = some f)
include hopen

theorem item_ne_notOpen (l : Locator) : s.item l ≠ .error .notOpen := by
  cases l with
  | path path =>
    show (do (← s.contents).itemByPath path) ≠ _
    rw [contents_eq hopen]
    exact found_ne_notOpen _ _ _
  | sid sid =>
    show (do (← s.contents).itemBySid sid) ≠ _
    rw [contents_eq hopen]
    exact found_ne_notOpen _ _ _

theorem answer_ne_notOpen (question : Question) : s.answer question ≠ .error .notOpen := by
  intro h
  cases question with
  | isOpen | options | text => cases h
  | fileSize | version | sectorSize | shortSectorSize | header | itemCount | warnings =>
    have := map_eq_error_iff.1 h
    rw [contents_eq hopen] at this
    cases this
  | root =>
    unfold answer at h
    rcases bind_eq_error_iff.1 h with h | ⟨c, -, h⟩
    · rw [contents_eq hopen] at h
      cases h
    · rcases bind_eq_error_iff.1 h with h | ⟨i, -, h⟩
      · exact found_ne_notOpen _ _ _ h
      · cases h
  | item l => exact item_ne_notOpen hopen l (map_eq_error_iff.1 h)

theorem reader_ne_notOpen (l : Locator) : s.reader l ≠ .error .notOpen := by
  intro h
  unfold reader at h
  rw [file_eq hopen] at h
  rcases bind_eq_error_iff.1 h with h | ⟨i, -, h⟩
  · exact item_ne_notOpen hopen l h
  · exact make_ne_notOpen _ _ _ h

theorem withStream_ne_notOpen {α : Type} (l : Locator)
    {work : StreamReader → Except Error α × StreamReader}
    (hwork : ∀ r, (work r).1 ≠ .error .notOpen) : (s.withStream l work).1 ≠ .error .notOpen := by
  unfold withStream
  cases hreader : s.reader l with
  | error e =>
    rintro ⟨⟩
    exact reader_ne_notOpen hopen l hreader
  | ok r => exact hwork r

theorem readStream_ne_notOpen (l : Locator) : (s.readStream l).1 ≠ .error .notOpen := by
  refine withStream_ne_notOpen hopen l fun r h => ?_
  unfold StreamReader.readToEnd at h
  split at h
  next => cases h
  next e r' hread =>
    have he := Error.justified_toError (StreamReader.justified_of_read hread)
    exact he.ne_notOpen (Except.error.inj h)

theorem propertySet_ne_notOpen (path : String) : (s.propertySet path).1 ≠ .error .notOpen := by
  have hread := readStream_ne_notOpen hopen (.path path)
  intro h
  unfold propertySet at h
  split at h
  next e s' hrun =>
    rw [hrun] at hread
    exact hread (congrArg _ (Except.error.inj h))
  next data s' hrun =>
    obtain ⟨fault, -, hfault⟩ := mapError_eq_error_iff.1 h
    cases hfault

theorem snapshot_ne_notOpen : s.snapshot.1 ≠ .error .notOpen := by
  unfold snapshot
  rw [contents_eq hopen]
  rintro ⟨⟩

end Failures

section Needs

variable {s : Session} {c : Command}

/-- Only a command that needs a file misses one. -/
theorem needsFile_of_run (h : (s.run c).1 = .error .notOpen) : c.NeedsFile := by
  cases c with
  | close | stream | readStream | propertySet | snapshot => trivial
  | openSource source => exact absurd (map_eq_error_iff.1 h) (openSource_ne_notOpen source)
  | openWithFlags source flags =>
    exact absurd (map_eq_error_iff.1 h) (openWithFlags_ne_notOpen source flags)
  | openPath path lookup =>
    exact absurd (map_eq_error_iff.1 h) (openPath_ne_notOpen path lookup)
  | setCodepage name => exact absurd (map_eq_error_iff.1 h) (setCodepage_ne_notOpen name)
  | ask question =>
    cases question with
    | isOpen | options | text => cases h
    | fileSize | version | sectorSize | shortSectorSize | header | itemCount | warnings | root
    | item => trivial

/-- An open session has the file that a command needs. -/
theorem run_ne_notOpen {f : OpenFile} (hopen : s.file? = some f) (hneeds : c.NeedsFile) :
    (s.run c).1 ≠ .error .notOpen := by
  intro h
  cases c with
  | openSource | openWithFlags | openPath | setCodepage => exact hneeds
  | close =>
    unfold run close at h
    rw [hopen] at h
    cases h
  | ask question => exact answer_ne_notOpen hopen question h
  | stream l script =>
    have hne : (s.withStream l fun r => (.ok (StreamCommand.runAll script r).1,
        (StreamCommand.runAll script r).2)).1 ≠ .error .notOpen :=
      withStream_ne_notOpen hopen l fun _ hr => by cases hr
    exact hne (map_eq_error_iff.1 h)
  | readStream l => exact readStream_ne_notOpen hopen l (map_eq_error_iff.1 h)
  | propertySet path => exact propertySet_ne_notOpen hopen path (map_eq_error_iff.1 h)
  | snapshot => exact snapshot_ne_notOpen hopen (map_eq_error_iff.1 h)

theorem new_run_of_needsFile {options : OpenOptions} (hneeds : c.NeedsFile) :
    ((Session.new options).run c).1 = .error .notOpen := by
  cases c with
  | openSource | openWithFlags | openPath | setCodepage => cases hneeds
  | close | propertySet | snapshot => rfl
  | stream l | readStream l => cases l <;> rfl
  | ask question =>
    cases question with
    | isOpen | options | text => cases hneeds
    | fileSize | version | sectorSize | shortSectorSize | header | itemCount | warnings | root =>
      rfl
    | item l => cases l <;> rfl

/-- **A command misses a file exactly when it needs one and there is none.** -/
theorem run_eq_notOpen_iff :
    (s.run c).1 = .error .notOpen ↔ c.NeedsFile ∧ ¬s.isOpen = true := by
  constructor
  · intro h
    have hneeds := needsFile_of_run h
    refine ⟨hneeds, fun hopen => ?_⟩
    obtain ⟨f, hf⟩ := Option.isSome_iff_exists.1 hopen
    exact run_ne_notOpen hf hneeds h
  · rintro ⟨hneeds, hclosed⟩
    rw [eq_new_of_not_isOpen hclosed]
    exact new_run_of_needsFile hneeds

end Needs

/-! ## The life of a session -/

/-- The command asks for something to be opened for reading. -/
inductive Command.Opening : Command → Prop where
  | source (source : Source) : Opening (.openSource source)
  | flags (source : Source) : Opening (.openWithFlags source .read)
  | path {path : String} (lookup : String → Except IoFault Source) (h : path ≠ "") :
      Opening (.openPath path lookup)

/-- What holds of a session with a history, in whatever state it is. -/
structure Lifecycle (s : Session) (events : List Event) : Prop where
  /-- A file is open exactly when a source was opened and the file not closed since then. -/
  isOpen_iff : s.isOpen = true ↔ ∃ source, LastOpened events source
  /-- An open session is not opened, and nothing of it changes. -/
  alreadyOpen : s.isOpen = true → ∀ c, c.Opening → s.run c = (.error .alreadyOpen, s)
  /-- A closed session is as good as new, and it stays so when a command fails. -/
  failed : ¬s.isOpen = true →
    s = .new s.options ∧ ∀ c e, (s.run c).1 = .error e → (s.run c).2 = s
  /-- Only reading is possible, in either state. -/
  flags : ∀ source flags, flags ≠ .read →
    s.run (.openWithFlags source flags) = (.error (.argument (.flags flags)), s)
  /-- Closing gives back the source that was opened last. -/
  close : ∀ source, LastOpened events source → ∃ source', source'.identity = source.identity ∧
    s.run .close = (.ok (.source source'), .new s.options)
  /-- A command misses a file exactly when it needs one and there is none. -/
  notOpen_iff : ∀ c, (s.run c).1 = .error .notOpen ↔ c.NeedsFile ∧ ¬s.isOpen = true
  /-- A codepage that does not exist changes nothing. -/
  codepage : ∀ name, Codepage.ofName? name = none →
    s.run (.setCodepage name) = (.error (.unsupportedCodepage name), s)
  /-- If all bytes can be read, opening fails for damage only. -/
  damage : ¬s.isOpen = true → ∀ source e, source.medium.bad = none →
    (s.run (.openSource source)).1 = .error e → ∃ fault, e = .format fault

section Clauses

variable {s : Session}

/-- An open session refuses what a closed one would read. -/
theorem run_of_isOpen (h : s.isOpen = true) {c : Command} (hopening : c.Opening) :
    s.run c = (.error .alreadyOpen, s) := by
  cases hopening with
  | source source | flags source =>
    show replying _ (s.openSource source) = _
    rw [openSource, if_pos h]
    rfl
  | @path path lookup hpath =>
    show replying _ (s.openPath path lookup) = _
    rw [openPath, if_neg hpath, if_pos h]
    rfl

/-- A closed session stays what it is when a command fails. -/
theorem run_of_failed (hclosed : ¬s.isOpen = true) {c : Command} {e : Error}
    (h : (s.run c).1 = .error e) : (s.run c).2 = s := by
  have heffect := s.run_effect c
  generalize s.run c = x at heffect h
  cases heffect with
  | kept hgiven halike =>
    cases halike with
    | closed options => rfl
    | opened options contents => exact absurd rfl hclosed
  | opened => cases h
  | closed => cases h
  | encoded => cases h

theorem run_close_of_identity? {id : Medium × Pace} (h : s.identity? = some id) :
    ∃ source, source.identity = id ∧ s.run .close = (.ok (.source source), .new s.options) := by
  obtain ⟨options, _ | f⟩ := s
  · cases h
  · exact ⟨f.source, Option.some.inj h, rfl⟩

theorem run_setCodepage_of_none {name : String} (h : Codepage.ofName? name = none) :
    s.run (.setCodepage name) = (.error (.unsupportedCodepage name), s) := by
  show replying _ (s.setCodepage name) = _
  unfold setCodepage
  rw [h]
  rfl

theorem format_of_run_openSource (hclosed : ¬s.isOpen = true) {source : Source} {e : Error}
    (hbad : source.medium.bad = none) (h : (s.run (.openSource source)).1 = .error e) :
    ∃ fault, e = .format fault := by
  have hload : (s.load source).1 = .error e := by
    have hopen : (s.openSource source).1 = .error e := map_eq_error_iff.1 h
    rwa [openSource, if_neg hclosed] at hopen
  rcases justified_of_load hload with hdamage | ⟨r, hr, -⟩
  · exact hdamage
  · rw [hbad] at hr
    cases hr

end Clauses

/-- **The life of a session.** After any commands, whether a file is open and which source closing
gives back is decided by the last event that opened a source or closed the file. In either state a
command that cannot be carried out fails cleanly: on an open session opening reports that it is
open, on a closed one every command that needs a file reports that none is, and what opening fails
for, if all bytes can be read, is damage. -/
theorem lifecycle (options : OpenOptions) (commands : List Command) :
    ((Session.new options).runAll commands).Lifecycle ((Session.new options).history commands) where
  isOpen_iff := by
    rw [isOpen_iff_identity?]
    simp only [identity?_eq_iff]
    exact ⟨fun ⟨_, source, hlast, _⟩ => ⟨source, hlast⟩, fun ⟨source, hlast⟩ =>
      ⟨_, source, hlast, rfl⟩⟩
  alreadyOpen := fun hopen _ => run_of_isOpen hopen
  failed := fun hclosed => ⟨eq_new_of_not_isOpen hclosed, fun _ _ => run_of_failed hclosed⟩
  flags := fun source flags hflags => by
    show replying _ (openWithFlags _ source flags) = _
    rw [openWithFlags, if_pos hflags]
    rfl
  close := fun source hlast =>
    run_close_of_identity? ((identity?_eq_iff options commands _).2 ⟨source, hlast, rfl⟩)
  notOpen_iff := fun _ => run_eq_notOpen_iff
  codepage := fun _ => run_setCodepage_of_none
  damage := fun hclosed _ _ => format_of_run_openSource hclosed

end Session

namespace Sample

open Session

/-- Open the file, list it, and try to open it again. -/
def visitTwice : List Command := [.openSource source, .snapshot, .openSource source]

theorem lastOpened_visitTwice :
    LastOpened ((Session.new ⟨false, .ascii⟩).history visitTwice) source := by
  obtain ⟨source', -, hopened⟩ := openSource_eq
  have hrun : (Session.new ⟨false, .ascii⟩).run (.openSource source) =
      (.ok .done, ⟨⟨false, .ascii⟩, some ⟨contents, source'⟩⟩) := by
    show replying _ ((Session.new ⟨false, .ascii⟩).openSource source) = _
    rw [hopened]
    rfl
  have hstill : ((Session.run ⟨⟨false, .ascii⟩, some ⟨contents, source'⟩⟩ .snapshot).2).isOpen =
      true := isOpen_run (by simp) rfl
  have hagain := run_of_isOpen hstill (.source source)
  refine ⟨[], _, _, rfl, ⟨rfl, by rw [hrun]; rfl⟩, ?_⟩
  rw [hrun]
  simp only [history, hagain, List.forall_mem_cons]
  refine ⟨⟨fun h => ?_, fun _ h => ?_⟩, ⟨fun h => ?_, fun _ h => ?_⟩, List.forall_mem_nil _⟩
  · cases h.1
  · cases h.1
  · cases h.1
  · cases h.2

end Sample

/-- The sample is opened and read, and closing gives it back. -/
theorem Session.lifecycle_sample :
    ∃ source, source.identity = Sample.source.identity ∧
      (((Session.new ⟨false, .ascii⟩).runAll Sample.visitTwice).run .close).1 =
        .ok (.source source) := by
  obtain ⟨source, hid, hclose⟩ :=
    (Session.lifecycle ⟨false, .ascii⟩ Sample.visitTwice).close _ Sample.lastOpened_visitTwice
  exact ⟨source, hid, congrArg Prod.fst hclose⟩

end CompoundFile
