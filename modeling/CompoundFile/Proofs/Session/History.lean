import CompoundFile.Proofs.Session.Agreement

/-!
# What a session remembers

What a command does on an open session depends on the image and the options and on nothing that
happened before: earlier reads, failures and the cursor of the source leave no trace.

**One command** (`Session.Effect`). A command keeps the session but for the cursor of its source, or
it opens a source that it offers, closes the file or chooses a codepage. Every step lemma is a case
analysis of these four effects.

**The invariant** (`Client.Sound`). Whatever the steps were, an open file has the contents that
loading its medium yields with the options of the session. Loading reads only the strictness of the
options, which no command changes, so a new codepage keeps the invariant.

**Opening afresh.** A session that opens a source of the same medium afresh has the same contents,
so it is `Alike`, and the agreement of sessions that are alike does the rest.

Main results: `run_effect`, `sound_runAll` and `history_invisible`.
-/

namespace CompoundFile

namespace Session

open Fetch (Yields)

/-- The command may open a source of the medium. -/
def Command.Offers (m : Medium) : Command → Prop
  | .openSource source => source.medium = m
  | .openWithFlags source _ => source.medium = m
  | .openPath path lookup => ∃ source, lookup path = .ok source ∧ source.medium = m
  | _ => False

/-- What a command can do to a session. -/
inductive Effect (s : Session) (command : Command) : Except Error Reply × Session → Prop where
  /-- The session stays as it is, but for the cursor of its source. -/
  | kept {outcome : Except Error Reply} {after : Session}
      (hgiven : ∀ source, outcome ≠ .ok (.source source)) (h : s.Alike after) :
      Effect s command (outcome, after)
  | opened {source : Source} {contents : Contents} (hclosed : ¬ s.isOpen = true)
      (hoffers : command.Offers source.medium)
      (hload : Yields source.medium (Contents.load s.options) (.ok contents)) :
      Effect s command (.ok .done, ⟨s.options, some ⟨contents, source⟩⟩)
  | closed {f : OpenFile} (hclose : command = .close) (hopen : s.file? = some f) :
      Effect s command (.ok (.source f.source), ⟨s.options, none⟩)
  | encoded (codepage : Codepage) :
      Effect s command (.ok .done, ⟨{ s.options with codepage }, s.file?⟩)

/-! ## What one command does -/

section Effects

variable {command : Command}

theorem Effect.failed (s : Session) (command : Command) (e : Error) :
    s.Effect command (.error e, s) := .kept (fun _ h => by cases h) (.refl s)

/-- A result that is not a source comes with a session that was kept. -/
theorem Effect.of_kept {α : Type} {s : Session} {x : Except Error α × Session} {reply : α → Reply}
    (hreply : ∀ a source, reply a ≠ .source source) (h : s.Alike x.2) :
    s.Effect command (replying reply x) := by
  refine .kept (fun source hsource => ?_) h
  obtain ⟨a, -, ha⟩ := map_eq_ok_iff.1 hsource
  exact hreply a source ha

theorem load_effect {s : Session} {source : Source} (hclosed : ¬ s.isOpen = true)
    (hoffers : command.Offers source.medium) :
    s.Effect command (replying (fun _ => .done) (s.load source)) := by
  obtain ⟨r, hr⟩ := steady_load s.options source.medium
  obtain ⟨t, ht, hrun⟩ := hr source rfl
  unfold load
  rw [hrun]
  cases r with
  | error e => exact .failed s command e
  | ok contents =>
    rw [← ht] at hoffers hr
    exact .opened hclosed hoffers hr

theorem openSource_effect (s : Session) {source : Source} (hoffers : command.Offers source.medium) :
    s.Effect command (replying (fun _ => .done) (s.openSource source)) := by
  unfold openSource
  by_cases hopen : s.isOpen = true
  · rw [if_pos hopen]
    exact .failed s command _
  · rw [if_neg hopen]
    exact load_effect hopen hoffers

theorem openWithFlags_effect (s : Session) {source : Source} (flags : AccessFlags)
    (hoffers : command.Offers source.medium) :
    s.Effect command (replying (fun _ => .done) (s.openWithFlags source flags)) := by
  unfold openWithFlags
  split
  · exact .failed s command _
  · exact openSource_effect s hoffers

theorem openPath_effect (s : Session) (path : String) (lookup : String → Except IoFault Source) :
    s.Effect (.openPath path lookup) (replying (fun _ => .done) (s.openPath path lookup)) := by
  unfold openPath
  split_ifs with _ hopen
  · exact .failed s _ _
  · exact .failed s _ _
  · cases hfound : lookup path with
    | error fault => exact .failed s _ _
    | ok source => exact load_effect hopen ⟨source, hfound, rfl⟩

theorem close_effect (s : Session) : s.Effect .close (replying .source s.close) := by
  obtain ⟨options, _ | f⟩ := s
  · exact .failed _ _ _
  · exact .closed rfl rfl

theorem setCodepage_effect (s : Session) (name : String) :
    s.Effect command (replying (fun _ => .done) (s.setCodepage name)) := by
  unfold setCodepage
  cases Codepage.ofName? name with
  | none => exact .failed s command _
  | some codepage => exact .encoded codepage

theorem answer_ne_source (s : Session) (question : Question) (source : Source) :
    s.answer question ≠ .ok (.source source) := by
  intro h
  cases question with
  | isOpen | options | text => cases h
  | fileSize | version | sectorSize | shortSectorSize | header | itemCount | warnings | item =>
    obtain ⟨_, -, hreply⟩ := map_eq_ok_iff.1 h
    cases hreply
  | root =>
    obtain ⟨c, -, hc⟩ := bind_eq_ok_iff.1 h
    obtain ⟨i, -, hi⟩ := bind_eq_ok_iff.1 hc
    cases hi

/-! ## Streams -/

/-- A reader is made from the open file. -/
theorem make_of_reader {s : Session} {l : Locator} {r : StreamReader} (h : s.reader l = .ok r) :
    ∃ i f, s.item l = .ok i ∧ s.file? = some f ∧
      StreamReader.make f.source f.contents.allocation i.entry = .ok r := by
  unfold reader at h
  obtain ⟨i, hitem, h⟩ := bind_eq_ok_iff.1 h
  obtain ⟨f, hfile, hmake⟩ := bind_eq_ok_iff.1 h
  refine ⟨i, f, hitem, ?_, hmake⟩
  unfold file at hfile
  cases hopen : s.file? with
  | none => rw [hopen] at hfile; cases hfile
  | some f' => rw [hopen] at hfile; exact congrArg some (Except.ok.inj hfile)

/-- A reader that keeps its medium gives it back to the session. -/
theorem withStream_kept {α : Type} (s : Session) (l : Locator)
    {work : StreamReader → Except Error α × StreamReader}
    (hwork : ∀ r, (work r).2.source.medium = r.source.medium) :
    s.Alike (s.withStream l work).2 := by
  unfold withStream
  cases hreader : s.reader l with
  | error e => exact .refl s
  | ok r =>
    obtain ⟨i, f, -, hopen, hmake⟩ := make_of_reader hreader
    obtain ⟨-, units, -, rfl⟩ := StreamReader.make_eq_ok_iff.1 hmake
    obtain ⟨options, file?⟩ := s
    obtain rfl : file? = some f := hopen
    refine .opened options f.contents ?_
    rw [hwork]

theorem readStream_kept (s : Session) (l : Locator) : s.Alike (s.readStream l).2 := by
  refine withStream_kept s l fun r => ?_
  obtain ⟨t, p, ht, hmoved⟩ := r.readToEnd_moved
  rw [hmoved]
  exact ht

theorem snapshotLine_kept (s : Session) (path : String) (i : Item) :
    s.Alike (s.snapshotLine path i).2 := by
  unfold snapshotLine
  split
  · exact readStream_kept s _
  · exact .refl s

theorem snapshotLines_kept (items : List (String × Item)) (s : Session) :
    s.Alike (s.snapshotLines items).2 := by
  induction items generalizing s with
  | nil => exact .refl s
  | cons first rest ih => exact (snapshotLine_kept s first.1 first.2).trans (ih _)

theorem snapshot_kept (s : Session) : s.Alike s.snapshot.2 := by
  unfold snapshot
  cases s.contents with
  | error e => exact .refl s
  | ok c => exact snapshotLines_kept c.outline s

theorem propertySet_kept (s : Session) (path : String) : s.Alike (s.propertySet path).2 := by
  have hread := readStream_kept s (.path path)
  unfold propertySet
  split
  next h => rw [h] at hread; exact hread
  next h => rw [h] at hread; exact hread

/-- **What carrying out a command can do.** -/
theorem run_effect (s : Session) (command : Command) : s.Effect command (s.run command) := by
  cases command with
  | openSource source => exact openSource_effect s rfl
  | openWithFlags source flags => exact openWithFlags_effect s flags rfl
  | openPath path lookup => exact openPath_effect s path lookup
  | close => exact close_effect s
  | setCodepage name => exact setCodepage_effect s name
  | ask question => exact .kept (answer_ne_source s question) (.refl s)
  | stream l script =>
    have hkept : s.Alike (s.withStream l fun r =>
        (.ok (StreamCommand.runAll script r).1, (StreamCommand.runAll script r).2)).2 := by
      refine withStream_kept s l fun r => ?_
      obtain ⟨t, p, ht, hmoved⟩ := StreamReader.runAll_moved script r
      rw [hmoved]
      exact ht
    exact .of_kept (fun _ _ h => by cases h) hkept
  | readStream l => exact .of_kept (fun _ _ h => by cases h) (readStream_kept s l)
  | propertySet path => exact .of_kept (fun _ _ h => by cases h) (propertySet_kept s path)
  | snapshot => exact .of_kept (fun _ _ h => by cases h) (snapshot_kept s)

end Effects

/-- A command other than closing has one outcome on sessions that are alike. -/
theorem run_eq_of_alike {s s' : Session} {command : Command} (h : s.Alike s')
    (hcommand : command ≠ .close) : (s.run command).1 = (s'.run command).1 := by
  obtain ⟨houtcome, -⟩ := run_agree h (.same command)
  have heffect := run_effect s command
  generalize s.run command = x at houtcome heffect
  generalize s'.run command = x' at houtcome
  obtain ⟨outcome, after⟩ := x
  obtain ⟨outcome', after'⟩ := x'
  cases houtcome with
  | same => rfl
  | source =>
    -- Only closing gives a source.
    cases heffect with
    | kept hgiven => exact absurd rfl (hgiven _)
    | closed hclose => exact absurd hclose hcommand

/-- An open session stays open as long as it is not closed. -/
theorem isOpen_run {s : Session} {command : Command} (hcommand : command ≠ .close)
    (hopen : s.isOpen = true) : (s.run command).2.isOpen = true := by
  have heffect := run_effect s command
  generalize s.run command = x at heffect
  cases heffect with
  | kept _ h => rw [← hopen]; exact h.isOpen.symm
  | opened => rfl
  | closed hclose => exact absurd hclose hcommand
  | encoded => exact hopen

end Session

/-! ## The invariant -/

open Fetch (Yields)

/-- Loading reads no more of the options than whether it is strict. -/
theorem Contents.load_congr {options options' : OpenOptions}
    (h : options.strict = options'.strict) : load options = load options' := by
  unfold load
  rw [h]

namespace Client

/-- The step may open a source of the medium that was not there before. -/
def Step.Offers (m : Medium) : Step → Prop
  | .command c => Session.Command.Offers m c
  | .reopen => False

/-- What holds of a client whatever it did: the strictness is the one it began with, an open file
has the contents that loading it yields, and its media are of a kind. -/
structure Sound (P : Medium → Prop) (strict : Bool) (c : Client) : Prop where
  strict_eq : c.session.options.strict = strict
  loaded : ∀ f, c.session.file? = some f →
    Yields f.source.medium (Contents.load c.session.options) (.ok f.contents)
  medium : ∀ f, c.session.file? = some f → P f.source.medium
  held : ∀ source, c.held = some source → P source.medium

variable {P : Medium → Prop} {strict : Bool} {c : Client}

theorem sound_new (options : OpenOptions) : (Client.new options).Sound P options.strict where
  strict_eq := rfl
  loaded := fun _ h => by cases h
  medium := fun _ h => by cases h
  held := fun _ h => by cases h

theorem Sound.run (h : c.Sound P strict) {command : Session.Command}
    (hoffers : ∀ m, Session.Command.Offers m command → P m) : (c.run command).2.Sound P strict := by
  have heffect := c.session.run_effect command
  obtain ⟨s, held⟩ := c
  unfold Client.run
  generalize s.run command = x at heffect ⊢
  cases heffect with
  | @kept outcome after hgiven halike =>
    have hnone : given? outcome = none := by
      unfold given?
      split
      next source => exact absurd rfl (hgiven source)
      next => rfl
    simp only [hnone, Option.none_or]
    cases halike with
    | closed options => exact h
    | opened options contents hs =>
      -- The source may have moved, but its medium is the same.
      have hloaded := h.loaded _ rfl
      have hmedium := h.medium _ rfl
      refine ⟨h.strict_eq, ?_, ?_, h.held⟩
      · rintro f ⟨⟩
        rwa [hs] at hloaded
      · rintro f ⟨⟩
        rwa [hs] at hmedium
  | opened _ hoffer hload =>
    refine ⟨h.strict_eq, ?_, ?_, h.held⟩
    · rintro f ⟨⟩
      exact hload
    · rintro f ⟨⟩
      exact hoffers _ hoffer
  | @closed f hclose hopen =>
    refine ⟨h.strict_eq, fun _ hfile => ?_, fun _ hfile => ?_, ?_⟩
    · cases hfile
    · cases hfile
    · -- The source that is kept now is the one that was open.
      rintro source ⟨⟩
      exact h.medium f hopen
  | encoded codepage =>
    have hload : Contents.load { s.options with codepage } = Contents.load s.options :=
      Contents.load_congr rfl
    refine ⟨h.strict_eq, fun f hopen => ?_, h.medium, h.held⟩
    rw [hload]
    exact h.loaded f hopen

/-- **A step keeps the invariant.** -/
theorem Sound.step (h : c.Sound P strict) {st : Step} (hoffers : ∀ m, st.Offers m → P m) :
    (c.step st).2.Sound P strict := by
  cases st with
  | command command => exact h.run hoffers
  | reopen =>
    obtain ⟨s, _ | source⟩ := c
    · exact h
    · have hempty : Sound P strict ⟨s, none⟩ :=
        ⟨h.strict_eq, h.loaded, h.medium, fun _ hheld => by cases hheld⟩
      have hoffers' : ∀ m, Session.Command.Offers m (.openSource source) → P m := by
        rintro m rfl
        exact h.held source rfl
      exact hempty.run hoffers'

/-- So do any number of steps. -/
theorem sound_runAll (steps : List Step) (h : c.Sound P strict)
    (hoffers : ∀ st ∈ steps, ∀ m, st.Offers m → P m) : (c.runAll steps).2.Sound P strict := by
  induction steps generalizing c with
  | nil => exact h
  | cons st rest ih =>
    rw [List.forall_mem_cons] at hoffers
    exact ih (h.step hoffers.1) hoffers.2

/-- Whatever the steps were, an open file has the contents that loading its medium yields. -/
theorem loadedFrom_of_runAll {options : OpenOptions} {steps : List Step} {f : OpenFile}
    (hrun : ((Client.new options).runAll steps).2 = c) (hopen : c.session.file? = some f) :
    f.contents.LoadedFrom f.source.medium c.session.options := by
  have hsound : c.Sound (fun _ => True) options.strict := by
    rw [← hrun]
    exact sound_runAll steps (sound_new options) fun _ _ _ _ => trivial
  exact Contents.loadedFrom_of_yields (hsound.loaded f hopen)

theorem runAll_append (c : Client) (steps rest : List Step) :
    (c.runAll (steps ++ rest)).2 = ((c.runAll steps).2.runAll rest).2 := by
  induction steps generalizing c with
  | nil => rfl
  | cons st steps ih => exact ih (c.step st).2

/-- Commands other than closing leave a file open. -/
theorem isOpen_runAll {commands : List Session.Command}
    (hcommands : ∀ command ∈ commands, command ≠ .close) (hopen : c.session.isOpen = true) :
    (c.runAll (commands.map .command)).2.session.isOpen = true := by
  induction commands generalizing c with
  | nil => exact hopen
  | cons command rest ih =>
    rw [List.forall_mem_cons] at hcommands
    exact ih hcommands.2 (Session.isOpen_run hcommands.1 hopen)

/-! ## Opening afresh -/

/-- A session that opens a source of the medium afresh is like the one with the file open. -/
theorem Sound.fresh (h : c.Sound P strict) {f : OpenFile} (hopen : c.session.file? = some f)
    {source : Source} (hsource : source.medium = f.source.medium) :
    ∃ fresh, (Session.new c.session.options).openSource source = (.ok (), fresh) ∧
      c.session.Alike fresh := by
  have hload := h.loaded f hopen
  rw [← hsource] at hload
  obtain ⟨source', hmedium, hfresh⟩ := Session.openSource_of_yields hload
  refine ⟨_, hfresh, ?_⟩
  obtain ⟨⟨options, file?⟩, held⟩ := c
  obtain rfl : file? = some f := hopen
  exact .opened options f.contents (hsource.symm.trans hmedium.symm)

theorem runAll_openSource {options : OpenOptions} {source : Source} {s : Session}
    (h : (Session.new options).openSource source = (.ok (), s)) :
    (Client.new options).runAll [.command (.openSource source)] =
      ([some (.ok .done)], ⟨s, none⟩) := by
  have hrun : (Session.new options).run (.openSource source) = (.ok .done, s) := by
    show Session.replying (fun _ => .done) ((Session.new options).openSource source) = _
    rw [h]
    rfl
  have hclient : (Client.new options).run (.openSource source) = (.ok .done, ⟨s, none⟩) := by
    unfold Client.run
    rw [show (Client.new options).session = Session.new options from rfl, hrun]
    rfl
  show ([some ((Client.new options).run (.openSource source)).1],
    ((Client.new options).run (.openSource source)).2) = _
  rw [hclient]

/-- Closing and opening again what was given back. -/
theorem Sound.reopen (h : c.Sound P strict) {f : OpenFile} (hopen : c.session.file? = some f) :
    ∃ again, c.runAll [.command .close, .reopen] =
        ([some (.ok (.source f.source)), some (.ok .done)], ⟨again, none⟩) ∧
      c.session.Alike again := by
  obtain ⟨again, hagain, halike⟩ := h.fresh hopen rfl
  refine ⟨again, ?_, halike⟩
  obtain ⟨⟨options, file?⟩, held⟩ := c
  obtain rfl : file? = some f := hopen
  show (some (.ok (.source f.source)) ::
      ((Client.new options).runAll [.command (.openSource f.source)]).1,
    ((Client.new options).runAll [.command (.openSource f.source)]).2) = _
  rw [runAll_openSource hagain]

/-- **Nothing that happened before shows.** Let a client take any steps, of which those that open a
source offer one image only, and let it have a file open afterwards. Then every command but closing
has the outcome that it has on a session that opened the image afresh, with the strictness that the
client began with and the codepage that it has now. Closing the file and opening again what was
given back gives the same contents and the same outcomes. -/
theorem history_invisible {options : OpenOptions} {m : Medium} {steps : List Step}
    (hoffers : ∀ st ∈ steps, ∀ m', st.Offers m' → m' = m) {c : Client} {f : OpenFile}
    (hrun : ((Client.new options).runAll steps).2 = c) (hopen : c.session.file? = some f) :
    f.source.medium = m ∧ c.session.options.strict = options.strict ∧
      (∀ source : Source, source.medium = m →
        ∃ fresh, (Session.new c.session.options).openSource source = (.ok (), fresh) ∧
          ∀ command, command ≠ .close → (c.session.run command).1 = (fresh.run command).1) ∧
      ∃ again, c.runAll [.command .close, .reopen] =
          ([some (.ok (.source f.source)), some (.ok .done)], ⟨again, none⟩) ∧
        again.contents = .ok f.contents ∧
        ∀ command, command ≠ .close → (again.run command).1 = (c.session.run command).1 := by
  have hsound : c.Sound (· = m) options.strict := by
    rw [← hrun]
    exact sound_runAll steps (sound_new options) hoffers
  have hmedium : f.source.medium = m := hsound.medium f hopen
  refine ⟨hmedium, hsound.strict_eq, fun source hsource => ?_, ?_⟩
  · obtain ⟨fresh, hfresh, halike⟩ := hsound.fresh hopen (hsource.trans hmedium.symm)
    exact ⟨fresh, hfresh, fun _ hcommand => Session.run_eq_of_alike halike hcommand⟩
  · obtain ⟨again, hagain, halike⟩ := hsound.reopen hopen
    refine ⟨again, hagain, ?_, fun _ hcommand => (Session.run_eq_of_alike halike hcommand).symm⟩
    rw [← halike.contents]
    unfold Session.contents Session.file
    rw [hopen]
    rfl

end Client

namespace Sample

/-- A client opens the sample, however it is delivered. -/
theorem exists_runAll {s : Source} (hs : s.medium = .ofList bytes) :
    ∃ source', ((Client.new ⟨false, .ascii⟩).runAll [.command (.openSource s)]).2 =
      ⟨⟨⟨false, .ascii⟩, some ⟨contents, source'⟩⟩, none⟩ := by
  have hload : Yields s.medium (Contents.load ⟨false, .ascii⟩) (.ok contents) := by
    rw [hs]
    exact yields_load
  obtain ⟨source', -, hopen⟩ := Session.openSource_of_yields hload
  exact ⟨source', by rw [Client.runAll_openSource hopen]⟩

/-- Read from a session, ask for what it does not have and choose a codepage that does not exist. -/
def disturb : List Session.Command :=
  [.stream (.sid 2) [.read 7, .seek (.fromEnd (-3)), .readToEnd], .readStream (.path "N"),
    .setCodepage "N"]

/-- Open the file, close it, open again what was given back, and disturb the session. -/
def steps : List Client.Step :=
  [.command (.openSource slowSource), .command .close, .reopen] ++ disturb.map .command

theorem offers_steps : ∀ st ∈ steps, ∀ m, st.Offers m → m = .ofList bytes := by
  intro st hst m hoffers
  simp only [steps, disturb, List.map, List.cons_append, List.nil_append, List.mem_cons,
    List.not_mem_nil, or_false] at hst
  rcases hst with rfl | rfl | rfl | rfl | rfl | rfl
  · exact hoffers.symm
  all_goals cases hoffers

/-- The file is open after these steps. -/
theorem exists_file_of_steps :
    ∃ f, ((Client.new ⟨false, .ascii⟩).runAll steps).2.session.file? = some f := by
  obtain ⟨source', hfirst⟩ := exists_runAll (s := slowSource) rfl
  have hsound : Client.Sound (fun _ => True) false
      ⟨⟨⟨false, .ascii⟩, some ⟨contents, source'⟩⟩, none⟩ := by
    have hnew : (Client.new ⟨false, .ascii⟩).Sound (fun _ => True) false :=
      Client.sound_new ⟨false, .ascii⟩
    rw [← hfirst]
    exact Client.sound_runAll _ hnew fun _ _ _ _ => trivial
  obtain ⟨again, hagain, halike⟩ := hsound.reopen rfl
  have hcommands : ∀ command ∈ disturb, command ≠ .close := by
    simp [disturb]
  have hlast : ((Client.new ⟨false, .ascii⟩).runAll steps).2.session.isOpen = true := by
    rw [show steps = [.command (.openSource slowSource)] ++ ([.command .close, .reopen] ++
      disturb.map .command) from rfl, Client.runAll_append, hfirst, Client.runAll_append, hagain]
    exact Client.isOpen_runAll hcommands halike.isOpen.symm
  exact Option.isSome_iff_exists.1 hlast

end Sample

/-- After all this the sample is read as if it had just been opened. -/
theorem Client.history_invisible_sample :
    ∃ c f fresh again, ((Client.new ⟨false, .ascii⟩).runAll Sample.steps).2 = c ∧
      c.session.file? = some f ∧
      (Session.new c.session.options).openSource Sample.source = (.ok (), fresh) ∧
      (c.session.run .snapshot).1 = (fresh.run .snapshot).1 ∧
      c.runAll [.command .close, .reopen] =
        ([some (.ok (.source f.source)), some (.ok .done)], ⟨again, none⟩) ∧
      again.contents = .ok f.contents := by
  obtain ⟨f, hopen⟩ := Sample.exists_file_of_steps
  obtain ⟨-, -, hfresh, again, hagain, hcontents, -⟩ :=
    Client.history_invisible Sample.offers_steps rfl hopen
  obtain ⟨fresh, hopened, hsame⟩ := hfresh Sample.source rfl
  exact ⟨_, f, fresh, again, rfl, hopen, hopened, hsame _ (by simp), hagain, hcontents⟩

end CompoundFile
