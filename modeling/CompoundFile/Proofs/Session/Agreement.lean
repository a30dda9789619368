import CompoundFile.Proofs.Layout
import CompoundFile.Proofs.Stream.Agreement
import CompoundFile.Session.Client

/-!
# Sessions on sources of the same bytes

How a source delivers its bytes does not show in a session. Two sessions are `Alike` when they have
the same options and the same contents, and their sources hold the same bytes; the sources may
deliver in different portions, be interrupted at different times and have their cursors anywhere.

**One step.** An operation gives the same on sessions that are alike and leaves them alike
(`run_agree`). For opening this is that loading yields one result on a medium; for streams it is the
agreement of readers. The source that a closed session gives back is the one thing that tells two
such sessions apart, so outcomes are compared up to that (`SameOutcome`).

**Runs.** Clients that take the same steps on sources of the same bytes stay alike
(`runAll_agree`).

Main result: `delivery_invisible`.
-/

namespace CompoundFile

namespace Session

/-- The sessions differ in their sources only, and these hold the same bytes. -/
inductive Alike : Session → Session → Prop where
  | closed (options : OpenOptions) : Alike ⟨options, none⟩ ⟨options, none⟩
  | opened (options : OpenOptions) (contents : Contents) {source source' : Source}
      (h : source.medium = source'.medium) :
      Alike ⟨options, some ⟨contents, source⟩⟩ ⟨options, some ⟨contents, source'⟩⟩

/-- An operation gave the same on two sessions, and left them alike. -/
def Agree {α : Type} (x x' : Except Error α × Session) : Prop := x.1 = x'.1 ∧ x.2.Alike x'.2

/-- The outcomes are the same, or both are sources of the same bytes. -/
inductive SameOutcome : Except Error Reply → Except Error Reply → Prop where
  | same (outcome : Except Error Reply) : SameOutcome outcome outcome
  | source {source source' : Source} (h : source.medium = source'.medium) :
      SameOutcome (.ok (.source source)) (.ok (.source source'))

/-- The commands differ in the sources that they offer only, and these hold the same bytes. -/
inductive Command.Alike : Command → Command → Prop where
  | same (command : Command) : Alike command command
  | openSource {source source' : Source} (h : source.medium = source'.medium) :
      Alike (.openSource source) (.openSource source')
  | openWithFlags {source source' : Source} (h : source.medium = source'.medium)
      (flags : AccessFlags) : Alike (.openWithFlags source flags) (.openWithFlags source' flags)
  | openPath (path : String) {lookup lookup' : String → Except IoFault Source}
      (h : ∀ p, (lookup p).map Source.medium = (lookup' p).map Source.medium) :
      Alike (.openPath path lookup) (.openPath path lookup')

theorem Alike.refl (s : Session) : s.Alike s := by
  obtain ⟨options, _ | ⟨contents, source⟩⟩ := s
  · exact .closed options
  · exact .opened options contents rfl

theorem Alike.trans {s t u : Session} (h : s.Alike t) (h' : t.Alike u) : s.Alike u := by
  cases h with
  | closed => exact h'
  | opened options contents hs =>
    cases h' with
    | opened _ _ hs' => exact .opened options contents (hs.trans hs')

theorem Agree.exists_eq {α : Type} {x x' : Except Error α × Session} (h : Agree x x') :
    ∃ result t t', x = (result, t) ∧ x' = (result, t') ∧ t.Alike t' := by
  obtain ⟨result, t⟩ := x
  obtain ⟨result', t'⟩ := x'
  obtain ⟨rfl, halike⟩ : result = result' ∧ t.Alike t' := h
  exact ⟨result, t, t', rfl, rfl, halike⟩

section Operations

variable {s s' : Session} (h : s.Alike s')
include h

theorem Alike.isOpen : s.isOpen = s'.isOpen := by
  cases h <;> rfl

theorem Alike.contents : s.contents = s'.contents := by
  cases h <;> rfl

theorem Alike.answer (question : Question) : s.answer question = s'.answer question := by
  cases h with
  | closed => rfl
  | opened => cases question <;> rfl

/-! ## Opening and closing -/

theorem load_agree {source source' : Source} (hs : source.medium = source'.medium) :
    Agree (s.load source) (s'.load source') := by
  have hoptions : s'.options = s.options := by cases h <;> rfl
  obtain ⟨r, hr⟩ := steady_load s.options source.medium
  obtain ⟨t, ht, hrun⟩ := hr source rfl
  obtain ⟨t', ht', hrun'⟩ := hr source' hs.symm
  unfold load
  rw [hoptions, hrun, hrun']
  cases r with
  | error e => exact ⟨rfl, h⟩
  | ok contents =>
    exact ⟨rfl, .opened s.options contents (ht.trans ht'.symm)⟩

theorem openSource_agree {source source' : Source} (hs : source.medium = source'.medium) :
    Agree (s.openSource source) (s'.openSource source') := by
  unfold openSource
  rw [h.isOpen]
  split
  · exact ⟨rfl, h⟩
  · exact load_agree h hs

theorem openWithFlags_agree {source source' : Source} (hs : source.medium = source'.medium)
    (flags : AccessFlags) :
    Agree (s.openWithFlags source flags) (s'.openWithFlags source' flags) := by
  unfold openWithFlags
  split
  · exact ⟨rfl, h⟩
  · exact openSource_agree h hs

theorem openPath_agree (path : String) {lookup lookup' : String → Except IoFault Source}
    (hlookup : ∀ p, (lookup p).map Source.medium = (lookup' p).map Source.medium) :
    Agree (s.openPath path lookup) (s'.openPath path lookup') := by
  have hpath := hlookup path
  unfold openPath
  rw [h.isOpen]
  split_ifs
  · exact ⟨rfl, h⟩
  · exact ⟨rfl, h⟩
  · cases hfound : lookup path with
    | error fault =>
      cases hfound' : lookup' path with
      | error fault' =>
        rw [hfound, hfound'] at hpath
        cases hpath
        exact ⟨rfl, h⟩
      | ok source' => rw [hfound, hfound'] at hpath; cases hpath
    | ok source =>
      cases hfound' : lookup' path with
      | error fault' => rw [hfound, hfound'] at hpath; cases hpath
      | ok source' =>
        rw [hfound, hfound'] at hpath
        exact load_agree h (Except.ok.inj hpath)

theorem setCodepage_agree (name : String) : Agree (s.setCodepage name) (s'.setCodepage name) := by
  unfold setCodepage
  cases Codepage.ofName? name with
  | none => exact ⟨rfl, h⟩
  | some codepage =>
    cases h with
    | closed => exact ⟨rfl, .closed _⟩
    | opened options contents hs => exact ⟨rfl, .opened _ contents hs⟩

/-! ## Streams -/

theorem reader_agree (l : Locator) :
    (∃ e, s.reader l = .error e ∧ s'.reader l = .error e) ∨
      ∃ r r', s.reader l = .ok r ∧ s'.reader l = .ok r' ∧ r.Alike r' := by
  cases h with
  | closed => cases l <;> exact Or.inl ⟨_, rfl, rfl⟩
  | @opened options contents source source' hs =>
    have hitem : item ⟨options, some ⟨contents, source⟩⟩ l =
        item ⟨options, some ⟨contents, source'⟩⟩ l := by cases l <;> rfl
    unfold reader
    rw [← hitem]
    cases item ⟨options, some ⟨contents, source⟩⟩ l with
    | error e => exact Or.inl ⟨e, rfl, rfl⟩
    | ok i => exact StreamReader.make_agree hs contents.allocation i.entry

theorem giveBack_alike {source source' : Source} (hs : source.medium = source'.medium) :
    (s.giveBack source).Alike (s'.giveBack source') := by
  cases h with
  | closed options => exact .closed options
  | opened options contents _ => exact .opened options contents hs

theorem withStream_agree {α : Type} (l : Locator)
    {work : StreamReader → Except Error α × StreamReader}
    (hwork : ∀ {r r' : StreamReader}, r.Alike r' → StreamReader.Agree (work r) (work r')) :
    Agree (s.withStream l work) (s'.withStream l work) := by
  unfold withStream
  rcases reader_agree h l with ⟨e, hreader, hreader'⟩ | ⟨r, r', hreader, hreader', hr⟩
  · rw [hreader, hreader']
    exact ⟨rfl, h⟩
  · rw [hreader, hreader']
    obtain ⟨hresult, hafter⟩ := hwork hr
    exact ⟨hresult, giveBack_alike h hafter.source⟩

theorem readStream_agree (l : Locator) : Agree (s.readStream l) (s'.readStream l) :=
  withStream_agree h l StreamReader.readToEnd_agree

theorem propertySet_agree (path : String) : Agree (s.propertySet path) (s'.propertySet path) := by
  obtain ⟨result, t, t', hread, hread', hafter⟩ := (readStream_agree h (.path path)).exists_eq
  unfold propertySet
  rw [hread, hread']
  cases result with
  | error e => exact ⟨rfl, hafter⟩
  | ok data =>
    have hoptions : t.options = t'.options := by cases hafter <;> rfl
    refine ⟨?_, hafter⟩
    show (PropertySet.parse data t.options.codepage).mapError _ = _
    rw [hoptions]

end Operations

/-! ## Snapshots -/

theorem snapshotLine_agree {s s' : Session} (h : s.Alike s') (path : String) (i : Item) :
    (s.snapshotLine path i).1 = (s'.snapshotLine path i).1 ∧
      (s.snapshotLine path i).2.Alike (s'.snapshotLine path i).2 := by
  unfold snapshotLine
  by_cases hstream : i.isStream = true
  · obtain ⟨hresult, hafter⟩ := readStream_agree h (.sid i.sid)
    simp only [if_pos hstream]
    exact ⟨by rw [hresult], hafter⟩
  · simp only [if_neg hstream]
    exact ⟨trivial, h⟩

theorem snapshotLines_agree (items : List (String × Item)) {s s' : Session} (h : s.Alike s') :
    (s.snapshotLines items).1 = (s'.snapshotLines items).1 ∧
      (s.snapshotLines items).2.Alike (s'.snapshotLines items).2 := by
  induction items generalizing s s' with
  | nil => exact ⟨rfl, h⟩
  | cons first rest ih =>
    obtain ⟨path, i⟩ := first
    obtain ⟨hline, hafter⟩ := snapshotLine_agree h path i
    obtain ⟨hlines, hlast⟩ := ih hafter
    refine ⟨?_, hlast⟩
    show (s.snapshotLine path i).1 :: _ = (s'.snapshotLine path i).1 :: _
    rw [hline]
    exact congrArg _ hlines

theorem snapshot_agree {s s' : Session} (h : s.Alike s') : Agree s.snapshot s'.snapshot := by
  unfold snapshot
  rw [h.contents]
  cases s'.contents with
  | error e => exact ⟨rfl, h⟩
  | ok c =>
    obtain ⟨hlines, hafter⟩ := snapshotLines_agree c.outline h
    exact ⟨congrArg Except.ok hlines, hafter⟩

/-! ## Commands -/

theorem Agree.replying {α : Type} {x x' : Except Error α × Session} (h : Agree x x')
    (reply : α → Reply) :
    SameOutcome (replying reply x).1 (replying reply x').1 ∧
      (replying reply x).2.Alike (replying reply x').2 := by
  obtain ⟨result, t, t', rfl, rfl, hafter⟩ := h.exists_eq
  exact ⟨.same _, hafter⟩

theorem close_agree {s s' : Session} (h : s.Alike s') :
    SameOutcome (s.run .close).1 (s'.run .close).1 ∧ (s.run .close).2.Alike (s'.run .close).2 := by
  cases h with
  | closed options => exact ⟨.same _, .closed options⟩
  | opened options contents hs => exact ⟨.source hs, .closed options⟩

/-- **A command gives the same on sessions that are alike.** -/
theorem run_agree {s s' : Session} {command command' : Command} (h : s.Alike s')
    (hcommand : command.Alike command') :
    SameOutcome (s.run command).1 (s'.run command').1 ∧
      (s.run command).2.Alike (s'.run command').2 := by
  cases hcommand with
  | openSource hs => exact (openSource_agree h hs).replying _
  | openWithFlags hs flags => exact (openWithFlags_agree h hs flags).replying _
  | openPath path hlookup => exact (openPath_agree h path hlookup).replying _
  | same =>
    cases command with
    | openSource source => exact (openSource_agree h rfl).replying _
    | openWithFlags source flags => exact (openWithFlags_agree h rfl flags).replying _
    | openPath path lookup => exact (openPath_agree h path fun _ => rfl).replying _
    | close => exact close_agree h
    | setCodepage name => exact (setCodepage_agree h name).replying _
    | ask question =>
      refine ⟨?_, h⟩
      show SameOutcome (s.answer question) (s'.answer question)
      rw [h.answer]
      exact .same _
    | stream l script =>
      refine (withStream_agree h l fun hr => ?_).replying _
      obtain ⟨hreplies, hafter⟩ := StreamReader.runAll_agree script hr
      exact ⟨congrArg Except.ok hreplies, hafter⟩
    | readStream l => exact (readStream_agree h l).replying _
    | propertySet path => exact (propertySet_agree h path).replying _
    | snapshot => exact (snapshot_agree h).replying _

end Session

/-! ## Clients -/

namespace Client

open Session (SameOutcome)

/-- The clients differ in their sources only, and these hold the same bytes. -/
structure Alike (c c' : Client) : Prop where
  session : c.session.Alike c'.session
  held : c.held.map Source.medium = c'.held.map Source.medium

/-- The steps differ in the sources that they offer only, and these hold the same bytes. -/
inductive Step.Alike : Step → Step → Prop where
  | command {command command' : Session.Command} (h : command.Alike command') :
      Alike (.command command) (.command command')
  | reopen : Alike .reopen .reopen

theorem given?_agree {x x' : Except Error Session.Reply} (h : SameOutcome x x') :
    (given? x).map Source.medium = (given? x').map Source.medium := by
  cases h with
  | same => rfl
  | source hs => exact congrArg some hs

theorem run_agree {c c' : Client} {command command' : Session.Command} (h : c.Alike c')
    (hcommand : command.Alike command') :
    SameOutcome (c.run command).1 (c'.run command').1 ∧
      (c.run command).2.Alike (c'.run command').2 := by
  obtain ⟨houtcome, hafter⟩ := Session.run_agree h.session hcommand
  refine ⟨houtcome, hafter, ?_⟩
  show ((given? (c.session.run command).1).or c.held).map Source.medium =
    ((given? (c'.session.run command').1).or c'.held).map Source.medium
  rw [Option.map_or, Option.map_or, given?_agree houtcome, h.held]

/-- **A step gives the same on clients that are alike.** -/
theorem step_agree {c c' : Client} {st st' : Step} (h : c.Alike c') (hst : st.Alike st') :
    Option.Rel SameOutcome (c.step st).1 (c'.step st').1 ∧
      (c.step st).2.Alike (c'.step st').2 := by
  cases hst with
  | command hcommand =>
    obtain ⟨houtcome, hafter⟩ := run_agree h hcommand
    exact ⟨.some houtcome, hafter⟩
  | reopen =>
    obtain ⟨s, held⟩ := c
    obtain ⟨s', held'⟩ := c'
    have hheld := h.held
    cases held with
    | none =>
      cases held' with
      | none => exact ⟨.none, h⟩
      | some source' => cases hheld
    | some source =>
      cases held' with
      | none => cases hheld
      | some source' =>
        have hempty : Alike ⟨s, none⟩ ⟨s', none⟩ := ⟨h.session, rfl⟩
        obtain ⟨houtcome, hafter⟩ := run_agree hempty (.openSource (Option.some.inj hheld))
        exact ⟨.some houtcome, hafter⟩

/-- Clients that take the same steps get the same outcomes. -/
theorem runAll_agree {steps steps' : List Step} (hsteps : List.Forall₂ Step.Alike steps steps')
    {c c' : Client} (h : c.Alike c') :
    List.Forall₂ (Option.Rel SameOutcome) (c.runAll steps).1 (c'.runAll steps').1 ∧
      (c.runAll steps).2.Alike (c'.runAll steps').2 := by
  induction hsteps generalizing c c' with
  | nil => exact ⟨.nil, h⟩
  | cons hst _ ih =>
    obtain ⟨houtcome, hafter⟩ := step_agree h hst
    obtain ⟨houtcomes, hlast⟩ := ih hafter
    exact ⟨.cons houtcome houtcomes, hlast⟩

end Client

/-! ## Delivery -/

theorem Header.checkSignature_agree {source source' : Source} (h : source.medium = source'.medium) :
    (checkSignature.run source).1 = (checkSignature.run source').1 ∧
      ∀ found, (checkSignature.run source).1 = .ok found →
        (checkSignature.run source).2.position = 0 ∧
          (checkSignature.run source').2.position = 0 := by
  obtain ⟨t, -, hrun⟩ := Fetch.yields_readAt 0 8 source rfl
  obtain ⟨t', -, hrun'⟩ := Fetch.yields_readAt 0 8 source' h.symm
  unfold checkSignature
  rw [Fetch.run_bind, Fetch.run_bind, hrun, hrun']
  cases (source.medium.fetch 0 8).mapError Error.io with
  | error e => exact ⟨rfl, fun _ hfound => by cases hfound⟩
  | ok b => exact ⟨rfl, fun _ _ => ⟨rfl, rfl⟩⟩

/-- **How a source delivers does not show.** Two sources that hold the same bytes, and the same
region that cannot be read, have the same answer to the check of the signature, which leaves both at
their beginning. Clients that take the same steps on such sources get the same outcomes, failures
and positions of readers included, and are left with the same contents. -/
theorem delivery_invisible (options : OpenOptions) {source source' : Source}
    (hmedium : source.medium = source'.medium) {steps steps' : List Client.Step}
    (hsteps : List.Forall₂ Client.Step.Alike steps steps') :
    ((Header.checkSignature.run source).1 = (Header.checkSignature.run source').1 ∧
      ∀ found, (Header.checkSignature.run source).1 = .ok found →
        (Header.checkSignature.run source).2.position = 0 ∧
          (Header.checkSignature.run source').2.position = 0) ∧
    List.Forall₂ (Option.Rel Session.SameOutcome) ((Client.new options).runAll steps).1
        ((Client.new options).runAll steps').1 ∧
      ((Client.new options).runAll steps).2.Alike ((Client.new options).runAll steps').2 := by
  have hnew : (Client.new options).Alike (Client.new options) := ⟨.refl _, rfl⟩
  exact ⟨Header.checkSignature_agree hmedium, Client.runAll_agree hsteps hnew⟩

namespace Sample

/-- A source of the file that gives single bytes, with interruptions in between. -/
def slowSource : Source := .ofMedium (.ofList bytes) ⟨fun n => n % 3, fun _ => 0⟩

/-- Open a source, read from it, close it and open it again. -/
def visit (source : Source) : List Client.Step :=
  [.command (.openSource source),
    .command (.stream (.sid 2) [.read 7, .seek (.fromEnd (-3)), .readToEnd]),
    .command .snapshot, .command .close, .reopen, .command (.readStream (.path "S"))]

theorem visit_alike {source source' : Source} (h : source.medium = source'.medium) :
    List.Forall₂ Client.Step.Alike (visit source) (visit source') :=
  .cons (.command (.openSource h)) (.cons (.command (.same _)) (.cons (.command (.same _))
    (.cons (.command (.same _)) (.cons .reopen (.cons (.command (.same _)) .nil)))))

theorem head?_runAll_visit (options : OpenOptions) (source : Source) :
    ((Client.new options).runAll (visit source)).1.head? =
      some (some (((Session.new options).openSource source).1.map fun _ => .done)) := rfl

end Sample

/-- The sample is opened from the slow source, and every step gives what it gives from the one
without interruptions. -/
theorem delivery_invisible_sample :
    ((Client.new ⟨false, .ascii⟩).runAll (Sample.visit Sample.slowSource)).1.head? =
        some (some (.ok .done)) ∧
      (Header.checkSignature.run Sample.source).1 =
        (Header.checkSignature.run Sample.slowSource).1 ∧
      List.Forall₂ (Option.Rel Session.SameOutcome)
        ((Client.new ⟨false, .ascii⟩).runAll (Sample.visit Sample.source)).1
        ((Client.new ⟨false, .ascii⟩).runAll (Sample.visit Sample.slowSource)).1 := by
  have hmedium : Sample.source.medium = Sample.slowSource.medium := rfl
  obtain ⟨⟨hsignature, -⟩, houtcomes, -⟩ :=
    delivery_invisible ⟨false, .ascii⟩ hmedium (Sample.visit_alike hmedium)
  have hload : Fetch.Yields Sample.slowSource.medium (Contents.load ⟨false, .ascii⟩)
      (.ok Sample.contents) := Sample.yields_load
  obtain ⟨t, -, hopen⟩ := Session.openSource_of_yields hload
  refine ⟨?_, hsignature, houtcomes⟩
  rw [Sample.head?_runAll_visit, hopen]
  rfl

end CompoundFile
