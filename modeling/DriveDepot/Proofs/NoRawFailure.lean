import DriveDepot.Proofs.Reports
import DriveDepot.Proofs.Runs

namespace DriveDepot

open Operation

namespace Command

/-- The program tells such a failure and goes on to its end, but for that of a download to no path
at all. -/
def Told (command : Command) (failure : Failure) : Prop :=
  failure.isStorage = true ∨ failure.isBadValue = true ∨
    (∃ file, command = .download file none) ∧ failure = .ofMishap .notAPath

/-- Run from `s`, the operation succeeds or ends in a failure of that kind. -/
def Handles (command : Command) (operation : Operation α) (s : Session) : Prop :=
  operation.Ends s fun outcome _ => ∀ failure, outcome = .error failure → command.Told failure

section
variable {command : Command} {refused : Disk.Fault → Prop} {s : Session}

theorem handles_of_succeeds {operation : Operation α} (succeeds : operation.Succeeds s) :
    command.Handles operation s := by
  apply Ends.mono succeeds
  rintro _ _ ⟨_, rfl⟩ failure ⟨⟩

theorem handles_of_excuses {operation : Operation α} (excuses : operation.Excuses refused s) :
    command.Handles operation s := by
  refine Ends.mono excuses fun outcome t h failure failed => ?_
  obtain ⟨guarded, _, _, blames⟩ := h failure failed
  exact (blames.reported guarded).imp_right fun bad => .inl bad.1

theorem handles_remoteFile_bind {argument : FileArgument} {next : RemoteFile → Operation Unit}
    (rest : ∀ file, command.Handles (next file) s) :
    command.Handles (remoteFile argument >>= next) s := by
  refine Ends.ofExcept_bind (fun file _ => rest file) fun issues _ => ?_
  rintro _ ⟨⟩
  exact .inr (.inl rfl)

/-- The answer of a probe is told, and what comes next meets a fair provider again. -/
theorem succeeds_told_bind (fair : s.provider.Fair) {probe : Operation Bool}
    (succeeds : probe.Succeeds s) (fairly : probe.Along Session.StaysFair) {text : Bool → String}
    {next : Operation Unit} (rest : ∀ t : Session, t.provider.Fair → next.Succeeds t) :
    (do
      printLine (text (← probe))
      next).Succeeds s := by
  refine (Ends.and succeeds (fairly s)).bind ?_ (by rintro _ _ ⟨⟨_, ⟨⟩⟩, _⟩)
  rintro answer t ⟨_, stays⟩
  exact ends_modify_bind.mpr (rest _ (stays fair))

/-- The temporary file of a download may be removed again. -/
def Disposes (disk : Disk) : Command → Prop
  | .download _ (some target) => disk.Disposes target
  | _ => True

theorem handles_operate (fair : s.provider.Fair) (plain : s.layout.Plain) {command : Command}
    (disposes : command.Disposes s.disk) : command.Handles command.operate s := by
  cases command with
  | auth => exact handles_of_succeeds ⟨(), rfl⟩
  | init wanted =>
    have prepared : (Repository.prepare wanted).Excuses (fun _ => False) s :=
      (Repository.guarded_prepare wanted).excuses (Repository.accountable_prepare wanted s fair)
    exact handles_of_excuses
      (prepared.bind fun _ _ => succeeds_layout.bind fun _ _ => succeeds_log _ _)
  | test =>
    apply handles_of_succeeds
    have relaid (layout : Layout) : (setLayout layout).Along Session.StaysFair := fun _ => id
    have restored (disk : Disk) : (setDisk disk).Along Session.StaysFair := fun _ => id
    refine succeeds_told_bind fair (Repository.succeeds_targetExists _)
      (Repository.along_targetExists listable_stays_fair relaid) fun t fair => ?_
    refine succeeds_told_bind fair (Repository.succeeds_targetCanWrite _)
      (Repository.along_targetCanWrite listable_stays_fair relaid request_stays_fair restored)
      fun t fair => ?_
    refine succeeds_told_bind fair (Repository.succeeds_targetCanCreate _)
      (Repository.along_targetCanCreate listable_stays_fair relaid request_stays_fair)
      fun t fair => ?_
    exact (Repository.succeeds_markerExists_of_fair fair).bind fun _ _ => succeeds_print _
  | list category =>
    have listed : (Repository.list category).Excuses (fun _ => False) s :=
      Repository.list_excuses fair plain category
    exact handles_of_excuses (listed.bind fun _ _ => Succeeds.forM fun _ _ => succeeds_print _)
  | upload source file =>
    refine handles_remoteFile_bind fun file => ?_
    exact handles_of_excuses (Repository.upload_excuses fair source file)
  | download argument target =>
    refine handles_remoteFile_bind fun file => ?_
    cases target with
    | some target => exact handles_of_excuses (Repository.download_excuses fair plain file disposes)
    | none =>
      rw [downloadTo]
      split
      · exact handles_of_succeeds ⟨(), rfl⟩
      · refine ends_throw.mpr ?_
        rintro _ ⟨⟩
        exact .inr (.inr ⟨⟨argument, rfl⟩, rfl⟩)
  | move source target =>
    refine handles_remoteFile_bind fun source => handles_remoteFile_bind fun target => ?_
    exact handles_of_excuses (@Repository.move_excuses s (fun _ => False) fair plain source target)
  | remove file =>
    refine handles_remoteFile_bind fun file => ?_
    exact handles_of_excuses (@Repository.remove_excuses s (fun _ => False) fair plain file)

end

end Command

/-- The layout file, which is at the place, holds a layout or is absent, and nothing bars what is
done with it. It is not the log file. -/
structure Settings.Admits (settings : Settings) (disk : Disk) (place : Place) : Prop where
  located : disk.locate settings.layoutFile = .ok place
  clear : disk.Clear place
  held : disk.node? place = none ∨ ∃ content layout, disk.node? place = some (.file content) ∧
    Layout.ofBytes content = .ok layout
  apart : disk.locate (Disk.absolute settings.logFile) ≠ .ok place

namespace Settings.Admits

variable {settings : Settings} {disk : Disk} {place : Place}

theorem file (admits : settings.Admits disk place) : disk.node? place ≠ some .directory := by
  obtain absent | ⟨content, _, held, _⟩ := admits.held
  · simp [absent]
  · simp [held]

/-- It remains so when the log file is opened. -/
theorem opened (admits : settings.Admits disk place) :
    settings.Admits (disk.opened settings.logFile) place := by
  have same : disk.SameWays (disk.opened settings.logFile) := Disk.sameWays_opened
  exact ⟨(same.locate_iff _ _).mpr admits.located, admits.clear.of_barriers same.barriers,
    Disk.node?_opened admits.apart ▸ admits.held, mt (same.locate_iff _ _).mp admits.apart⟩

/-- A layout is loaded, whoever loads it. -/
theorem loads (admits : settings.Admits disk place) : ∃ layout : Layout, layout.Plain ∧
    ∀ t : Session, t.disk = disk →
      (runOn (Layout.load settings.layoutFile settings.rootPath) t).1 = .ok layout := by
  obtain absent | ⟨content, layout, held, holds⟩ := admits.held
  · refine ⟨.fresh settings.rootPath, Layout.plain_fresh _, ?_⟩
    rintro t rfl
    rw [Layout.runOn_load_of_absent (Disk.isFile_of_missing admits.located absent)]
  · have read := Disk.readAt_of_file admits.located held (admits.clear.file rfl)
    by_cases same : layout.rootPath = settings.rootPath
    · refine ⟨layout, Layout.plain_of_ofBytes holds, ?_⟩
      rintro t rfl
      rw [Layout.runOn_load_of_held read holds, if_pos same]
    · refine ⟨.fresh settings.rootPath, Layout.plain_fresh _, ?_⟩
      rintro t rfl
      exact (Layout.ends_load_of_other read holds same).1

end Settings.Admits

namespace Command

variable {settings : Settings} {command : Command} {s : Session} {place : Place}

/-- The program ends as one that did its work or as one that failed. A download to no path at all is
the one thing that it does not catch. -/
def Answers (command : Command) (outcome : Except Failure Status) : Prop :=
  outcome = .ok .success ∨ outcome = .ok .failed ∨
    (∃ file, command = .download file none) ∧ outcome = .error (.ofMishap .notAPath)

theorem Told.answers {result : Except Failure Unit}
    (told : ∀ failure, result = .error failure → command.Told failure) :
    command.Answers (report result) := by
  cases result with
  | ok => exact .inl rfl
  | error failure =>
    obtain storage | bad | ⟨pathless, rfl⟩ := told failure rfl
    · exact .inr (.inl (by rw [report, storage]; rfl))
    · exact .inr (.inl (by rw [report, bad, Bool.or_true]; rfl))
    · exact .inr (.inr ⟨pathless, rfl⟩)

theorem Carried.answers {outcome : Except Failure Status} {t : Session}
    (carried : Carried command place s outcome t) (fair : s.provider.Fair)
    (plain : s.layout.Plain) (disposes : command.Disposes s.disk) : command.Answers outcome := by
  have handles {begun : Session} (offers : s.Offers begun) :
      command.Handles command.operate begun := by
    have drive : begun.provider.drive = s.provider.drive := offers.drive
    exact handles_operate (fair.of_same offers.faults (drive ▸ ⟨rfl, rfl, rfl⟩))
      (offers.layout ▸ plain) (offers.disk ▸ disposes)
  cases carried with
  | of_run offers run => exact Told.answers ((handles offers).of_eq run)
  | endless offers run =>
    obtain ⟨⟨⟩⟩ | ⟨⟨⟩⟩ | ⟨_, ⟨⟩⟩ := (handles offers).of_eq run _ rfl

theorem Disposes.of_sameWays {disk other : Disk} (same : disk.SameWays other)
    (disposes : command.Disposes disk) : command.Disposes other := by
  cases command with
  | download file target =>
    cases target with
    | none => trivial
    | some target =>
      intro place located
      rw [Disk.obstacle?_congr same.barriers]
      exact disposes place ((same.locate_iff _ _).mp located)
  | _ => trivial

theorem run_answers {package : LocalPath} {arguments : List String} {environment : Environment}
    {input : String}
    (fair : s.provider.Fair) (parsed : ofArguments? arguments = some command)
    (other : command ≠ .auth)
    (read : (runOn (Settings.read package environment) { s with threshold := 0 }).1 = .ok settings)
    (usable : settings.Usable) (admits : settings.Admits s.disk place)
    (disposes : command.Disposes s.disk) :
    (run package arguments environment input).Ends s fun outcome _ => command.Answers outcome := by
  have disposes : command.Disposes (s.disk.opened settings.logFile) :=
    disposes.of_sameWays Disk.sameWays_opened
  have clear := admits.clear
  have admits := admits.opened
  obtain ⟨layout, plain, loads⟩ := admits.loads
  by_cases signed : ∃ token, settings.refreshToken = some token ∧ token ≠ ""
  · obtain ⟨token, kept, given⟩ := signed
    apply (run_ends parsed other read usable kept given loads admits.located admits.file
      clear).mono
    rintro outcome t (⟨rfl, _⟩ | carried)
    · exact .inr (.inl rfl)
    · exact carried.answers fair plain disposes
  · refine run_begins parsed read usable fun t _ => ?_
    have missing : runWith settings input command = (do
        log .critical "No Google Drive refresh token found. Run the 'auth' command first."
        return .failed) := by
      rcases kept : settings.refreshToken with _ | token
      · cases command with
        | auth => exact absurd rfl other
        | _ => simp only [runWith, kept]
      · obtain rfl : token = "" := by_contra fun given => signed ⟨token, kept, given⟩
        cases command with
        | auth => exact absurd rfl other
        | _ => simp only [runWith, kept]
    rw [missing]
    exact Ends.log_bind fun _ => ends_pure.mpr (.inr (.inl rfl))

end Command

namespace Command

/-- The file of the small home is sent. -/
def sendHome : Undertaking := .act (.upload (.ofString "data") ⟨.generic, "x", by decide +kernel⟩)

end Command

end DriveDepot
