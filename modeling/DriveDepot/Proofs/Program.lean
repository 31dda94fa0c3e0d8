import DriveDepot.Proofs.Along
import DriveDepot.Proofs.LayoutFile
import DriveDepot.Proofs.Terminates
import DriveDepot.Proofs.Twins.Client

namespace DriveDepot

open Operation

/-- Two sessions that offer a client the same. They differ in what was told, and in what was
executed to open a client. -/
structure Session.Offers (s t : Session) : Prop where
  drive : t.drive = s.drive
  disk : t.disk = s.disk
  layout : t.layout = s.layout
  faults : t.schedule.faults = s.schedule.faults
  executed : ∀ call, call ≠ .credentials → call ≠ .build →
    t.schedule.executed.count call = s.schedule.executed.count call
  output : t.output = s.output

namespace Session.Offers

variable {s t u : Session}

theorem refl (s : Session) : s.Offers s := ⟨rfl, rfl, rfl, rfl, fun _ _ _ => rfl, rfl⟩

theorem trans (h : s.Offers t) (k : t.Offers u) : s.Offers u :=
  ⟨k.drive.trans h.drive, k.disk.trans h.disk, k.layout.trans h.layout, k.faults.trans h.faults,
    fun call opening building =>
      (k.executed call opening building).trans (h.executed call opening building),
    k.output.trans h.output⟩

theorem journal (s : Session) (journal : List Record) : s.Offers { s with journal } :=
  ⟨rfl, rfl, rfl, rfl, fun _ _ _ => rfl, rfl⟩

theorem threshold (s : Session) (threshold : Nat) : s.Offers { s with threshold } :=
  ⟨rfl, rfl, rfl, rfl, fun _ _ _ => rfl, rfl⟩

instance : IsPreorder Session Session.Offers where
  refl := refl
  trans _ _ _ := trans

end Session.Offers

namespace Operation

theorem log_offers (level : Level) (message : String) :
    (log level message).Along Session.Offers := fun s => Ends.log fun journal => .journal s journal

/-- What is executed to open a client, faults and all, changes nothing that a client finds. -/
theorem perform_offers {call : Call} (opens : call.kind = .credentials ∨ call.kind = .build) :
    (perform call (pure .null)).Along Session.Offers := by
  intro s
  have called : s.Offers (s.called call) := by
    refine ⟨rfl, rfl, rfl, rfl, fun other opening building => ?_, rfl⟩
    refine List.count_cons_of_ne ?_
    obtain same | same := opens <;> rw [same]
    · exact opening.symm
    · exact building.symm
  have effect : (pure .null : Operation Json).Ends (s.called call) fun _ t => s.Offers t :=
    ends_pure.mpr called
  apply (Ends.perform_met effect).mono
  intro outcome t h
  split at h
  · exact h
  · cases h with
    | answered | raised => exact called
    | raisedLate _ effect => exact effect
    | failed effect => exact effect

/-- A call that no fault concerns has its effect. -/
theorem perform_spared {s : Session} {call : Call} (spared : s.schedule.Spares call.kind) :
    (perform call (pure .null)).Ends s fun outcome _ => outcome = .ok .null := by
  have effect : (pure .null : Operation Json).Ends (s.called call)
    fun outcome _ => outcome = .ok .null := rfl
  apply (Ends.perform_met effect).mono
  intro outcome t h
  rw [spared.next?] at h
  exact h

end Operation

namespace Settings

theorem fileVariables_offers (disk : Disk) : (fileVariables disk).Along Session.Offers := by
  refine (along_ofExcept _ _).bind fun found => Along.ite ?_ (along_pure _)
  refine (along_ofExcept _ _).bind fun content => ?_
  split
  · exact along_pure _
  · exact along_throw _

theorem completeToken_offers (settings : Settings) (environment : Environment) (disk : Disk) :
    (settings.completeToken environment disk).Along Session.Offers := by
  rw [completeToken]
  refine (along_pure _).ite ((along_ofExcept _ _).bind fun found => ?_)
  refine (along_pure _).ite ((along_ofExcept _ _).bind fun content => ?_)
  refine (along_ofExcept _ _).bind fun token => (along_pure _).ite ?_
  exact (log_offers _ _).bind fun _ => along_pure _

theorem read_offers (package : LocalPath) (environment : Environment) :
    (read package environment).Along Session.Offers := by
  refine along_disk.bind fun disk => (fileVariables_offers disk).bind fun stored => ?_
  refine (along_ofExcept _ _).bind fun settings => ?_
  refine Along.ite ((log_offers _ _).bind fun _ => ?_) ?_
  · exact completeToken_offers _ _ _
  · exact completeToken_offers _ _ _

end Settings

theorem Layout.load_offers (path : LocalPath) (rootPath : String) :
    (load path rootPath).Along Session.Offers := by
  refine along_disk.bind fun disk => (along_ofExcept _ _).bind fun found => ?_
  refine (along_pure _).ite ((along_ofExcept _ _).bind fun content => ?_)
  refine (along_ofExcept _ _).bind fun layout => (along_pure _).ite ?_
  exact (log_offers _ _).bind fun _ => along_pure _

theorem Repository.openClient_ends (client : Client) (refreshToken : String) (s : Session) :
    (openClient client refreshToken).Ends s fun outcome t => s.Offers t ∧
      (s.schedule.Spares .credentials → s.schedule.Spares .build → outcome = .ok ()) := by
  rw [openClient]
  refine Ends.onAnyError (P := fun outcome t => s.Offers t ∧
    (s.schedule.Spares .credentials → s.schedule.Spares .build → outcome = .ok ())) ?_
    (fun _ _ h => h) ?_ fun _ h => h
  · refine ((perform_offers (.inl rfl) s).and (Ends.run _ s)).bind ?_ ?_
    · rintro _ t ⟨first, _⟩
      refine ((perform_offers (.inr rfl) t).and (Ends.run _ t)).bind ?_ ?_
      · exact fun _ u h => ends_pure.mpr ⟨first.trans h.1, fun _ _ => rfl⟩
      · rintro failure u ⟨second, run⟩
        refine ⟨first.trans second, fun _ spared => ?_⟩
        have building : t.schedule.Spares .build := by
          intro fault member
          exact spared fault (first.faults ▸ member)
        cases (perform_spared building).of_eq run
    · rintro failure t ⟨first, run⟩
      refine ⟨first, fun spared _ => ?_⟩
      have opening : s.schedule.Spares (Call.credentials client refreshToken).kind := spared
      cases (perform_spared opening).of_eq run
  · rintro failure t ⟨opened, spared⟩
    refine Ends.log_bind fun journal => ends_throw.mpr ⟨opened.trans (.journal t journal), ?_⟩
    intro opening building
    cases spared opening building

/-- The disk after the log file was opened, if that is possible. -/
def Disk.opened (disk : Disk) (path : LocalPath) : Disk := (disk.touch path).toOption.getD disk

/-- Opening a file leaves all other places as they are, and puts no directory anywhere. -/
theorem Disk.touch_eq_ok {disk after : Disk} {path : LocalPath} (h : disk.touch path = .ok after) :
    ∃ place, disk.locate (absolute path) = .ok place ∧
      (after = disk ∨ disk.node? place = none ∧ after = disk.set place (.file [])) := by
  obtain ⟨place, located, h⟩ := eq_ok_of_bind (naming_eq_ok h)
  obtain ⟨_, _, h⟩ := eq_ok_of_bind h
  refine ⟨place, located, ?_⟩
  obtain rfl := Except.ok.inj h
  cases disk.node? place with
  | none => exact .inr ⟨rfl, rfl⟩
  | some node => exact .inl rfl

section
variable {disk : Disk} {path : LocalPath}

theorem Disk.node?_opened {place : Place} (elsewhere : disk.locate (absolute path) ≠ .ok place) :
    (disk.opened path).node? place = disk.node? place := by
  rw [opened]
  cases touched : disk.touch path with
  | error _ => rfl
  | ok after =>
    obtain ⟨there, located, rfl | ⟨missing, rfl⟩⟩ := touch_eq_ok touched
    · rfl
    · have other : disk.node? there ≠ some .directory := by simp [missing]
      refine (node?_set _ (ne_nil_of_node? other) place).trans (if_neg ?_)
      rintro rfl
      exact elsewhere located

theorem Disk.sameWays_opened : disk.SameWays (disk.opened path) := by
  rw [opened]
  cases touched : disk.touch path with
  | error _ => exact .refl disk
  | ok after =>
    obtain ⟨there, _, rfl | ⟨missing, rfl⟩⟩ := touch_eq_ok touched
    · exact .refl _
    · exact .set (by simp [missing]) []

theorem Disk.scratch_opened : (disk.opened path).scratch = disk.scratch := by
  rw [opened]
  cases touched : disk.touch path with
  | error _ => rfl
  | ok after =>
    obtain ⟨_, _, rfl | ⟨_, rfl⟩⟩ := touch_eq_ok touched <;> rfl

end

namespace Settings

/-- The journal can be set up: the level is one, and the path of the log file is a path. -/
structure Usable (settings : Settings) : Prop where
  level : (Level.threshold? (Text.uppercase settings.logLevel)).isSome
  path : Disk.refusal? (Disk.absolute settings.logFile) ≠ some .nullCharacter

end Settings

theorem Disk.touch_ne_nullCharacter {disk : Disk} {path : LocalPath} {fault : Fault}
    (usable : refusal? (absolute path) ≠ some .nullCharacter) (h : disk.touch path = .error fault) :
    fault.refusal ≠ .nullCharacter := by
  refine naming_ne_nullCharacter (bind_ne_nullCharacter ?_ fun place => ?_) h
  · exact fun null => usable ((locate_eq_nullCharacter disk _).mp null)
  · exact bind_ne_nullCharacter openAt_ne_nullCharacter fun _ => nofun

namespace Command

theorem setUpJournal_ends {settings : Settings} (usable : settings.Usable) (s : Session) :
    (setUpJournal settings).Ends s fun outcome t => outcome = .ok () ∧
      { s with disk := s.disk.opened settings.logFile : Session }.Offers t := by
  obtain ⟨threshold, known⟩ := Option.isSome_iff_exists.mp usable.level
  rw [setUpJournal]
  simp only [known]
  rw [ends_modify_bind]
  have opens : (do setDisk (← ofDisk ((← disk).touch settings.logFile)) : Operation Unit).Ends
      { s with threshold } fun outcome t =>
        { s with disk := s.disk.opened settings.logFile : Session }.Offers t ∧
          ∀ failure, outcome = .error failure → failure.isProvider = true := by
    rw [ends_disk_bind]
    refine Ends.ofExcept_bind ?_ ?_
    · intro after touched
      have same : after = s.disk.opened settings.logFile := by rw [Disk.opened, touched]; rfl
      exact ⟨⟨rfl, same, rfl, rfl, fun _ _ _ => rfl, rfl⟩, by rintro _ ⟨⟩⟩
    · intro fault touched
      have refused := Disk.touch_ne_nullCharacter usable.path touched
      have same : s.disk = s.disk.opened settings.logFile := by rw [Disk.opened, touched]; rfl
      refine ⟨⟨rfl, same, rfl, rfl, fun _ _ _ => rfl, rfl⟩, ?_⟩
      rintro _ ⟨⟩
      rw [Failure.ofDisk, if_neg refused]
      rfl
  refine opens.handleIf (fun _ _ h => ⟨rfl, h.1⟩) ?_ ?_
  · rintro failure t _ ⟨offers, _⟩
    exact Ends.log fun journal => ⟨rfl, offers.trans (.journal t journal)⟩
  · rintro failure t other ⟨_, provider⟩
    cases (provider failure rfl).symm.trans other

/-- How the program ends with what a command has come to. What the storage reports is told, and so
is a bad value; all else leaves the program. -/
def report : Except Failure Unit → Except Failure Status
  | .ok () => .ok .success
  | .error failure =>
    if failure.isStorage || failure.isBadValue then .ok .failed else .error failure

inductive Reported (command : Command) (s : Session) : Except Failure Status → Session → Prop
  | of_run {result : Except Failure Unit} {ended : Session} {journal : List Record}
      (run : runOn command.operate s = (result, ended)) :
      Reported command s (report result) { ended with journal }

/-- The command has come to a result in a session that offers what `s` does, that is reported, and
the layout is written to the place; unless it does not come to an end. -/
inductive Carried (command : Command) (place : Place) (s : Session) :
    Except Failure Status → Session → Prop
  | of_run {begun ended : Session} {result : Except Failure Unit} {journal : List Record}
      (offers : s.Offers begun) (run : runOn command.operate begun = (result, ended)) :
      Carried command place s (report result)
        { ended with
          journal
          disk := ended.disk.set place (.file (Text.Utf8.encode ended.layout.text)) }
  | endless {begun ended t : Session} (offers : s.Offers begun)
      (run : runOn command.operate begun = (.error .endless, ended)) :
      Carried command place s (.error .endless) t

theorem report_eq_endless {result : Except Failure Unit}
    (h : report result = .error .endless) : result = .error .endless := by
  cases result with
  | ok => cases h
  | error failure =>
    rw [report] at h
    split at h
    · cases h
    · rw [Except.error.inj h]

section
variable {settings : Settings} {refreshToken : String} {command : Command} {layout : Layout}
variable {s : Session} {place : Place}

theorem reported_ends (command : Command) (s : Session) :
    (handleIf (fun failure => failure.isStorage || failure.isBadValue)
      (do
        command.operate
        return Status.success)
      fun failure => do
        error s!"Command '{command.word}' failed. Error: {failure.message}"
        return .failed).Ends s (Reported command s) := by
  have operated : (do command.operate; return Status.success).Ends s fun outcome t =>
      ∃ result, runOn command.operate s = (result, t) ∧
        outcome = result.map fun _ => Status.success :=
    (Ends.run command.operate s).bind (fun _ _ run => ⟨_, run, rfl⟩) fun _ _ run => ⟨_, run, rfl⟩
  refine operated.handleIf ?_ ?_ ?_
  · rintro status t ⟨result, run, told⟩
    cases result with
    | error => cases told
    | ok => exact told ▸ .of_run run
  · rintro failure t reported ⟨result, run, told⟩
    cases result with
    | error =>
      obtain rfl := Except.error.inj told
      have failed : Except.ok Status.failed = report (.error failure) := by
        rw [report, if_pos reported]
      exact Ends.log_bind fun journal => ends_pure.mpr (failed ▸ .of_run run)
    | ok => cases told
  · rintro failure t unreported ⟨result, run, told⟩
    cases result with
    | error =>
      obtain rfl := Except.error.inj told
      have left : .error failure = report (.error failure) := by
        rw [report, if_neg (by simp [unreported])]
      exact left ▸ .of_run run
    | ok => cases told

theorem carried_ends (located : s.disk.locate settings.layoutFile = .ok place)
    (file : s.disk.node? place ≠ some .directory) (clear : s.disk.Clear place) :
    (ensuring
      (handleIf (fun failure => failure.isStorage || failure.isBadValue)
        (do
          command.operate
          return Status.success)
        fun failure => do
          error s!"Command '{command.word}' failed. Error: {failure.message}"
          return .failed)
      (do (← Operation.layout).save settings.layoutFile)).Ends s (Carried command place s) := by
  refine (reported_ends command s).ensuring (fun outcome t h => ?_) fun t h => ?_
  case refine_2 =>
    generalize told : (Except.error .endless : Except Failure Status) = outcome at h
    cases h with
    | of_run run =>
      rw [report_eq_endless told.symm] at run
      rw [report_eq_endless told.symm]
      exact .endless (.refl s) run
  cases h with
  | @of_run result ended journal run =>
    have same := (command.operate_sameWays s).of_eq run
    have saved := @Layout.runOn_save ended.layout settings.layoutFile place { ended with journal }
      ((same.locate_iff _ _).mpr located) (mt (same.directories place).mp file)
      (clear.of_barriers same.barriers)
    rw [ends_layout_bind, Ends, saved]
    exact @Carried.of_run command place s s ended result journal (.refl s) run

theorem Carried.of_offers {outcome : Except Failure Status} {t u : Session}
    (carried : Carried command place t outcome u) (offers : s.Offers t) :
    Carried command place s outcome u := by
  cases carried with
  | of_run offers' run => exact .of_run (offers.trans offers') run
  | endless offers' run => exact .endless (offers.trans offers') run

/-- A run of the program after the journal is set up. It fails before its command only where the
client cannot be opened. -/
theorem operateOn_ends
    (loads : (runOn (Layout.load settings.layoutFile settings.rootPath) s).1 = .ok layout)
    (located : s.disk.locate settings.layoutFile = .ok place)
    (file : s.disk.node? place ≠ some .directory) (clear : s.disk.Clear place) :
    (operateOn settings refreshToken command).Ends s fun outcome t =>
      (outcome = .ok .failed ∧ ¬ (s.schedule.Spares .credentials ∧ s.schedule.Spares .build)) ∨
      Carried command place { s with layout } outcome t := by
  rw [operateOn]
  refine ((Layout.load_offers _ _ s).and (Ends.run _ s)).bind ?_ ?_
  · rintro found t ⟨taken, run⟩
    rw [run] at loads
    obtain rfl := Except.ok.inj loads
    rw [setLayout, ends_modify_bind]
    have offers : { s with layout := found : Session }.Offers { t with layout := found } :=
      { taken with layout := rfl }
    let Opened (outcome : Except Failure Unit) (u : Session) : Prop :=
      { t with layout := found : Session }.Offers u ∧
        (t.schedule.Spares .credentials → t.schedule.Spares .build → outcome = .ok ())
    have opened := Repository.openClient_ends settings.client refreshToken { t with layout := found }
    have ended :=
      Repository.terminates_openClient settings.client refreshToken { t with layout := found }
    have tried := (opened.and ended).attempt
      (R := fun result u => ∃ outcome, result = .ok outcome ∧ Opened outcome u)
      (fun outcome u h => ⟨outcome, rfl, h.1⟩) fun u h => absurd rfl (h.2 _ rfl)
    refine tried.bind ?_ (by rintro _ _ ⟨_, ⟨⟩, _⟩)
    rintro _ u ⟨failure | ⟨⟩, ⟨⟩, opened⟩
    · refine Ends.log_bind (R := fun outcome v => _ ∨ Carried _ _ _ outcome v) fun journal => ?_
      refine .inl ⟨rfl, ?_⟩
      rintro ⟨opening, building⟩
      have spared (call : CallKind) (h : s.schedule.Spares call) : t.schedule.Spares call := by
        intro fault member
        exact h fault (taken.faults ▸ member)
      cases opened.2 (spared _ opening) (spared _ building)
    · have offers := offers.trans opened.1
      have below : u.disk = s.disk := offers.disk
      have carried := @carried_ends settings command u place (below ▸ located) (below ▸ file)
        (below ▸ clear)
      exact .inr (carried.of_offers offers)
  · rintro failure t ⟨_, run⟩
    rw [run] at loads
    cases loads

/-- A run of the program comes to its command with the journal set up. -/
theorem run_begins {package : LocalPath} {arguments : List String} {environment : Environment}
    {input : String}
    (parsed : ofArguments? arguments = some command)
    (read : (runOn (Settings.read package environment) { s with threshold := 0 }).1 = .ok settings)
    (usable : settings.Usable) {Q : Except Failure Status → Session → Prop}
    (rest : ∀ t, { s with disk := s.disk.opened settings.logFile : Session }.Offers t →
      (runWith settings input command).Ends t Q) :
    (run package arguments environment input).Ends s Q := by
  rw [run, parsed]
  dsimp only
  rw [ends_modify_bind]
  refine ((Settings.read_offers package environment _).and (Ends.run _ _)).bind ?_ ?_
  · rintro found t ⟨offers, run⟩
    rw [run] at read
    obtain rfl := Except.ok.inj read
    have offers := (Session.Offers.threshold s 0).trans offers
    refine (setUpJournal_ends usable t).bind ?_ (by rintro _ _ ⟨⟨⟩, _⟩)
    rintro ⟨⟩ u ⟨_, opened⟩
    refine rest u (Session.Offers.trans ?_ opened)
    exact { offers with disk := congrArg (Disk.opened · found.logFile) offers.disk }
  · rintro failure t ⟨_, run⟩
    rw [run] at read
    cases read

/-- A whole run of the program, for a command that needs a client. -/
theorem run_ends {package : LocalPath} {arguments : List String} {environment : Environment}
    {input : String}
    (parsed : ofArguments? arguments = some command) (other : command ≠ .auth)
    (read : (runOn (Settings.read package environment) { s with threshold := 0 }).1 = .ok settings)
    (usable : settings.Usable) (token : settings.refreshToken = some refreshToken)
    (given : refreshToken ≠ "")
    (loads : ∀ t : Session, t.disk = s.disk.opened settings.logFile →
      (runOn (Layout.load settings.layoutFile settings.rootPath) t).1 = .ok layout)
    (located : (s.disk.opened settings.logFile).locate settings.layoutFile = .ok place)
    (file : (s.disk.opened settings.logFile).node? place ≠ some .directory)
    (clear : s.disk.Clear place) :
    (run package arguments environment input).Ends s fun outcome t =>
      outcome = .ok .failed ∧ ¬ (s.schedule.Spares .credentials ∧ s.schedule.Spares .build) ∨
      Carried command place { s with disk := s.disk.opened settings.logFile, layout } outcome
        t := by
  refine run_begins parsed read usable fun t offers => ?_
  have same : s.disk.SameWays (s.disk.opened settings.logFile) := Disk.sameWays_opened
  have clear := clear.of_barriers same.barriers
  have operated := @operateOn_ends settings refreshToken command layout t place
    (loads t offers.disk) (offers.disk ▸ located) (offers.disk ▸ file) (offers.disk ▸ clear)
  have runs : runWith settings input command = operateOn settings refreshToken command := by
    cases command with
    | auth => exact absurd rfl other
    | _ => simp only [runWith, token]
  rw [runs]
  have reached : { s with disk := s.disk.opened settings.logFile, layout : Session }.Offers
      { t with layout } := { offers with layout := rfl }
  refine operated.mono fun outcome u h => h.imp ?_ fun carried => carried.of_offers reached
  refine And.imp_right fun spoiled spared => spoiled ?_
  rw [Schedule.Spares, Schedule.Spares, offers.faults]
  exact spared

end

end Command

end DriveDepot
