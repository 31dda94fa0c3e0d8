import DriveDepot.Proofs.Guarded
import DriveDepot.Proofs.Program
import DriveDepot.Proofs.Savable

/-!
Runs of the program, one after the other. Each is a process of its own: of what was in memory
nothing is left to the next, and the layout goes from one to the other through its file. What the
commands come to is the same as for one client that is kept in memory and carries them all out.
-/

namespace DriveDepot

open Operation

/-- A new process finds the drive, the disk, the faults and the terminal as they were left. Whatever
else there was may be anything. -/
structure Session.Restarts (s process : Session) : Prop where
  drive : process.drive = s.drive
  disk : process.disk = s.disk
  schedule : process.schedule = s.schedule
  output : process.output = s.output

/-- The files that the program itself reads or writes. -/
def Settings.ownFiles (settings : Settings) : List LocalPath :=
  [Settings.variableFile, settings.tokenFile, settings.layoutFile, Disk.absolute settings.logFile]

/-- One of the program's own files is at the place. -/
def Settings.Owns (settings : Settings) (disk : Disk) (place : Place) : Prop :=
  ∃ path ∈ settings.ownFiles, disk.locate path = .ok place

namespace Command

/-- Runs of the program for some commands, each in a new process that reads these settings. Each
comes to an end, as the next one begins after it. -/
inductive Runs (settings : Settings) :
    Session → List Command → List (Except Failure Status) → Session → Prop
  | none (s : Session) : Runs settings s [] [] s
  | more {s process t u : Session} {package : LocalPath} {arguments : List String}
      {environment : Environment} {input : String} {command : Command} {commands : List Command}
      {outcome : Except Failure Status} {outcomes : List (Except Failure Status)}
      (restarts : s.Restarts process) (parsed : ofArguments? arguments = some command)
      (other : command ≠ .auth)
      (read : (runOn (Settings.read package environment) { process with threshold := 0 }).1 =
        .ok settings)
      (ran : runOn (run package arguments environment input) process = (outcome, t))
      (returned : outcome ≠ .error .endless) (later : Runs settings t commands outcomes u) :
      Runs settings s (command :: commands) (outcome :: outcomes) u

/-- One client, which begins with a fresh layout, carries out the commands in order. What one of
them comes to does not keep it from the next. -/
def operateEach (settings : Settings) (refreshToken : String) (commands : List Command) :
    Operation (List (Except Failure Unit)) := do
  setLayout (.fresh settings.rootPath)
  Repository.openClient settings.client refreshToken
  commands.mapM fun command => attempt command.operate

/-- The settings are valid, and on the disk the layout file can be written and read, at the place. It
is not the log file. -/
structure Launches (settings : Settings) (refreshToken : String) (disk : Disk) (place : Place) :
    Prop where
  usable : settings.Usable
  token : settings.refreshToken = some refreshToken
  given : refreshToken ≠ ""
  located : disk.locate settings.layoutFile = .ok place
  file : disk.node? place ≠ some .directory
  clear : disk.Clear place
  apart : disk.locate (Disk.absolute settings.logFile) ≠ .ok place

/-- The program has come to the session `s` and a client that is kept in memory to `t`. The disks
differ only in own files of the program, and the layout file holds the client's layout. -/
structure Mirrors (settings : Settings) (ground : Disk) (place : Place) (s t : Session) :
    Prop where
  drive : t.drive = s.drive
  executed : ∀ call, call ≠ .credentials → call ≠ .build →
    t.schedule.executed.count call = s.schedule.executed.count call
  output : t.output = s.output
  disk : Disk.Twins (settings.Owns ground) s.disk s.disk t.disk
  ways : ground.SameWays s.disk
  savable : t.Savable settings.rootPath s.schedule.faults
  held : s.disk.node? place = some (.file (Text.Utf8.encode t.layout.text)) ∨
    s.disk.node? place = none ∧ t.layout = .fresh settings.rootPath

/-- What the file system says is told in a report only, so that its words do not matter to how the
program ends. What keeps a temporary file where it is has the same words for both. -/
theorem report_eq_of_alike {command : Command} {hidden : Place → Prop} {ground : Disk}
    {result other : Except Failure Unit} {t u : Session} (alike : Alike result other)
    (disks : Disk.Twins hidden ground t.disk u.disk)
    (left : ∀ failure, result = .error failure →
      failure.isProvider = false ∨ command.Stuck t failure)
    (right : ∀ failure, other = .error failure →
      failure.isProvider = false ∨ command.Stuck u failure) : report result = report other := by
  cases alike with
  | ok => rfl
  | error alike =>
    obtain guarded | ⟨file, target, told, fault, refused, rfl⟩ := left _ rfl
    · obtain rfl | ⟨storage, storage'⟩ := alike.eq_or_isStorage guarded
      · rfl
      · rw [report, report, if_pos (by simp [storage]), if_pos (by simp [storage'])]
    · have raw : (Failure.ofDisk fault).isProvider = true := by
        rw [Failure.ofDisk, if_neg (Disk.unlink_ne_nullCharacter refused)]
        rfl
      obtain guarded | ⟨file', target', told', fault', refused', rfl⟩ := right _ rfl
      · rw [← alike.isProvider, raw] at guarded
        cases guarded
      · obtain ⟨rfl, rfl⟩ : file = file' ∧ target = target' := by simpa using told.symm.trans told'
        obtain ⟨same, x, y⟩ | ⟨_, _, removed, _⟩ := disks.unlink target
        · cases refused.symm.trans x
          cases refused'.symm.trans y
          rfl
        · cases refused.symm.trans removed

section
variable {settings : Settings} {refreshToken : String} {ground : Disk} {place : Place}
variable {s t : Session}

namespace Mirrors

/-- Whoever loads the layout gets that of the client. -/
theorem load (h : Mirrors settings ground place s t) {process : Session}
    (located : process.disk.locate settings.layoutFile = .ok place)
    (readable : process.disk.obstacle? .read place = none)
    (same : process.disk.node? place = s.disk.node? place) :
    runOn (Layout.load settings.layoutFile settings.rootPath) process =
      (.ok t.layout, process) := by
  obtain held | ⟨absent, fresh⟩ := h.held
  · have read := Disk.readAt_of_file located (same.trans held) readable
    exact (Layout.runOn_load_of_held read h.savable.plain.ofBytes _).trans
      (if_pos h.savable.rootPath)
  · rw [fresh]
    exact Layout.runOn_load_of_absent (Disk.isFile_of_missing located (same.trans absent)) _

/-- The program begins its command with what the client goes on with. -/
theorem begins (h : Mirrors settings ground place s t) {process begun : Session}
    (restarts : s.Restarts process)
    (offers : Session.Offers { process with
      disk := process.disk.opened settings.logFile, layout := t.layout } begun) :
    begun.Twins (settings.Owns ground) begun.disk t := by
  have disk : begun.disk = s.disk.opened settings.logFile := by
    rw [← restarts.disk]
    exact offers.disk
  constructor
  · rw [h.drive, offers.drive, ← restarts.drive]
  · exact offers.layout.symm
  · rw [h.savable.faults, offers.faults, ← restarts.schedule]
  · intro call opening building
    rw [h.executed call opening building, ← restarts.schedule]
    exact (offers.executed call opening building).symm
  · rw [h.output, ← restarts.output]
    exact offers.output.symm
  · constructor
    · rw [disk, Disk.scratch_opened]
      exact h.disk.scratch
    · intro p shown
      rw [disk, Disk.node?_opened, h.disk.shared p shown]
      intro opened
      have opened := (h.ways.locate_iff _ _).mp opened
      exact shown ⟨_, by simp [Settings.ownFiles], opened⟩
    · exact fun _ _ => rfl
    · exact .refl _
    · rw [disk]
      exact Disk.sameWays_opened.symm.trans h.disk.right

/-- Once the program has come to its command, the client comes to the same by carrying it out. -/
theorem carried (h : Mirrors settings ground place s t)
    (launches : Launches settings refreshToken ground place) {process : Session}
    (restarts : s.Restarts process) {command : Command}
    (shown : ∀ path ∈ command.localPaths, ground.Shows (settings.Owns ground) path)
    {outcome : Except Failure Status} {u : Session} (returned : outcome ≠ .error .endless)
    (carried : Carried command place { process with
      disk := process.disk.opened settings.logFile, layout := t.layout } outcome u) :
    ∃ result v, runOn command.operate t = (result, v) ∧ outcome = report result ∧
      Mirrors settings ground place u v ∧ u.layout = v.layout ∧
      u.schedule.faults = s.schedule.faults := by
  cases carried with
  | endless => exact absurd rfl returned
  | @of_run begun ended result journal offers ran =>
    have same : ground.SameWays begun.disk := by
      rw [offers.disk, restarts.disk]
      exact h.ways.trans Disk.sameWays_opened
    have shown (path : LocalPath) (member : path ∈ command.localPaths) :
        begun.disk.Shows (settings.Owns ground) path := fun p found =>
      shown path member p ((same.locate_iff _ _).mp found)
    obtain ⟨_, _, result', v, ran', kept, alike, after⟩ :=
      (command.inStep_operate shown).run (h.begins restarts offers)
    cases ran.symm.trans ran'
    have savable := (command.keeps_operate t h.savable).of_eq kept
    have faults : ended.schedule.faults = s.schedule.faults :=
      after.faults.symm.trans savable.faults
    have stay := same.trans after.disk.left
    have file := mt (stay.directories place).mp launches.file
    have set : ended.disk.SameWays _ := .set file (Text.Utf8.encode ended.layout.text)
    have reported := report_eq_of_alike alike after.disk ((command.operate_lets_out begun).of_eq ran)
      ((command.operate_lets_out t).of_eq kept)
    refine ⟨result', v, kept, reported, ?_, after.layout.symm, faults⟩
    constructor
    · exact after.drive
    · exact after.executed
    · exact after.output
    · constructor
      · exact after.disk.scratch
      · intro p shown
        rw [Disk.node?_set _ (Disk.ne_nil_of_node? file), if_neg, after.disk.shared p shown]
        rintro rfl
        exact shown ⟨_, by simp [Settings.ownFiles], launches.located⟩
      · exact fun _ _ => rfl
      · exact .refl _
      · exact set.symm.trans (after.disk.left.symm.trans after.disk.right)
    · exact stay.trans set
    · exact faults ▸ savable
    · left
      rw [after.layout]
      exact Disk.node?_set_self file _

/-- One more command: the program runs once more, and the client carries the command out. -/
theorem step (h : Mirrors settings ground place s t)
    (launches : Launches settings refreshToken ground place)
    (opening : s.schedule.Spares .credentials) (building : s.schedule.Spares .build)
    {process : Session} (restarts : s.Restarts process) {package : LocalPath}
    {arguments : List String} {command : Command} (parsed : ofArguments? arguments = some command)
    (other : command ≠ .auth)
    (shown : ∀ path ∈ command.localPaths, ground.Shows (settings.Owns ground) path)
    {environment : Environment}
    (read : (runOn (Settings.read package environment) { process with threshold := 0 }).1 = .ok settings)
    (input : String) :
    (run package arguments environment input).Ends process fun outcome u => outcome ≠ .error .endless →
      ∃ result v, runOn command.operate t = (result, v) ∧ outcome = report result ∧
        Mirrors settings ground place u v ∧ u.layout = v.layout ∧
        u.schedule.faults = s.schedule.faults := by
  have opened : ground.SameWays (s.disk.opened settings.logFile) :=
    h.ways.trans Disk.sameWays_opened
  have located := (opened.locate_iff _ _).mpr launches.located
  have file := mt (opened.directories place).mp launches.file
  have clear := launches.clear.of_barriers h.ways.barriers
  have readable : (s.disk.opened settings.logFile).obstacle? .read place = none :=
    (launches.clear.of_barriers opened.barriers).file rfl
  have apart := mt (h.ways.locate_iff _ _).mp launches.apart
  have loads (u : Session) (there : u.disk = process.disk.opened settings.logFile) :
      (runOn (Layout.load settings.layoutFile settings.rootPath) u).1 = .ok t.layout := by
    rw [restarts.disk] at there
    rw [h.load (there ▸ located) (there ▸ readable) (there ▸ Disk.node?_opened apart)]
  rw [← restarts.disk] at located file clear
  apply (run_ends parsed other read launches.usable launches.token launches.given loads located
    file clear).mono
  rintro outcome u (⟨_, spoiled⟩ | carried) returned
  · rw [restarts.schedule] at spoiled
    exact absurd ⟨opening, building⟩ spoiled
  · exact h.carried launches restarts shown returned carried

end Mirrors

/-- Any number of commands more. -/
theorem Runs.mirrors {commands : List Command} {outcomes : List (Except Failure Status)}
    {u : Session} (runs : Runs settings s commands outcomes u)
    (h : Mirrors settings ground place s t)
    (launches : Launches settings refreshToken ground place)
    (opening : s.schedule.Spares .credentials) (building : s.schedule.Spares .build)
    (shown : ∀ command ∈ commands, ∀ path ∈ command.localPaths,
      ground.Shows (settings.Owns ground) path) :
    (commands.mapM fun command => attempt command.operate).Ends t fun kept v =>
      ∃ results, kept = .ok results ∧ outcomes = results.map report ∧
        Mirrors settings ground place u v ∧
        (s.layout = t.layout ∨ commands ≠ [] → u.layout = v.layout) := by
  induction runs generalizing t with
  | none s => exact ends_pure.mpr ⟨[], rfl, rfl, h, fun same => same.resolve_right (absurd rfl)⟩
  | @more s process u w package arguments environment input command commands outcome outcomes restarts
      parsed other read ran returned later ih =>
    have one := (h.step launches opening building restarts parsed other
      (shown command List.mem_cons_self) read input).of_eq ran returned
    obtain ⟨result, v, kept, rfl, mirrors, layout, faults⟩ := one
    have spared (call : CallKind) (spared : s.schedule.Spares call) : u.schedule.Spares call := by
      rw [Schedule.Spares, faults]
      exact spared
    have more := ih mirrors (spared _ opening) (spared _ building)
      fun command member => shown command (List.mem_cons_of_mem _ member)
    have first : (attempt command.operate).Ends t fun outcome n =>
        outcome = .ok result ∧ n = v := by
      rw [Ends, runOn_attempt, kept]
      rcases result with (_ | _) | _
      · exact ⟨rfl, rfl⟩
      · exact absurd rfl returned
      · exact ⟨rfl, rfl⟩
    rw [List.mapM_cons]
    refine first.bind ?_ (by rintro _ _ ⟨⟨⟩, _⟩)
    rintro _ _ ⟨⟨⟩, rfl⟩
    refine more.bind ?_ ?_
    · rintro _ n ⟨_, ⟨⟩, rfl, mirrors', layout'⟩
      exact ends_pure.mpr ⟨_, rfl, rfl, mirrors', fun _ => layout' (.inl layout)⟩
    · rintro failure n ⟨_, failed, _⟩
      cases failed

/-- However often the program is run, what its commands come to is what they come to for one client
that is kept in memory. The drive and the files in use are the same, the same was printed, and the
layout file gives the layout of that client to whoever loads it next. -/
theorem runs_as_one_client {settings : Settings} {refreshToken : String} {place : Place}
    {start s : Session} {commands : List Command} {outcomes : List (Except Failure Status)}
    (runs : Runs settings start commands outcomes s) (raising : start.schedule.Raising)
    (opening : start.schedule.Spares .credentials) (building : start.schedule.Spares .build)
    (launches : Launches settings refreshToken start.disk place)
    (absent : start.disk.node? place = none)
    (shown : ∀ command ∈ commands, ∀ path ∈ command.localPaths,
      start.disk.Shows (settings.Owns start.disk) path) :
    (operateEach settings refreshToken commands).Ends start fun kept client =>
      ∃ results, kept = .ok results ∧ outcomes = results.map report ∧
        s.drive = client.drive ∧ s.output = client.output ∧
        (∀ p, ¬ settings.Owns start.disk p → s.disk.node? p = client.disk.node? p) ∧
        (commands ≠ [] → s.layout = client.layout) ∧
        ∀ process, s.Restarts process →
          runOn (Layout.load settings.layoutFile settings.rootPath) process =
            (.ok client.layout, process) := by
  rw [operateEach, setLayout, ends_modify_bind]
  let fresh : Session := { start with layout := .fresh settings.rootPath }
  have opened := Repository.openClient_ends settings.client refreshToken fresh
  refine opened.bind ?_ ?_
  case refine_2 =>
    rintro failure t ⟨_, spared⟩
    cases spared opening building
  rintro ⟨⟩ t ⟨offers, _⟩
  have mirrors : Mirrors settings start.disk place start t := by
    refine ⟨offers.drive, offers.executed, offers.output, ?_, .refl _, ?_,
      .inr ⟨absent, offers.layout⟩⟩
    · rw [offers.disk]
      exact .self start.disk
    · refine ⟨offers.faults, raising.of_faults offers.faults, ?_, ?_⟩
      · rw [offers.layout]
        exact Layout.plain_fresh settings.rootPath
      · rw [offers.layout]
        rfl
  apply (runs.mirrors mirrors launches opening building shown).mono
  rintro kept client ⟨results, ended, told, mirrors', layout⟩
  refine ⟨results, ended, told, mirrors'.drive.symm, mirrors'.output.symm, ?_, ?_, ?_⟩
  · exact fun p shown => (mirrors'.disk.shared p shown).symm
  · exact fun some_command => layout (.inr some_command)
  · intro process restarts
    have clear := launches.clear.of_barriers mirrors'.ways.barriers
    have located := (mirrors'.ways.locate_iff _ _).mpr launches.located
    rw [← restarts.disk] at clear located
    exact mirrors'.load located (clear.file rfl) (by rw [restarts.disk])

end

/-- The directory of the program, in which it is also run. -/
def homePackage : LocalPath := .ofString "/local"

/-- The variables that a user sets, and the one for the layout file. -/
def homeEnvironment (layoutFile : String) : Environment :=
  [("GDRIVE_CLIENT_ID", "id"), ("GDRIVE_CLIENT_SECRET", "secret"),
   ("GDRIVE_REFRESH_TOKEN", "token"), ("GDRIVE_ROOT_PATH", "repo"), ("LAYOUT_FILE", layoutFile)]

def homeSettings (layoutFile : String) : Settings :=
  ⟨"id", "secret", some "token", "repo", homePackage, ".gdrive.token", layoutFile, "INFO"⟩

/-- A file to be uploaded to a drive that is empty. A fault is due at the first upload. -/
def home : Session :=
  ⟨⟨[], 0, none, 2, .object []⟩,
    .ofFaults [⟨.insert, some 1, true, .raises (.provider (.http 500 "boom"))⟩],
    Disk.empty.set ["local", "data"] (.file [1, 2, 3]), .fresh "", ⟨"", none⟩, none, [], [], 0, ""⟩

/-- The program at home, with these arguments. -/
def runHome (layoutFile : String) (arguments : List String) :
    Except Failure Status × Session :=
  (run homePackage arguments (homeEnvironment layoutFile) "").runOn home

def uploadHome : Command := .upload (.ofString "data") ⟨some .generic, some "x"⟩

/-- The same home with a fault at the second of the folders that are made. -/
def newHome : Session :=
  { home with
    schedule := .ofFaults [⟨.insert, some 2, true, .raises (.provider (.http 500 "boom"))⟩] }

/-- A new process after `s`, to which nothing is left in memory. -/
def restarted (s : Session) : Session :=
  { home with drive := s.drive, disk := s.disk, schedule := s.schedule, output := s.output }

def runAgain (s : Session) (arguments : List String) : Except Failure Status × Session :=
  (run homePackage arguments (homeEnvironment "layout") "").runOn (restarted s)

def startedHome : Session := (runAgain newHome ["init", "--create"]).2
def uploadedHome : Session := (runAgain startedHome ["upload", "data", "generic", "x"]).2

/-- The first run is interrupted and keeps the root folder that it has made. The second one loads
its id and uploads a file into it. -/
theorem runs_as_one_client_uploadedHome :
    startedHome.layout.rootId.text? = some "new1" ∧ newHome.layout.rootId.text? = none ∧
      Runs (homeSettings "layout") newHome [.init true, uploadHome] [.ok .failed, .ok .success]
        uploadedHome ∧
      Launches (homeSettings "layout") "token" newHome.disk ["local", "layout"] ∧
      (operateEach (homeSettings "layout") "token" [.init true, uploadHome]).Ends newHome
        fun _ client => uploadedHome.drive = client.drive ∧ uploadedHome.layout = client.layout ∧
          runOn (Layout.load (homeSettings "layout").layoutFile "repo") uploadedHome =
            (.ok client.layout, uploadedHome) := by
  have runs : Runs (homeSettings "layout") newHome [.init true, uploadHome]
      [.ok .failed, .ok .success] uploadedHome := by
    have restarts (s : Session) : s.Restarts (restarted s) := ⟨rfl, rfl, rfl, rfl⟩
    have first : runOn (run homePackage ["init", "--create"] (homeEnvironment "layout") "")
        (restarted newHome) = (.ok .failed, startedHome) := by
      refine Prod.ext (by decide +kernel) ?_
      rw [startedHome, runAgain]
    have second : runOn (run homePackage ["upload", "data", "generic", "x"]
        (homeEnvironment "layout") "") (restarted startedHome) = (.ok .success, uploadedHome) := by
      refine Prod.ext (by decide +kernel) ?_
      rw [uploadedHome, runAgain]
    refine .more (restarts _) (by decide +kernel) (by decide) ?_ first nofun ?_
    · decide +kernel
    refine .more (restarts _) (by decide +kernel) (by decide) ?_ second nofun (.none _)
    decide +kernel
  have launches : Launches (homeSettings "layout") "token" newHome.disk ["local", "layout"] :=
    ⟨⟨by decide +kernel, by decide +kernel⟩, rfl, by decide, by decide +kernel, by decide +kernel,
      by decide +kernel, by decide +kernel⟩
  have shown : ∀ command ∈ [.init true, uploadHome], ∀ path ∈ command.localPaths,
      newHome.disk.Shows ((homeSettings "layout").Owns newHome.disk) path := by
    have apart : ∀ path ∈ (homeSettings "layout").ownFiles,
        newHome.disk.locate path ≠ newHome.disk.locate (.ofString "data") := by decide +kernel
    simp only [List.forall_mem_cons, uploadHome, localPaths]
    refine ⟨by simp, ⟨?_, by simp⟩, by simp⟩
    rintro place leads ⟨path, own, same⟩
    exact apart path own (same.trans leads.symm)
  refine ⟨by decide +kernel, by decide +kernel, runs, launches, ?_⟩
  have main := runs_as_one_client runs (.of_reasons [] (by decide)) (by decide) (by decide) launches
    (by decide +kernel) shown
  refine main.mono ?_
  rintro kept client ⟨_, _, _, drive, _, _, layout, loads⟩
  exact ⟨drive, layout (List.cons_ne_nil _ _), loads uploadedHome ⟨rfl, rfl, rfl, rfl⟩⟩

/-- Where the log file is to be the layout file as well, the program opens it and then finds no
layout in it, which ends every run; a client in memory carries the command out. -/
theorem log_file_holds_no_layout :
    (homeSettings "app.log").Usable ∧
      home.disk.locate (homeSettings "app.log").layoutFile = .ok ["local", "app.log"] ∧
      home.disk.node? ["local", "app.log"] = none ∧
      Runs (homeSettings "app.log") home [.list .content]
        [.error (.ofMishap (.unreadableJson .malformed))]
        (runHome "app.log" ["ls", "content"]).2 ∧
      (operateEach (homeSettings "app.log") "token" [.list .content]).Ends home
        fun kept _ => kept = .ok [.ok ()] := by
  have run : runOn (run homePackage ["ls", "content"] (homeEnvironment "app.log") "") home =
      (.error (.ofMishap (.unreadableJson .malformed)),
        (runHome "app.log" ["ls", "content"]).2) := by
    refine Prod.ext (by decide +kernel) ?_
    rw [runHome]
  refine ⟨⟨by decide +kernel, by decide +kernel⟩, by decide +kernel, by decide +kernel, ?_, ?_⟩
  · refine .more ⟨rfl, rfl, rfl, rfl⟩ (by decide +kernel) (by decide) ?_ run nofun (.none _)
    decide +kernel
  · rw [Ends]
    decide +kernel

end Command

end DriveDepot
