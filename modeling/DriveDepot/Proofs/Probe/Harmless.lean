import DriveDepot.Proofs.Along.Listings
import DriveDepot.Proofs.Creation
import DriveDepot.Proofs.Delete.Interrupted
import DriveDepot.Proofs.Ending
import DriveDepot.Proofs.Reports
import DriveDepot.Proofs.Upload

namespace DriveDepot.Repository

open Operation

variable {s : Session}

theorem request_keeps_disk (request : Request) :
    (Operation.request request).Along (Session.Keeps (·.disk)) :=
  fun s => (request_asks request s).mono fun _ _ asked => asked.disk

theorem listable_disk : Listable (Session.Keeps (·.disk)) :=
  .keeps (fun _ _ => rfl) fun _ _ _ asked _ => asked.disk

theorem targetExists_keeps_disk : targetExists.Along (Session.Keeps (·.disk)) :=
  along_targetExists listable_disk fun _ _ => rfl

theorem delete_keeps_disk (id : Json) : (delete id).Along (Session.Keeps (·.disk)) :=
  along_delete request_keeps_disk id

theorem targetCanCreate_keeps_disk : targetCanCreate.Along (Session.Keeps (·.disk)) :=
  along_targetCanCreate listable_disk (fun _ _ => rfl) request_keeps_disk

/-- The temporary file is gone whether or not it could be put on the drive. -/
theorem targetCanWrite_disk (s : Session) :
    targetCanWrite.Ends s fun _ t => t.disk = s.disk ∨ t.disk = s.disk.discard := by
  rw [targetCanWrite, probe]
  refine Ends.onAnyError (P := fun _ t => t.disk = s.disk ∨ t.disk = s.disk.discard) ?_
    (fun _ _ h => h) (fun _ _ h => Ends.log_bind fun _ => h) fun _ h => h
  refine (targetExists_keeps_disk s).bind ?_ fun _ _ same => .inl same
  intro found t same
  split
  · exact Ends.log_bind fun _ => .inl same
  · rw [ends_disk_bind, setDisk, ends_modify_bind]
    refine Ends.bind (P := fun _ u => u.disk = s.disk.discard) ?_ ?_ fun _ _ h => .inr h
    · have sent : (do insertFile trialName (← layout).rootId (← disk).staged : Operation Json).Along
          (Session.Keeps (·.disk)) :=
        along_layout.bind fun _ => along_disk.bind fun _ => request_keeps_disk _
      have ended : (do insertFile trialName (← layout).rootId (← disk).staged :
          Operation Json).Terminates :=
        failsWith_layout.bind fun _ => failsWith_disk.bind fun _ => terminates_request _
      refine ((sent _).and (ended _)).ensuring ?_ fun _ h => absurd rfl (h.2 _ rfl)
      rintro _ u ⟨staged, _⟩
      have staged : u.disk = t.disk.stageTemporary trialName (Text.Utf8.encode trialName) := staged
      have same : t.disk = s.disk := same
      rw [ends_disk_bind, staged, same]
      rfl
    · intro created u discarded
      have rest : (do
          delete (← ofMishap (Folders.idOf created))
          info "testTargetCanWrite: Can write, test file created/deleted successfully."
          return true : Operation Bool).Along (Session.Keeps (·.disk)) :=
        (along_ofExcept _ _).bind fun _ => (delete_keeps_disk _).bind fun _ =>
          (listable_disk.logs _ _).bind fun _ => along_pure _
      exact (rest u).mono fun _ _ kept => .inr (kept.trans discarded)

structure Trial (left : StoredFile → Prop) (s : Session) (outcome : Except Failure Bool)
    (t : Session) : Prop where
  positive : outcome = .ok true → t.drive.files = s.drive.files
  files : t.drive.files = s.drive.files ∨
    ∃ file, left file ∧ t.drive.files = s.drive.files ++ [file]

/-- Deleting what was put on the drive last leaves what there was before, unless the call fails. -/
theorem delete_last (raising : s.schedule.Raising) {files : List StoredFile} {file : StoredFile}
    (last : s.drive.files = files ++ [file]) (unused : ∀ other ∈ files, other.id ≠ file.id) :
    (delete (.string file.id)).Ends s fun outcome t => s.SameAround t ∧
      (outcome = .ok () → t.drive.files = files) ∧
        (t.drive.files = files ∨ t.drive.files = files ++ [file]) := by
  have dropped : (s.drive.applyAll [.drop file.id]).files = files := by
    have dropped := s.drive.files_drops [file.id]
    rw [last, List.filter_append, List.filter_eq_self.mpr (by simpa using unused)] at dropped
    simpa using dropped
  apply (delete_ends raising file.id).mono
  rintro outcome t ⟨asked, drop⟩
  refine ⟨asked.toSameAround, ?_⟩
  generalize t.drive = after at drop ⊢
  cases drop with
  | done => exact ⟨fun _ => dropped, .inl dropped⟩
  | unknown => exact ⟨nofun, .inr last⟩
  | raised _ either =>
    obtain rfl | rfl := either
    · exact ⟨nofun, .inr last⟩
    · exact ⟨nofun, .inl dropped⟩

inductive Put (title : String) (folder : Json) (content : Bytes) (drive : Drive) :
    Except Failure Json → Drive → Prop
  | there {id : String} {outcome : Except Failure Json} (placed : folder = .string id)
      (told : ∀ value, outcome = .ok value → value = .object [("id", .string drive.newId)]) :
      Put title folder content drive outcome (drive.added title id content)
  | missing {failure : Failure} : Put title folder content drive (.error failure) drive

theorem insertFile_puts (raising : s.schedule.Raising) (title : String) (folder : Json)
    (content : Bytes) :
    (insertFile title folder content).Ends s fun outcome t =>
      s.SameAround t ∧ Put title folder content s.drive outcome t.drive := by
  cases held : s.drive.holds folder with
  | true =>
    obtain ⟨id, rfl⟩ := Drive.exists_of_holds held
    apply (request_granted (Drive.insertFile_eq_ok held title content)).mono
    rintro outcome t ⟨asked, granted⟩
    refine ⟨asked.toSameAround, ?_⟩
    cases outcome with
    | ok value =>
      obtain ⟨_, rfl, drive⟩ := granted.of_ok raising
      exact drive ▸ .there rfl fun _ same => (Except.ok.inj same).symm
    | error failure =>
      obtain ⟨_, drive | drive⟩ := granted.of_error
      · exact drive ▸ .missing
      · exact drive ▸ .there rfl nofun
  | false =>
    apply (request_denied (Drive.insertFile_eq_error held title content)).mono
    rintro outcome t ⟨asked, drive, denied⟩
    refine ⟨asked.toSameAround, ?_⟩
    cases outcome with
    | ok value => exact absurd denied (Denied.not_ok raising)
    | error failure => exact drive ▸ .missing

/-- Nothing stands against a folder that lies in no other. -/
theorem put_of_making {title : String} {outcome : Except Failure Json} {drive : Drive}
    (h : Folders.Making title .null s outcome drive) :
    (∃ failure, outcome = .error failure) ∧ drive = s.drive ∨
      drive.files = s.drive.files ++ [Drive.newFolder s.drive.newId title none] ∧
        ∀ id, outcome = .ok id → id = .string s.drive.newId := by
  have outermost {folder : Option String} (placed : Json.null = Folders.within folder) :
      folder = none := by
    cases folder with
    | none => rfl
    | some => cases placed
  cases h with
  | made placed =>
    obtain rfl := outermost placed
    exact .inr ⟨rfl, fun _ same => (Except.ok.inj same).symm⟩
  | refused named => exact absurd rfl named
  | raised => exact .inl ⟨⟨_, rfl⟩, rfl⟩
  | raisedLate placed =>
    obtain rfl := outermost placed
    exact .inr ⟨rfl, nofun⟩

/-- The trial file is put into the root folder, and the temporary file is dropped. -/
theorem trial_puts (raising : s.schedule.Raising) :
    Ends (ensuring (do insertFile trialName (← layout).rootId (← disk).staged)
      (do setDisk (← disk).discard)) s fun outcome t =>
        t.schedule.faults = s.schedule.faults ∧ t.layout = s.layout ∧
          Put trialName s.layout.rootId s.disk.staged s.drive outcome t.drive := by
  refine Ends.ensuring (P := fun outcome t => t.schedule.faults = s.schedule.faults ∧
    t.layout = s.layout ∧ Put trialName s.layout.rootId s.disk.staged s.drive outcome t.drive)
    ?_ ?_ fun _ h => h
  · rw [ends_layout_bind, ends_disk_bind]
    apply (insertFile_puts raising trialName s.layout.rootId s.disk.staged).mono
    exact fun _ t ⟨around, put⟩ => ⟨around.faults, around.layout, put⟩
  · intro outcome t h
    rw [ends_disk_bind]
    exact h

/-- The file that a trial of writing puts into the root folder. -/
def IsTrialFile (layout : Layout) (file : StoredFile) : Prop :=
  file.title = trialName ∧ ∃ root, layout.rootId = .string root ∧ file.parents = [root]

/-- The folder that a trial of creating makes. -/
def IsTrialFolder (rootPath : String) (file : StoredFile) : Prop :=
  file.isFolder = true ∧ file.title = rootPath ∧ file.parents = []

theorem Trial.unchanged {left : StoredFile → Prop} {outcome : Except Failure Bool} {t : Session}
    (same : t.drive = s.drive) : Trial left s outcome t :=
  ⟨fun _ => congrArg Drive.files same, .inl (congrArg Drive.files same)⟩

/-- What goes wrong in a trial counts as a no. -/
theorem Trial.probe {operation : Operation Bool} {message : Failure → String}
    (left : Layout → StoredFile → Prop)
    (tried : operation.Ends s fun outcome t => Trial (left t.layout) s outcome t) :
    (probe operation fun failure => info (message failure)).Ends s fun outcome t =>
      Trial (left t.layout) s outcome t :=
  tried.onAnyError (fun _ _ h => h) (fun _ _ h => Ends.log_bind fun _ => ⟨nofun, h.files⟩)
    fun _ h => h

section
variable (raising : s.schedule.Raising) (unused : ∀ file ∈ s.drive.files, file.id ≠ s.drive.newId)
include raising unused

theorem targetCanWrite_leaves :
    targetCanWrite.Ends s fun outcome t => Trial (IsTrialFile t.layout) s outcome t := by
  refine Trial.probe IsTrialFile ((targetExists_ends raising).bind ?_ ?_)
  · rintro found t ⟨_, _, probed⟩
    split
    · exact Ends.log_bind fun _ => .unchanged probed.drive
    · have raising := raising.of_faults probed.faults
      rw [ends_disk_bind, setDisk, ends_modify_bind]
      let staged := t.disk.stageTemporary trialName (Text.Utf8.encode trialName)
      refine (@trial_puts { t with disk := staged } raising).bind ?_ ?_
      · rintro created u ⟨faults, layout, put⟩
        rw [probed.drive] at put
        generalize drive : u.drive = after at put
        cases put with
        | @there root _ placed told =>
          obtain rfl := told created rfl
          rw [Folders.idOf_object, ofMishap, ofExcept_ok, pure_bind]
          have files : u.drive.files =
              s.drive.files ++ [s.drive.newFile trialName root _] := congrArg Drive.files drive
          refine (delete_last (raising.of_faults faults) files unused).bind ?_ ?_
          · rintro _ v ⟨_, gone, _⟩
            exact Ends.log_bind fun _ => ends_pure.mpr ⟨fun _ => gone rfl, .inl (gone rfl)⟩
          · rintro failure v ⟨around, _, left⟩
            refine ⟨by simp, left.imp_right fun left => ⟨_, ⟨rfl, root, ?_, rfl⟩, left⟩⟩
            rw [around.layout, layout]
            exact placed
      · rintro failure u ⟨_, layout, put⟩
        rw [probed.drive] at put
        generalize drive : u.drive = after at put
        cases put with
        | missing => exact .unchanged drive
        | @there root _ placed _ =>
          exact ⟨by simp, .inr ⟨_, ⟨rfl, root, layout ▸ placed, rfl⟩, congrArg Drive.files drive⟩⟩
  · rintro failure t ⟨_, ⟨⟩, _⟩

theorem targetCanCreate_leaves :
    targetCanCreate.Ends s fun outcome t => Trial (IsTrialFolder s.layout.rootPath) s outcome t := by
  refine Trial.probe (fun _ => IsTrialFolder s.layout.rootPath)
    ((targetExists_ends raising).bind ?_ ?_)
  · rintro found t ⟨_, _, probed⟩
    split
    · exact ends_pure.mpr (.unchanged probed.drive)
    · have raising := raising.of_faults probed.faults
      rw [ends_layout_bind]
      refine (Folders.make_ends raising t.layout.rootPath .null).bind ?_ ?_
      · rintro id u ⟨asked, making⟩
        obtain ⟨⟨_, ⟨⟩⟩, _⟩ | ⟨files, told⟩ := put_of_making making
        obtain rfl := told id rfl
        rw [probed.drive] at files
        have raising := asked.raising raising
        rw [probed.drive]
        refine (delete_last raising files unused).bind ?_ ?_
        · rintro _ v ⟨_, gone, _⟩
          rw [ends_layout_bind]
          exact Ends.log_bind fun _ => ends_pure.mpr ⟨fun _ => gone rfl, .inl (gone rfl)⟩
        · rintro failure v ⟨around, _, left⟩
          exact ⟨nofun, left.imp_right fun left => ⟨_, ⟨rfl, probed.rootPath, rfl⟩, left⟩⟩
      · rintro failure u ⟨asked, making⟩
        obtain ⟨_, same⟩ | ⟨files, _⟩ := put_of_making making
        · exact .unchanged (same.trans probed.drive)
        · rw [probed.drive] at files
          exact ⟨nofun, .inr ⟨_, ⟨rfl, probed.rootPath, rfl⟩, files⟩⟩
  · rintro failure t ⟨_, ⟨⟩, _⟩

end

/-- The pages of the search for the marker come to an end. -/
def MarkerPagesEnd (s : Session) : Prop :=
  ∀ folder, s.layout.folderFor RemoteFile.marker.category = .string folder →
    Search.PagesEnd (some folder) (some RemoteFile.marker.name) s

theorem markerSearch_endless_iff (s : Session) :
    (runOn (markerSearch s.layout) s).1 = .error .endless ↔ ¬ MarkerPagesEnd s := by
  rw [markerSearch, MarkerPagesEnd]
  obtain ⟨folder, text⟩ | other := text_or_not (s.layout.folderFor RemoteFile.marker.category)
  · rw [text, filesIn_string, Search.files_endless_iff]
    simp only [Json.string.injEq, forall_eq']
  · rw [filesIn_notText other, runOn_throw]
    refine iff_of_false (by simp [Failure.ofMishap]) (not_not_intro fun folder text => ?_)
    rw [text] at other
    cases other

/-- Whatever the drive answers and whatever faults there are, each probe gives an answer and leaves
no temporary file; only the one for the marker goes on forever if the pages do. Looking for the root
folder and for the marker does not change the drive. Where faults only raise and the next new id is
not in use, a trial that says yes leaves the files of the drive as they are, and one that says no
leaves at most the file or the folder that it has made. -/
theorem probes_harmless (s : Session) :
    (∀ probe ∈ [targetExists, targetCanWrite, targetCanCreate],
      probe.Ends s fun outcome t => (∃ answer, outcome = .ok answer) ∧
        (s.disk.scratch = none → t.disk = s.disk)) ∧
    (markerExists.Ends s fun outcome t =>
      ((∃ answer, outcome = .ok answer) ∧ MarkerPagesEnd s ∨
        outcome = .error .endless ∧ ¬ MarkerPagesEnd s) ∧
      (s.disk.scratch = none → t.disk = s.disk)) ∧
    (∀ probe ∈ [targetExists, markerExists], probe.Ends s fun _ t => t.drive = s.drive) ∧
    (s.schedule.Raising → (∀ file ∈ s.drive.files, file.id ≠ s.drive.newId) →
      (targetCanWrite.Ends s fun outcome t => Trial (IsTrialFile t.layout) s outcome t) ∧
        targetCanCreate.Ends s fun outcome t =>
          Trial (IsTrialFolder s.layout.rootPath) s outcome t) := by
  have written : targetCanWrite.Ends s fun _ t => s.disk.scratch = none → t.disk = s.disk := by
    apply (targetCanWrite_disk s).mono
    rintro _ t (same | discarded) unstaged
    · exact same
    · rw [discarded, Disk.discard, ← unstaged]
  have kept {probe : Operation Bool} (keeps : probe.Along (Session.Keeps (·.disk))) :
      probe.Ends s fun _ t => s.disk.scratch = none → t.disk = s.disk :=
    (keeps s).mono fun _ _ same _ => same
  refine ⟨?_, ?_, ?_, fun raising unused => ?_⟩
  · simp only [List.forall_mem_cons]
    exact ⟨(succeeds_targetExists s).and (kept targetExists_keeps_disk),
      (succeeds_targetCanWrite s).and written,
      (succeeds_targetCanCreate s).and (kept targetCanCreate_keeps_disk), by simp⟩
  · refine Ends.and ?_ (kept (along_markerExists listable_disk))
    have goes := markerSearch_endless_iff s
    apply (markerExists_ends s).mono
    rintro outcome _ (⟨answered, ended⟩ | ⟨endless, never⟩)
    · exact .inl ⟨answered, not_not.mp (mt goes.mpr ended)⟩
    · exact .inr ⟨endless, goes.mp never⟩
  · simp only [List.forall_mem_cons]
    exact ⟨along_targetExists listable_drive (fun _ _ => rfl) s,
      along_markerExists listable_drive s, by simp⟩
  · exact ⟨targetCanWrite_leaves raising unused, targetCanCreate_leaves raising unused⟩

/-- A repository on a drive that deletes nothing. -/
def undeleting : Session :=
  smallSession [] [⟨.delete, none, false, .raises (.provider (.http 403 "denied"))⟩] .empty

/-- A repository on a drive that answers the first two listings with a page that it does not have. -/
def misled : Session :=
  smallSession []
    [⟨.list, some 1, false, .answers (.object [("nextPageToken", .string "p0")])⟩,
      ⟨.list, some 2, false, .answers (.object [("nextPageToken", .string "p7")])⟩] .empty

theorem markerPagesEnd_misled : MarkerPagesEnd misled := by
  intro folder text
  obtain rfl : folder = "repo" := by
    have same : misled.layout.folderFor RemoteFile.marker.category = .string "repo" := rfl
    exact Json.string.inj (text.symm.trans same)
  by_contra goes
  have endless := (Search.files_unbounded _ _ _).2 goes 3
  have ended : (runOn (Search.collect (Query.text (Query.ofFiles (some "repo")
      (some RemoteFile.marker.name))) 3 [] .null) misled).1.toOption.isSome = true := by
    decide +kernel
  rw [endless] at ended
  cases ended

theorem probes_harmless_undeleting :
    (undeleting.schedule.Raising ∧
      (∀ file ∈ undeleting.drive.files, file.id ≠ undeleting.drive.newId) ∧
      (runOn targetCanWrite undeleting).1 = .ok false ∧
        ∃ file, IsTrialFile (runOn targetCanWrite undeleting).2.layout file ∧
          (runOn targetCanWrite undeleting).2.drive.files = undeleting.drive.files ++ [file]) ∧
    MarkerPagesEnd misled ∧ ¬ misled.schedule.Raising ∧
      ∃ answer, (runOn markerExists misled).1 = .ok answer := by
  have raising : undeleting.schedule.Raising := .of_reasons [] (by decide)
  have unused : ∀ file ∈ undeleting.drive.files, file.id ≠ undeleting.drive.newId := by
    decide +kernel
  have no : (runOn targetCanWrite undeleting).1 = .ok false := by decide +kernel
  have more : (runOn targetCanWrite undeleting).2.drive.files ≠ undeleting.drive.files := by
    decide +kernel
  have trial := ((probes_harmless undeleting).2.2.2 raising unused).1.files
  refine ⟨⟨raising, unused, no, trial.resolve_left more⟩, markerPagesEnd_misled, ?_, ?_⟩
  · intro raising
    obtain ⟨reason, raises⟩ := raising _ List.mem_cons_self
    cases raises
  · obtain ⟨answered, _⟩ | ⟨_, goes⟩ := (probes_harmless misled).2.1.1
    · exact answered
    · exact absurd markerPagesEnd_misled goes

end DriveDepot.Repository
