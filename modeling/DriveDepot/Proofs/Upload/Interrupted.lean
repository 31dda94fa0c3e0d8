import DriveDepot.Proofs.Upload

namespace DriveDepot.Repository

open Operation

inductive UploadCause (source : LocalPath) (file : RemoteFile) (s : Session) : Failure → Prop
  | unread {fault : Disk.Fault} (read : s.disk.read source = .error fault) :
      UploadCause source file s (.ofDisk fault)
  | noFolder (missing : s.drive.holds (s.layout.folderFor file.category) = false) :
      UploadCause source file s (.ofProvider .notFound)
  | notStaged {failure : Failure} (raises : s.schedule.RaisesNext .insert failure) :
      UploadCause source file s failure
  | notNamed {failure : Failure} (raises : s.schedule.RaisesNext .rename failure) :
      UploadCause source file s failure

structure UploadInterrupted (source : LocalPath) (file : RemoteFile) (s : Session)
    (outcome : Except Failure Unit) (t : Session) : Prop where
  /-- At most one file is new. It has its name only if the drive was asked to rename it. -/
  left : t.drive = s.drive ∨ ∃ folder content, Sendable source file s folder content ∧
    (t.drive = s.drive.added (temporaryMark ++ file.name) folder content ∨
      t.drive = s.drive.added file.name folder content ∧
        t.calls =
          s.calls ++ [staging s.layout file content, naming s.drive file].map .drive)
  existing : s.drive.files <+: t.drive.files
  unread : ∀ fault, s.disk.read source = .error fault → t.calls = s.calls ∧ t.drive = s.drive
  /-- An upload succeeds exactly if nothing is in its way and the drive confirms the name. -/
  succeeds : outcome = .ok () ↔ (∃ folder content, Sendable source file s folder content) ∧
    s.schedule.next? .insert = none ∧ s.schedule.next? .rename = none
  succeeded : outcome = .ok () → ∃ folder content, Sendable source file s folder content ∧
    t.drive = s.drive.added file.name folder content
  failed : ∀ failure, outcome = .error failure →
    (∃ cause, UploadCause source file s cause ∧ failure = uploadFailure source file cause) ∨
      failure = .ofStorage (.renameUnconfirmed (temporaryMark ++ file.name) file.name) ∧
        ∃ fault value, s.schedule.next? .rename = some fault ∧ fault.outcome = .answers value

section
variable {source : LocalPath} {file : RemoteFile} {s : Session} {inner : Except Failure Bool}
  {drive : Drive} {requests : List Request}

theorem Uploading.left (steps : Uploading source file s inner drive requests) :
    drive = s.drive ∨ ∃ folder content, Sendable source file s folder content ∧
      (drive = s.drive.added (temporaryMark ++ file.name) folder content ∨
        drive = s.drive.added file.name folder content ∧
          requests = [staging s.layout file content, naming s.drive file]) := by
  cases steps with
  | unread | noFolder | notStaged => exact .inl rfl
  | staged sendable | notNamed sendable | unconfirmed sendable =>
    exact .inr ⟨_, _, sendable, .inl rfl⟩
  | named sendable | confirmed sendable => exact .inr ⟨_, _, sendable, .inr ⟨rfl, rfl⟩⟩

theorem Uploading.unread_of_error (steps : Uploading source file s inner drive requests)
    {fault : Disk.Fault} (read : s.disk.read source = .error fault) :
    requests = [] ∧ drive = s.drive := by
  cases steps with
  | unread => exact ⟨rfl, rfl⟩
  | noFolder read' | notStaged read' => cases read'.symm.trans read
  | staged sendable | notNamed sendable | named sendable | unconfirmed sendable
  | confirmed sendable => cases sendable.read.symm.trans read

theorem Uploading.confirmed_iff (steps : Uploading source file s inner drive requests) :
    inner = .ok true ↔ (∃ folder content, Sendable source file s folder content) ∧
      s.schedule.next? .insert = none ∧ s.schedule.next? .rename = none := by
  have spared {call : CallKind} {failure : Failure} (raises : s.schedule.RaisesNext call failure) :
      s.schedule.next? call ≠ none := by
    obtain ⟨fault, met, _⟩ := raises
    rw [met]
    exact Option.some_ne_none fault
  constructor
  · rintro rfl
    cases steps with
    | confirmed sendable staged named => exact ⟨⟨_, _, sendable⟩, staged, named⟩
  · rintro ⟨⟨folder, content, sendable⟩, staged, named⟩
    cases steps with
    | unread read => cases read.symm.trans sendable.read
    | noFolder _ missing =>
      rw [sendable.text, sendable.held] at missing
      cases missing
    | notStaged _ raises | staged _ raises => exact absurd staged (spared raises)
    | notNamed _ raises | named _ raises => exact absurd named (spared raises)
    | unconfirmed _ met => cases named.symm.trans met
    | confirmed => rfl

theorem Uploading.cause {failure : Failure}
    (steps : Uploading source file s (.error failure) drive requests) :
    UploadCause source file s failure := by
  cases steps with
  | unread read => exact .unread read
  | noFolder _ missing => exact .noFolder missing
  | notStaged _ raises | staged _ raises => exact .notStaged raises
  | notNamed _ raises | named _ raises => exact .notNamed raises

end

theorem uploadOutcome_eq_ok {source : LocalPath} {file : RemoteFile}
    {inner : Except Failure Bool} :
    uploadOutcome source file inner = .ok () ↔ inner = .ok true := by
  rcases inner with _ | _ | _ <;> simp [uploadOutcome]

/-- Under any faults that raise, and if the drive answers the renaming with nothing, an upload
leaves the drive as it is or with one more complete file, and says that it succeeded only if the
file has its name. -/
theorem upload_interrupted {s : Session} (faulty : s.schedule.RaisingOrUnconfirming)
    (unused : ∀ file ∈ s.drive.files, file.id ≠ s.drive.newId) (source : LocalPath)
    (file : RemoteFile) :
    (upload source file).Ends s (UploadInterrupted source file s) := by
  apply (upload_ends faulty unused source file).mono
  rintro _ t ⟨inner, rfl, _, requests, calls, steps⟩
  constructor
  · obtain same | ⟨folder, content, sendable, staged | ⟨named, rfl⟩⟩ := steps.left
    · exact .inl same
    · exact .inr ⟨folder, content, sendable, .inl staged⟩
    · exact .inr ⟨folder, content, sendable, .inr ⟨named, calls⟩⟩
  · obtain same | ⟨folder, content, _, added | ⟨added, _⟩⟩ := steps.left
    · exact same ▸ List.prefix_rfl
    · exact added ▸ List.prefix_append _ _
    · exact added ▸ List.prefix_append _ _
  · intro fault read
    obtain ⟨rfl, same⟩ := steps.unread_of_error read
    exact ⟨calls.trans (List.append_nil _), same⟩
  · exact uploadOutcome_eq_ok.trans steps.confirmed_iff
  · intro succeeded
    obtain rfl := uploadOutcome_eq_ok.mp succeeded
    generalize t.drive = after at steps ⊢
    cases steps with
    | confirmed sendable => exact ⟨_, _, sendable, rfl⟩
  · intro failure failed
    rcases inner with cause | _ | _
    · obtain rfl := Except.error.inj failed
      exact .inl ⟨cause, steps.cause, rfl⟩
    · obtain rfl := Except.error.inj failed
      generalize t.drive = after at steps
      cases steps with
      | unconfirmed _ met outcome => exact .inr ⟨rfl, _, _, met, outcome⟩
    · cases failed

/-- The drive renames the new file and then fails to say so. -/
def renamedSilently : Session :=
  smallSession [] [⟨.rename, none, true, .raises (.provider (.http 500 "boom"))⟩]
    (Disk.empty.set (Disk.workingDirectory ++ ["in"]) (.file [4, 5]))

theorem upload_interrupted_renamedSilently :
    renamedSilently.schedule.RaisingOrUnconfirming ∧
      (∀ file ∈ renamedSilently.drive.files, file.id ≠ renamedSilently.drive.newId) ∧
      (runOn (upload ⟨.none, ["in"]⟩ smallSource) renamedSilently).1 =
        .error ((Failure.ofProvider (.http 500 "boom")).wrap (.uploadFailed "in" "temp-1")) ∧
      (upload ⟨.none, ["in"]⟩ smallSource).Ends renamedSilently
        (UploadInterrupted ⟨.none, ["in"]⟩ smallSource renamedSilently) := by
  have raising : renamedSilently.schedule.Raising := .of_reasons [] (by decide)
  have faulty : renamedSilently.schedule.RaisingOrUnconfirming :=
    fun fault member => .inl (raising fault member)
  have unused : ∀ file ∈ renamedSilently.drive.files,
      file.id ≠ renamedSilently.drive.newId := by decide +kernel
  exact ⟨faulty, unused, by decide +kernel, upload_interrupted faulty unused _ smallSource⟩

end DriveDepot.Repository
