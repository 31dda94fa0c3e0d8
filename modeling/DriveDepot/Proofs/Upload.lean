import DriveDepot.Proofs.Changes
import DriveDepot.Proofs.Folder
import DriveDepot.Repository.Transfer

namespace DriveDepot

/-- Faults raise, or answer a renaming with nothing in the place of the drive. -/
def Schedule.RaisingOrUnconfirming (schedule : Schedule) : Prop :=
  ∀ fault ∈ schedule.faults, (∃ reason, fault.outcome = .raises reason) ∨
    fault.call = .rename ∧ ∃ value, fault.outcome = .answers value ∧ value.isNothing = true

theorem Schedule.Raising.raisingOrUnconfirming {schedule : Schedule} (raising : schedule.Raising) :
    schedule.RaisingOrUnconfirming :=
  fun fault member => .inl (raising fault member)

theorem Schedule.Calm.raisingOrUnconfirming {schedule : Schedule} (calm : schedule.Calm) :
    schedule.RaisingOrUnconfirming :=
  calm.raising.raisingOrUnconfirming

namespace Drive

/-- The file that the drive makes next. -/
def newFile (drive : Drive) (title folder : String) (content : Bytes) : StoredFile :=
  ⟨drive.newId, title, [folder], contentType, false, defaultUrl contentType drive.newId, content⟩

/-- The drive with one more file. -/
def added (drive : Drive) (title folder : String) (content : Bytes) : Drive :=
  { drive with
    files := drive.files ++ [drive.newFile title folder content], created := drive.created + 1 }

theorem insertFile_eq_ok {drive : Drive} {folder : String}
    (held : drive.holds (.string folder) = true) (title : String) (content : Bytes) :
    drive.answer (.insertFile title (.string folder) content) =
      .ok (.object [("id", .string drive.newId)], drive.added title folder content) := by
  simp [answer, insert, held, added, newFile, Json.text?]

theorem insertFile_eq_error {drive : Drive} {folder : Json} (missing : drive.holds folder = false)
    (title : String) (content : Bytes) :
    drive.answer (.insertFile title folder content) = .error .notFound := by
  simp [answer, insert, missing]

section
variable {drive : Drive} (unused : ∀ file ∈ drive.files, file.id ≠ drive.newId)
include unused

theorem DistinctIds.added (distinct : drive.DistinctIds) (title folder : String) (content : Bytes) :
    (drive.added title folder content).DistinctIds := by
  rw [DistinctIds, Drive.added, List.map_append, List.map_singleton, List.nodup_append]
  refine ⟨distinct, List.nodup_singleton _, ?_⟩
  intro id member other last same
  obtain ⟨file, held, rfl⟩ := List.mem_map.mp member
  obtain rfl := List.mem_singleton.mp last
  exact unused file held same

theorem file?_newId (title folder : String) (content : Bytes) :
    (drive.added title folder content).file? (.string drive.newId) =
      some (drive.newFile title folder content) := by
  have others : drive.files.find? (·.id == drive.newId) = none :=
    List.find?_eq_none.mpr (by simpa using unused)
  rw [file?_of_ne_empty _ drive.newId_ne_empty, added, List.find?_append, others]
  simp [newFile]

/-- Giving the new file its name makes it the file that would have been made under that name. -/
theorem rename_added (title name folder : String) (content : Bytes) :
    (drive.added title folder content).answer (.rename (.string drive.newId) name) =
      .ok (.object [("title", .string name)], drive.added name folder content) := by
  have others : drive.files.map (fun file =>
      if file.id == drive.newId then { file with title := name } else file) = drive.files := by
    have same : ∀ file ∈ drive.files,
        (if file.id == drive.newId then { file with title := name } else file) = file := by
      intro file held
      rw [if_neg (by simpa using unused file held)]
    exact (List.map_congr_left same).trans (List.map_id _)
  have changed : (drive.added title folder content).change drive.newId ({ · with title := name }) =
      drive.added name folder content := by
    simp only [change, added, List.map_append, others]
    simp [newFile]
  rw [answer, rename, file?_newId unused]
  exact congrArg (fun after => Except.ok (_, after)) changed

end

end Drive

namespace Repository

open Operation

/-- The request that puts the content into the folder, under the temporary title. -/
def staging (layout : Layout) (file : RemoteFile) (content : Bytes) : Request :=
  .insertFile (temporaryMark ++ file.name) (layout.folderFor file.category) content

/-- The request that gives the new file its name. -/
def naming (drive : Drive) (file : RemoteFile) : Request :=
  .rename (.string drive.newId) file.name

structure Sendable (source : LocalPath) (file : RemoteFile) (s : Session) (folder : String)
    (content : Bytes) : Prop where
  read : s.disk.read source = .ok content
  text : s.layout.folderFor file.category = .string folder
  held : s.drive.holds (.string folder) = true

inductive Uploading (source : LocalPath) (file : RemoteFile) (s : Session) :
    Except Failure Bool → Drive → List Request → Prop
  | unread {fault : Disk.Fault} (read : s.disk.read source = .error fault) :
      Uploading source file s (.error (.ofDisk fault)) s.drive []
  | noFolder {content : Bytes} (read : s.disk.read source = .ok content)
      (missing : s.drive.holds (s.layout.folderFor file.category) = false) :
      Uploading source file s (.error (.ofProvider .notFound)) s.drive
        [staging s.layout file content]
  | notStaged {content : Bytes} {failure : Failure} (read : s.disk.read source = .ok content)
      (raises : s.schedule.RaisesNext .insert failure) :
      Uploading source file s (.error failure) s.drive [staging s.layout file content]
  | staged {folder : String} {content : Bytes} {failure : Failure}
      (sendable : Sendable source file s folder content)
      (raises : s.schedule.RaisesNext .insert failure) :
      Uploading source file s (.error failure)
        (s.drive.added (temporaryMark ++ file.name) folder content) [staging s.layout file content]
  | notNamed {folder : String} {content : Bytes} {failure : Failure}
      (sendable : Sendable source file s folder content)
      (raises : s.schedule.RaisesNext .rename failure) :
      Uploading source file s (.error failure)
        (s.drive.added (temporaryMark ++ file.name) folder content)
        [staging s.layout file content, naming s.drive file]
  | named {folder : String} {content : Bytes} {failure : Failure}
      (sendable : Sendable source file s folder content)
      (raises : s.schedule.RaisesNext .rename failure) :
      Uploading source file s (.error failure) (s.drive.added file.name folder content)
        [staging s.layout file content, naming s.drive file]
  | unconfirmed {folder : String} {content : Bytes} {fault : Fault} {value : Json}
      (sendable : Sendable source file s folder content)
      (met : s.schedule.next? .rename = some fault) (outcome : fault.outcome = .answers value) :
      Uploading source file s (.ok false)
        (s.drive.added (temporaryMark ++ file.name) folder content)
        [staging s.layout file content, naming s.drive file]
  | confirmed {folder : String} {content : Bytes}
      (sendable : Sendable source file s folder content)
      (stagedFreely : s.schedule.next? .insert = none)
      (namedFreely : s.schedule.next? .rename = none) :
      Uploading source file s (.ok true) (s.drive.added file.name folder content)
        [staging s.layout file content, naming s.drive file]

/-- Where an upload has come to: the requests that it made, and what its steps came to. -/
def UploadedTo (source : LocalPath) (file : RemoteFile) (s : Session)
    (outcome : Except Failure Bool) (t : Session) : Prop :=
  s.SameAround t ∧ ∃ requests, t.calls = s.calls ++ requests.map .drive ∧
    Uploading source file s outcome t.drive requests

/-- Renaming the new file, once it is there under its temporary title. -/
theorem naming_ends {s t : Session} (faulty : s.schedule.RaisingOrUnconfirming)
    (unused : ∀ file ∈ s.drive.files, file.id ≠ s.drive.newId) {source : LocalPath}
    {file : RemoteFile} {folder : String} {content : Bytes}
    (sendable : Sendable source file s folder content)
    (freely : s.schedule.next? .insert = none) (asked : s.Asked (staging s.layout file content) t)
    (staged : t.drive = s.drive.added (temporaryMark ++ file.name) folder content) :
    (rename (.string s.drive.newId) file.name).Ends t (UploadedTo source file s) := by
  have answer := Drive.rename_added unused (temporaryMark ++ file.name) file.name folder content
  rw [← staged] at answer
  have meets : t.schedule.next? .rename = s.schedule.next? .rename := by
    have other : CallKind.insert ≠ .rename := by decide
    rw [asked.schedule]
    exact Schedule.next?_count_of_ne other _
  have raises {failure : Failure} (h : t.schedule.RaisesNext .rename failure) :
      s.schedule.RaisesNext .rename failure := by
    rw [Schedule.RaisesNext, ← meets]
    exact h
  have calls {u : Session} (k : t.Asked (naming s.drive file) u) :
      u.calls = s.calls ++ [staging s.layout file content, naming s.drive file].map .drive := by
    rw [k.calls, asked.calls, List.append_assoc]
    rfl
  refine (request_granted answer).bind ?_ ?_
  · rintro value u ⟨k, granted⟩
    refine ends_pure.mpr ⟨asked.toSameAround.trans k.toSameAround, _, calls k, ?_⟩
    generalize u.drive = after at granted ⊢
    cases granted with
    | done spared => exact .confirmed sendable freely (meets ▸ spared)
    | replaced met outcome =>
      obtain ⟨member, _⟩ := Schedule.mem_of_next? (meets ▸ met)
      obtain ⟨reason, raised⟩ | ⟨_, other, answers, nothing⟩ := faulty _ member
      · cases outcome.symm.trans raised
      · obtain rfl := Fault.Outcome.answers.inj (answers.symm.trans outcome)
        rw [nothing, staged]
        exact .unconfirmed sendable (meets ▸ met) outcome
  · rintro failure u ⟨k, granted⟩
    refine ⟨asked.toSameAround.trans k.toSameAround, _, calls k, ?_⟩
    generalize u.drive = after at granted ⊢
    cases granted with
    | raised h => exact staged ▸ .notNamed sendable (raises h)
    | raisedLate h => exact .named sendable (raises h)

/-- The steps of an upload once the local file has been read. -/
theorem staging_naming_ends {s : Session} (faulty : s.schedule.RaisingOrUnconfirming)
    (unused : ∀ file ∈ s.drive.files, file.id ≠ s.drive.newId) {source : LocalPath}
    (file : RemoteFile) {content : Bytes} (read : s.disk.read source = .ok content)
    (journal : List Record) :
    (do
      let inserted ← insertFile (temporaryMark ++ file.name) (s.layout.folderFor file.category)
        content
      Operation.info s!"Renaming temp file {temporaryMark ++ file.name} to file {file.name}"
      rename (← ofMishap (Folders.idOf inserted)) file.name).Ends { s with journal := journal }
      (UploadedTo source file s) := by
  have notAnswered {fault : Fault} {value : Json} (met : s.schedule.next? .insert = some fault) :
      fault.outcome ≠ .answers value := by
    intro outcome
    obtain ⟨member, concerns⟩ := Schedule.mem_of_next? met
    obtain ⟨reason, raises⟩ | ⟨other, _⟩ := faulty fault member
    · cases outcome.symm.trans raises
    · cases concerns.symm.trans other
  cases held : s.drive.holds (s.layout.folderFor file.category) with
  | false =>
    have answer := Drive.insertFile_eq_error held (temporaryMark ++ file.name) content
    refine Ends.bind (request_denied answer) ?_ ?_
    · rintro value t ⟨_, _, denied⟩
      cases denied with
      | replaced met outcome => exact absurd outcome (notAnswered met)
    · rintro failure t ⟨asked, drive, denied⟩
      refine ⟨asked.of_journal.toSameAround, [staging s.layout file content], asked.calls, ?_⟩
      rw [drive]
      cases denied with
      | refused => exact .noFolder read held
      | raised raises => exact .notStaged read raises
  | true =>
    obtain ⟨folder, text⟩ := Drive.exists_of_holds held
    rw [text] at held
    have sendable : Sendable source file s folder content := ⟨read, text, held⟩
    have answer := Drive.insertFile_eq_ok held (temporaryMark ++ file.name) content
    rw [← text] at answer
    refine Ends.bind (request_granted answer) ?_ ?_
    · rintro value t ⟨asked, granted⟩
      generalize staged : t.drive = after at granted
      cases granted with
      | done freely =>
        apply Ends.log_bind
        intro journal'
        rw [Folders.idOf_object, ofMishap, ofExcept_ok, pure_bind]
        exact naming_ends faulty unused sendable freely (asked.of_journal.journal journal') staged
      | replaced met outcome => exact absurd outcome (notAnswered met)
    · rintro failure t ⟨asked, granted⟩
      refine ⟨asked.of_journal.toSameAround, [staging s.layout file content], asked.calls, ?_⟩
      generalize t.drive = after at granted ⊢
      cases granted with
      | raised raises => exact .notStaged read raises
      | raisedLate raises => exact .staged sendable raises

/-- What an upload fails with where one of its steps fails. A failure of the drive or of the local
disk becomes the cause of its own. -/
def uploadFailure (source : LocalPath) (file : RemoteFile) (failure : Failure) : Failure :=
  if failure.isProvider then failure.wrap (.uploadFailed source.toString file.name) else failure

/-- What an upload comes to, by what its steps come to. -/
def uploadOutcome (source : LocalPath) (file : RemoteFile) :
    Except Failure Bool → Except Failure Unit
  | .ok true => .ok ()
  | .ok false =>
    .error (.ofStorage (.renameUnconfirmed (temporaryMark ++ file.name) file.name))
  | .error failure => .error (uploadFailure source file failure)

theorem UploadedTo.of_sameState {s t u : Session} {source : LocalPath} {file : RemoteFile}
    {outcome : Except Failure Bool} (h : UploadedTo source file s outcome t)
    (same : t.SameState u) (calls : u.calls = t.calls) : UploadedTo source file s outcome u := by
  obtain ⟨around, requests, called, steps⟩ := h
  exact ⟨around.trans same.toSameAround, requests, calls.trans called, same.drive ▸ steps⟩

/-- An upload follows its steps up to the request that fails. -/
theorem upload_ends {s : Session} (faulty : s.schedule.RaisingOrUnconfirming)
    (unused : ∀ file ∈ s.drive.files, file.id ≠ s.drive.newId) (source : LocalPath)
    (file : RemoteFile) :
    (upload source file).Ends s fun outcome t =>
      ∃ inner, outcome = uploadOutcome source file inner ∧ UploadedTo source file s inner t := by
  rw [upload, ends_folderFor_bind]
  refine Ends.bind (P := fun outcome t => match outcome with
    | .ok confirmed => UploadedTo source file s (.ok confirmed) t
    | .error failure => ∃ cause, failure = uploadFailure source file cause ∧
        UploadedTo source file s (.error cause) t) ?_ ?_ ?_
  · refine Ends.handleIf (P := UploadedTo source file s) ?_ (fun _ _ h => h) ?_ ?_
    · refine Ends.log_bind fun journal => ends_disk_bind.mpr ?_
      cases read : s.disk.read source with
      | error fault =>
        have told := Session.SameState.journal s journal
        exact ⟨told.toSameAround, [], (List.append_nil _).symm, .unread read⟩
      | ok content => exact staging_naming_ends faulty unused file read journal
    · intro failure t provider h
      refine Ends.log_bind fun journal => ⟨failure, ?_, h.of_sameState (.journal t journal) rfl⟩
      rw [uploadFailure, if_pos provider]
    · intro failure t other h
      refine ⟨failure, ?_, h⟩
      rw [uploadFailure, if_neg (by simp [other])]
  · intro confirmed t h
    cases confirmed with
    | true => exact ends_pure.mpr ⟨.ok true, rfl, h⟩
    | false =>
      refine Ends.log_bind fun journal => ⟨.ok false, rfl, h.of_sameState (.journal t journal) rfl⟩
  · rintro failure t ⟨cause, rfl, h⟩
    exact ⟨.error cause, rfl, h⟩

/-- Without faults an upload adds the file. -/
theorem upload_calm {s : Session} (calm : s.schedule.Calm)
    (unused : ∀ file ∈ s.drive.files, file.id ≠ s.drive.newId) {source : LocalPath}
    {file : RemoteFile} {folder : String} {content : Bytes}
    (sendable : Sendable source file s folder content) :
    (upload source file).Ends s fun outcome t =>
      outcome = .ok () ∧ s.SameAround t ∧ t.drive = s.drive.added file.name folder content := by
  apply (upload_ends calm.raisingOrUnconfirming unused source file).mono
  rintro _ t ⟨inner, rfl, around, requests, _, steps⟩
  have freely (call : CallKind) : s.schedule.next? call = none := (calm.spares call).next?
  have quiet {call : CallKind} {failure : Failure} : ¬ s.schedule.RaisesNext call failure :=
    fun raises => calm.not_raises _ raises.raises
  generalize t.drive = after at steps ⊢
  cases steps with
  | unread read => cases read.symm.trans sendable.read
  | noFolder _ missing =>
    rw [sendable.text, sendable.held] at missing
    cases missing
  | notStaged _ raises | staged _ raises | notNamed _ raises | named _ raises =>
    exact absurd raises quiet
  | unconfirmed _ met => cases (freely .rename).symm.trans met
  | confirmed sent =>
    obtain rfl := Json.string.inj (sent.text.symm.trans sendable.text)
    obtain rfl := Except.ok.inj (sent.read.symm.trans sendable.read)
    exact ⟨rfl, around, rfl⟩

end Repository

end DriveDepot
