import DriveDepot.Proofs.Disk.Tree
import DriveDepot.Proofs.Download.AllOrNothing
import DriveDepot.Proofs.Upload.Interrupted

namespace DriveDepot

/-- The new file is found last. -/
theorem Drive.matching_added (drive : Drive) {name folder : String} (named : Query.Quotable name)
    (placed : Query.Quotable folder) (content : Bytes) :
    (drive.added name folder content).matching (some folder) (some name) =
      drive.matching (some folder) (some name) ++ [drive.newFile name folder content] := by
  have quotable : ∀ c ∈ Query.ofFiles (some folder) (some name), c.Quotable := by
    simp [Query.ofFiles, Clause.Quotable, named, placed]
  rw [matching, matching, if_pos quotable, if_pos quotable, select, added, List.filter_append]
  simp [select, newFile, Query.ofFiles, StoredFile.satisfies]

theorem Drive.downloadUrl_newFile (drive : Drive) (title folder : String) (content : Bytes) :
    ((drive.newFile title folder content).downloadUrl.getD "").isEmpty = false := by
  simp [newFile, defaultUrl, contentType, Query.folderMimeType]

namespace Repository

open Operation

section
variable {s t : Session} {file : RemoteFile} {folder : String} {content : Bytes}
  {target : LocalPath} {directory : Place}

/-- The new file is fetched if the search finds no other one. -/
theorem download_only (calm : t.schedule.Calm) (paged : t.drive.pageSize ≠ some 0)
    (sized : 0 < t.drive.chunkSize) (tree : t.disk.Tree)
    (denoting : denotesNoFile file.name = false)
    (text : t.layout.folderFor file.category = .string folder)
    (writable : t.disk.Writable target directory) {stored : StoredFile}
    (matching : t.drive.matching (some folder) (some file.name) = [stored])
    (held : t.drive.file? (.string stored.id) = some stored)
    (fetchable : (stored.downloadUrl.getD "").isEmpty = false) :
    (download file target).Ends t fun outcome u => u.drive = t.drive ∧ outcome = .ok () ∧
      t.disk.Replaced target stored.content u.disk := by
  have found {outcome : Except Failure FoundFile}
      (located : Search.Located (t.drive.matching (some folder) (some file.name)) folder file.name t
        outcome) : outcome = .ok stored.found := by
    rw [matching] at located
    exact located.eq_only calm paged
  apply (download_ends_of_disposes calm.raising sized denoting (writable.disposes tree)).mono
  rintro outcome u ⟨same, ended⟩
  refine ⟨same.drive, ?_⟩
  cases outcome with
  | ok _ =>
    obtain ⟨folder', told, other, downloaded⟩ := ended
    obtain rfl := Json.string.inj (text.symm.trans downloaded.text)
    obtain rfl := Except.ok.inj (found downloaded.located)
    obtain rfl := Option.some.inj (held.symm.trans downloaded.held)
    exact ⟨rfl, downloaded.delivered.replaced⟩
  | error failure =>
    obtain located | ⟨told, located, empty | gone⟩ := ended.1.of_writable calm tree text writable
    · cases found located
    · obtain rfl := Except.ok.inj (found located)
      cases fetchable.symm.trans empty
    · obtain rfl := Except.ok.inj (found located)
      cases held.symm.trans gone

/-- A download does not choose between several files. -/
theorem download_several (calm : t.schedule.Calm) (paged : t.drive.pageSize ≠ some 0)
    (sized : 0 < t.drive.chunkSize) (tree : t.disk.Tree) (clean : t.disk.scratch = none)
    (denoting : denotesNoFile file.name = false)
    (text : t.layout.folderFor file.category = .string folder)
    (writable : t.disk.Writable target directory)
    (several : 1 < (t.drive.matching (some folder) (some file.name)).length) :
    (download file target).Ends t fun outcome u => u.drive = t.drive ∧ u.disk = t.disk ∧
      outcome = .error (.ofStorage (.severalFiles
        (t.drive.matching (some folder) (some file.name)).length file.name folder)) := by
  have refused {outcome : Except Failure FoundFile}
      (located : Search.Located (t.drive.matching (some folder) (some file.name)) folder file.name t
        outcome) := located.eq_several several calm paged
  apply (download_ends_of_disposes calm.raising sized denoting (writable.disposes tree)).mono
  rintro outcome u ⟨same, ended⟩
  refine ⟨same.drive, ?_⟩
  cases outcome with
  | ok _ =>
    obtain ⟨folder', told, other, downloaded⟩ := ended
    obtain rfl := Json.string.inj (text.symm.trans downloaded.text)
    cases refused downloaded.located
  | error failure =>
    obtain ⟨why, disk⟩ := ended
    have discarded : t.disk.discard = t.disk := by rw [Disk.discard, ← clean]
    rw [discarded, or_self] at disk
    obtain located | ⟨told, located, _⟩ := why.of_writable calm tree text writable
    · exact ⟨disk, congrArg Except.error (Except.error.inj (refused located))⟩
    · cases refused located

end

/-- Without faults, a download that follows an upload of the same name brings the content that was
uploaded if the search found no file of the name before the upload. Otherwise it fails and tells how
many files there are. -/
theorem download_uploaded {s t : Session} (calm : s.schedule.Calm)
    (paged : s.drive.pageSize ≠ some 0) (sized : 0 < s.drive.chunkSize) (tree : s.disk.Tree)
    (clean : s.disk.scratch = none) (unused : ∀ file ∈ s.drive.files, file.id ≠ s.drive.newId)
    {source : LocalPath} {file : RemoteFile} (denoting : denotesNoFile file.name = false)
    (named : Query.Quotable file.name)
    (placed : Query.Quotable (s.layout.folderFor file.category).told)
    (run : runOn (upload source file) s = (.ok (), t)) {target : LocalPath} {directory : Place}
    (writable : s.disk.Writable target directory) :
    ∃ content, s.disk.read source = .ok content ∧
      (download file target).Ends t fun outcome u => u.drive = t.drive ∧
        match s.drive.matching (some (s.layout.folderFor file.category).told)
          (some file.name) with
        | [] => outcome = .ok () ∧ s.disk.Replaced target content u.disk
        | _ :: others => u.disk = s.disk ∧ outcome = .error (.ofStorage (.severalFiles
            (others.length + 2) file.name (s.layout.folderFor file.category).told)) := by
  have uploaded := (upload_interrupted calm.raisingOrUnconfirming unused source file).of_eq run
  obtain ⟨folder, content, sendable, _⟩ := uploaded.succeeded rfl
  obtain ⟨_, around, drive⟩ := (upload_calm calm unused sendable).of_eq run
  have text : t.layout.folderFor file.category = .string folder := by
    rw [around.layout]
    exact sendable.text
  have told : (s.layout.folderFor file.category).told = folder := by
    rw [sendable.text]
    rfl
  rw [told] at placed ⊢
  have matching : t.drive.matching (some folder) (some file.name) =
      s.drive.matching (some folder) (some file.name) ++
        [s.drive.newFile file.name folder content] := by
    rw [drive]
    exact s.drive.matching_added named placed content
  have calm' := around.calm calm
  have paged' : t.drive.pageSize ≠ some 0 := drive ▸ paged
  have sized' : 0 < t.drive.chunkSize := drive ▸ sized
  rw [← around.disk] at tree clean writable
  refine ⟨content, sendable.read, ?_⟩
  rw [← around.disk]
  cases before : s.drive.matching (some folder) (some file.name) with
  | nil =>
    rw [before, List.nil_append] at matching
    have held : t.drive.file? (.string s.drive.newId) =
        some (s.drive.newFile file.name folder content) := by
      rw [drive]
      exact Drive.file?_newId unused ..
    exact download_only calm' paged' sized' tree denoting text writable matching held
      (s.drive.downloadUrl_newFile ..)
  | cons first others =>
    have count : (t.drive.matching (some folder) (some file.name)).length = others.length + 2 := by
      simp [matching, before]
    have ended := download_several calm' paged' sized' tree clean denoting text writable (by omega)
    rw [count] at ended
    exact ended

/-- A drive with files, and a local file to be uploaded. -/
def sending (files : List StoredFile) : Session :=
  smallSession files [] (Disk.empty.set (Disk.workingDirectory ++ ["in"]) (.file [4, 5, 6]))

theorem download_uploaded_sending :
    (sending []).schedule.Calm ∧ (sending []).drive.pageSize ≠ some 0 ∧
      0 < (sending []).drive.chunkSize ∧ (sending []).disk.Tree ∧
      (sending []).disk.scratch = none ∧
      (∀ file ∈ (sending []).drive.files, file.id ≠ (sending []).drive.newId) ∧
      denotesNoFile smallSource.name = false ∧ Query.Quotable smallSource.name ∧
      Query.Quotable ((sending []).layout.folderFor smallSource.category).told ∧
      (runOn (upload ⟨.none, ["in"]⟩ smallSource) (sending [])).1 = .ok () ∧
      (sending []).disk.Writable ⟨.none, ["out"]⟩ Disk.workingDirectory ∧
      (download smallSource ⟨.none, ["out"]⟩).Ends
        (runOn (upload ⟨.none, ["in"]⟩ smallSource) (sending [])).2 fun outcome u =>
          outcome = .ok () ∧ u.disk.readAt ⟨.none, ["out"]⟩ = .ok [4, 5, 6] := by
  have calm : (sending []).schedule.Calm := rfl
  have tree : (sending []).disk.Tree := .of_entries (by decide +kernel)
  have unused : ∀ file ∈ (sending []).drive.files, file.id ≠ (sending []).drive.newId := by
    decide +kernel
  have denoting : denotesNoFile smallSource.name = false := by decide +kernel
  have named : Query.Quotable smallSource.name := by decide +kernel
  have placed : Query.Quotable ((sending []).layout.folderFor smallSource.category).told := by
    decide +kernel
  have succeeded : (runOn (upload ⟨.none, ["in"]⟩ smallSource) (sending [])).1 = .ok () := by
    decide +kernel
  have run : runOn (upload ⟨.none, ["in"]⟩ smallSource) (sending []) =
      (.ok (), (runOn (upload ⟨.none, ["in"]⟩ smallSource) (sending [])).2) := by rw [← succeeded]
  have writable : (sending []).disk.Writable ⟨.none, ["out"]⟩ Disk.workingDirectory := by
    constructor <;> decide +kernel
  have absent : (sending []).drive.matching
      (some ((sending []).layout.folderFor smallSource.category).told) (some smallSource.name) =
        [] := by decide +kernel
  refine ⟨calm, by decide, by decide, tree, rfl, unused, denoting, named, placed, succeeded,
    writable, ?_⟩
  obtain ⟨content, read, ended⟩ := download_uploaded calm (by decide) (by decide) tree rfl unused
    denoting named placed run writable
  have bytes : (sending []).disk.read ⟨.none, ["in"]⟩ = .ok [4, 5, 6] := by decide +kernel
  obtain rfl := Except.ok.inj (read.symm.trans bytes)
  rw [absent] at ended
  exact ended.mono fun _ _ h => ⟨h.2.1, h.2.2.holds.readAt fun _ =>
    Disk.obstacle?_of_forall (by rw [h.2.2.barriers]; nofun)⟩

/-- The upload succeeds where the folder holds a file of the name already, and the name leads to
neither file any more. -/
theorem download_uploaded_again :
    (sending [smallFile "1" "temp-1" "temporary" [1, 2, 3]]).schedule.Calm ∧
      (upload ⟨.none, ["in"]⟩ smallSource).Ends
        (sending [smallFile "1" "temp-1" "temporary" [1, 2, 3]]) fun outcome t =>
          outcome = .ok () ∧ (runOn (download smallSource ⟨.none, ["out"]⟩) t).1 =
            .error (.ofStorage (.severalFiles 2 "temp-1" "temporary")) := by
  refine ⟨rfl, ?_, ?_⟩ <;> decide +kernel

end Repository

end DriveDepot
