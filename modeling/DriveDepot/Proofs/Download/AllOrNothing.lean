import DriveDepot.Proofs.Changes
import DriveDepot.Proofs.Download

namespace DriveDepot.Repository

open Operation

structure Delivered (file : RemoteFile) (target : LocalPath) (s t : Session) (found : FoundFile)
    (stored : StoredFile) : Prop where
  listed : ∃ listed ∈ s.drive.matching (some (s.layout.folderFor file.category).told)
    (some file.name), listed.found = found
  held : s.drive.file? (.string found.id) = some stored
  replaced : s.disk.Replaced target stored.content t.disk
  chunks : t.chunks = s.chunks + chunkCount s.drive.chunkSize stored.content.length

/-- Where no id is used twice, the content is that of the file that was listed. -/
theorem Delivered.stored_mem {file : RemoteFile} {target : LocalPath} {s t : Session}
    {found : FoundFile} {stored : StoredFile} (h : Delivered file target s t found stored)
    (distinct : s.drive.DistinctIds) :
    stored.found = found ∧ stored ∈ s.drive.matching
      (some (s.layout.folderFor file.category).told) (some file.name) := by
  obtain ⟨listed, member, rfl⟩ := h.listed
  obtain ⟨there, same, _⟩ := Drive.file?_eq_some h.held
  obtain rfl := distinct.eq there (Drive.mem_of_matching member).1 same
  exact ⟨rfl, member⟩

theorem Downloaded.delivered {file : RemoteFile} {target : LocalPath} {s t : Session}
    {folder : String} {found : FoundFile} {stored : StoredFile}
    (h : Downloaded file target s t folder found stored) :
    Delivered file target s t found stored := by
  obtain ⟨place, located, other, disk⟩ := h.disk
  refine ⟨?_, h.held, disk ▸ Disk.replaced_set located other _, h.chunks⟩
  rw [h.text]
  cases h.located with
  | only collected => exact collected.stored (List.mem_singleton_self found)

/-- The loop over the chunks comes to an end, and so does the one over the pages unless they are
empty. -/
theorem DownloadFailed.endless {file : RemoteFile} {target : LocalPath} {s : Session}
    (h : DownloadFailed file target s .endless) : s.drive.pageSize = some 0 := by
  generalize why : Failure.endless = failure at h
  cases h with
  | noText | noUrl => cases why
  | noTemporaryFile => exact absurd why.symm (stagingFailure_ne_endless _ _)
  | notLocated text located =>
    obtain rfl := why
    cases located with
    | failed collected =>
      cases collected with
      | raised raises => exact absurd rfl raises.ne_endless
      | endless empty => exact empty
  | unfinished text located unfinished =>
    exact absurd why.symm (downloadFailure_ne_endless unfinished.ne_endless _)

/-- A fault hits the second of two chunks, after its bytes were written. -/
def atLastChunk : Session :=
  smallSession [smallFile "1" "temp-1" "temporary" [1, 2, 3]]
    [⟨.nextChunk, some 2, true, .raises (.provider (.http 500 "boom"))⟩] .empty

/-- The same download into a directory that takes new files but does not let them go. -/
example :
    let held : Session := { atLastChunk with
      disk := { Disk.empty with barriers := [⟨Disk.workingDirectory, .remove, .notPermitted⟩] } }
    let (outcome, t) := runOn (download smallSource ⟨.none, ["out"]⟩) held
    outcome = .error (.ofDisk
        ⟨.barred .notPermitted, "/local/.out-########.tmp", none⟩) ∧
      t.disk.scratch = some ⟨["local", ".out-########.tmp"], [1, 2, 3]⟩ := by
  decide +kernel

end DriveDepot.Repository
