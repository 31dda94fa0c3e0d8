import DriveDepot.Proofs.Disk.Tree
import DriveDepot.Proofs.Folder
import DriveDepot.Repository.Transfer

namespace DriveDepot

/-- How many chunks of a size bring a content of a length. An empty content takes one. -/
def chunkCount (size length : Nat) : Nat := max 1 ((length + size - 1) / size)

theorem chunkCount_of_le {size length : Nat} (sized : 0 < size) (last : length ≤ size) :
    chunkCount size length = 1 := by
  have : (length + size - 1) / size ≤ 1 := by
    apply Nat.le_of_lt_succ
    rw [Nat.div_lt_iff_lt_mul sized]
    omega
  rw [chunkCount]
  omega

theorem chunkCount_of_lt {size length : Nat} (sized : 0 < size) (more : size < length) :
    chunkCount size length = chunkCount size (length - size) + 1 := by
  have step : (length + size - 1) / size = (length - size + size - 1) / size + 1 := by
    rw [← Nat.add_div_right _ sized]
    congr 1
    omega
  have another : 1 ≤ (length - size + size - 1) / size := by
    rw [Nat.le_div_iff_mul_le sized]
    omega
  rw [chunkCount, chunkCount, step]
  omega

namespace Session

structure SameButDisk (s t : Session) : Prop where
  drive : t.drive = s.drive
  layout : t.layout = s.layout
  faults : t.schedule.faults = s.schedule.faults

structure SameButScratch (s t : Session) : Prop extends SameButDisk s t where
  disk : t.disk.discard = s.disk.discard

structure SameButStaged (s t : Session) : Prop extends SameButScratch s t where
  place : t.disk.scratch.map (·.place) = s.disk.scratch.map (·.place)

theorem SameButDisk.trans {s t u : Session} (h : s.SameButDisk t) (k : t.SameButDisk u) :
    s.SameButDisk u :=
  ⟨k.drive.trans h.drive, k.layout.trans h.layout, k.faults.trans h.faults⟩

theorem SameButScratch.trans {s t u : Session} (h : s.SameButScratch t) (k : t.SameButScratch u) :
    s.SameButScratch u :=
  ⟨h.toSameButDisk.trans k.toSameButDisk, k.disk.trans h.disk⟩

theorem SameButStaged.trans {s t u : Session} (h : s.SameButStaged t) (k : t.SameButStaged u) :
    s.SameButStaged u :=
  ⟨h.toSameButScratch.trans k.toSameButScratch, k.place.trans h.place⟩

theorem SameButStaged.journal (s : Session) (journal : List Record) :
    s.SameButStaged { s with journal := journal } := ⟨⟨⟨rfl, rfl, rfl⟩, rfl⟩, rfl⟩

theorem SameState.sameButScratch {s t : Session} (h : s.SameState t) : s.SameButScratch t :=
  ⟨⟨h.drive, h.layout, h.faults⟩, congrArg _ h.disk⟩

theorem SameButScratch.nodes {s t : Session} (h : s.SameButScratch t) :
    s.disk.SameNodes t.disk := .of_discard h.disk

theorem SameButDisk.raising {s t : Session} (h : s.SameButDisk t) (raising : s.schedule.Raising) :
    t.schedule.Raising := raising.of_faults h.faults

theorem SameButDisk.raises_iff {s t : Session} (h : s.SameButDisk t) (failure : Failure) :
    t.schedule.Raises failure ↔ s.schedule.Raises failure := by
  rw [Schedule.Raises, Schedule.Raises, h.faults]

end Session

namespace Repository

open Operation

theorem isLast_array (last : Bool) : isLast (.array [.null, .bool last]) = .ok last := by
  cases last <;> rfl

/-- The session after one more chunk of a content. -/
def chunked (s : Session) (content : Bytes) : Session :=
  { s.called .nextChunk with
    disk := s.disk.append ((content.drop s.disk.staged.length).take s.drive.chunkSize) }

theorem sameButStaged_chunked (s : Session) (content : Bytes) :
    s.SameButStaged (chunked s content) :=
  ⟨⟨⟨rfl, rfl, rfl⟩, rfl⟩, Option.map_map _ _ _⟩

theorem chunk_ends {s : Session} (raising : s.schedule.Raising) (content : Bytes) :
    (perform .nextChunk (writeChunk content)).Ends s fun outcome t =>
      match outcome with
      | .ok answer => t = chunked s content ∧
          answer = .array [.null, .bool (content.length ≤ t.disk.staged.length)]
      | .error failure => s.schedule.Raises failure ∧ s.SameButStaged t := by
  have effect : (writeChunk content).Ends (s.called .nextChunk) fun outcome t =>
      outcome = .ok (.array [.null, .bool (content.length ≤ t.disk.staged.length)]) ∧
        t = chunked s content := ⟨rfl, rfl⟩
  apply (Ends.perform raising effect).mono
  rintro outcome t (⟨rfl, rfl⟩ | ⟨failure, rfl, raises, rfl | ⟨value, _, rfl⟩⟩)
  · exact ⟨rfl, rfl⟩
  · exact ⟨raises, ⟨⟨rfl, rfl, rfl⟩, rfl⟩, rfl⟩
  · exact ⟨raises, sameButStaged_chunked s content⟩

theorem scratch_chunked {s : Session} {content : Bytes} {place : Place} {k : Nat}
    (within : k ≤ content.length)
    (scratch : s.disk.scratch = some ⟨place, content.take k⟩) :
    (chunked s content).disk.scratch =
      some ⟨place, content.take (k + s.drive.chunkSize)⟩ := by
  have staged : s.disk.staged.length = k := by
    rw [Disk.staged, scratch]
    exact List.length_take_of_le within
  rw [List.take_add, ← staged]
  simp [chunked, Disk.append, scratch, staged]

/-- The temporary file holds the first part of the content, and each chunk adds the next. -/
theorem fetchChunks_ends {s : Session} (raising : s.schedule.Raising)
    (sized : 0 < s.drive.chunkSize) {content : Bytes} {place : Place} {k bound : Nat}
    (within : k ≤ content.length) (scratch : s.disk.scratch = some ⟨place, content.take k⟩)
    (enough : content.length - k < bound) :
    (fetchChunks content bound).Ends s fun outcome t => s.SameButStaged t ∧
      match outcome with
      | .ok _ => t.disk.scratch = some ⟨place, content⟩ ∧
          t.chunks = s.chunks + chunkCount s.drive.chunkSize (content.length - k)
      | .error failure => s.schedule.Raises failure := by
  induction bound generalizing s k with
  | zero => exact absurd enough (Nat.not_lt_zero _)
  | succ bound ih =>
    rw [fetchChunks]
    refine (chunk_ends raising content).bind ?_ fun failure t h => ⟨h.2, h.1⟩
    rintro answer t ⟨rfl, rfl⟩
    have same := sameButStaged_chunked s content
    have grown := scratch_chunked within scratch
    have asked : (chunked s content).chunks = s.chunks + 1 := s.chunks_called .nextChunk
    have staged : (chunked s content).disk.staged.length =
        min (k + s.drive.chunkSize) content.length := by
      rw [Disk.staged, grown]
      exact List.length_take
    have complete : content.length ≤ (chunked s content).disk.staged.length ↔
        content.length ≤ k + s.drive.chunkSize := by omega
    rw [isLast_array, ofMishap, ofExcept_ok, pure_bind]
    by_cases last : content.length ≤ k + s.drive.chunkSize
    · rw [if_neg (by simpa using complete.mpr last)]
      refine ends_pure.mpr ⟨same, ?_, ?_⟩
      · rw [grown, List.take_of_length_le last]
      · rw [asked, chunkCount_of_le sized (by omega)]
    · rw [if_pos (by simpa using mt complete.mp last)]
      have raising' : (chunked s content).schedule.Raising := raising
      apply (ih raising' sized (by omega) grown (by omega)).mono
      rintro outcome u ⟨same', ended⟩
      refine ⟨same.trans same', ?_⟩
      cases outcome with
      | error failure => exact ended
      | ok _ =>
        refine ⟨ended.1, ?_⟩
        have fewer : content.length - (k + s.drive.chunkSize) =
            content.length - k - s.drive.chunkSize := by omega
        rw [ended.2, asked, chunkCount_of_lt sized (by omega), fewer]
        simp only [chunked, Session.called]
        omega

/-- What fetching a file to the temporary file comes to. -/
def Fetched (id : String) (place : Place) (s : Session) (outcome : Except Failure Unit)
    (t : Session) : Prop :=
  match outcome with
  | .ok _ => ∃ file, s.drive.file? (.string id) = some file ∧
      t.disk.scratch = some ⟨place, file.content⟩ ∧
      t.chunks = s.chunks + chunkCount s.drive.chunkSize file.content.length
  | .error failure => s.schedule.Raises failure ∨
      s.drive.file? (.string id) = none ∧ failure = .ofProvider .notFound

theorem fetch_ends {s : Session} (raising : s.schedule.Raising) (sized : 0 < s.drive.chunkSize)
    {place : Place} (scratch : s.disk.scratch = some ⟨place, []⟩) (id : String) :
    (fetch id).Ends s fun outcome t => s.SameButStaged t ∧ Fetched id place s outcome t := by
  rw [fetch, record, ends_modify_bind, ends_get_bind]
  have opened : s.SameButStaged { s with calls := s.calls ++ [.openMedia id] } :=
    ⟨⟨⟨rfl, rfl, rfl⟩, rfl⟩, rfl⟩
  have raising' : ({ s with calls := s.calls ++ [.openMedia id] } : Session).schedule.Raising :=
    raising
  have unasked : ({ s with calls := s.calls ++ [.openMedia id] } : Session).chunks = s.chunks := by
    simp [Session.chunks, Call.kind]
  cases held : s.drive.file? (.string id) with
  | none => exact ⟨opened, .inr ⟨held, rfl⟩⟩
  | some file =>
    refine (fetchChunks_ends (k := 0) raising' sized (Nat.zero_le _) scratch ?_).mono ?_
    · rw [chunkBound]
      omega
    · rintro outcome t ⟨same, ended⟩
      refine ⟨opened.trans same, ?_⟩
      cases outcome with
      | error failure => exact .inl ended
      | ok _ => exact ⟨file, held, ended.1, unasked ▸ ended.2⟩

/-- What a download fails with once it has begun. -/
def downloadFailure (name : String) (failure : Failure) : Failure :=
  if failure.isProvider then failure.wrap (.downloadFailed name) else failure

/-- What a download fails with where its temporary file cannot be made. -/
def stagingFailure (target : LocalPath) (fault : Disk.Fault) : Failure :=
  if (Failure.ofDisk fault).isProvider then
    (Failure.ofDisk fault).wrap (.noTemporaryFile target.toString)
  else .ofDisk fault

theorem stage_ends (s : Session) (target : LocalPath) :
    (stage target).Ends s fun outcome t =>
      match outcome with
      | .ok _ => ∃ place, s.disk.locate (Disk.scratchPath target) = .ok place ∧
          t = { s with disk := { s.disk with scratch := some ⟨place, []⟩ } }
      | .error failure =>
        t = s ∧ ∃ fault, s.disk.stage target = .error fault ∧
          failure = stagingFailure target fault := by
  have staged : (do setDisk (← ofDisk ((← disk).stage target)) : Operation Unit).Ends s
      fun outcome t =>
        match outcome with
        | .ok _ => ∃ place, s.disk.locate (Disk.scratchPath target) = .ok place ∧
            t = { s with disk := { s.disk with scratch := some ⟨place, []⟩ } }
        | .error failure =>
          t = s ∧ ∃ fault, s.disk.stage target = .error fault ∧ failure = .ofDisk fault := by
    rw [ends_disk_bind]
    refine Ends.ofExcept_bind (fun after staged => ?_)
      fun fault refused => ⟨rfl, fault, refused, rfl⟩
    obtain ⟨place, located, rfl⟩ := Disk.stage_eq_ok staged
    exact ⟨place, located, rfl⟩
  refine staged.handleIf (fun _ _ h => h) ?_ ?_
  · rintro failure t provider ⟨rfl, fault, refused, rfl⟩
    exact ends_throw.mpr ⟨rfl, fault, refused, (if_pos provider).symm⟩
  · rintro failure t other ⟨rfl, fault, refused, rfl⟩
    exact ⟨rfl, fault, refused, by simp [stagingFailure, other]⟩

inductive Unfinished (target : LocalPath) (id : String) (s : Session) : Failure → Prop
  | raised {failure : Failure} (raises : s.schedule.Raises failure) : Unfinished target id s failure
  | unknown (gone : s.drive.file? (.string id) = none) :
      Unfinished target id s (.ofProvider .notFound)
  | notReplaced {staged : Disk} {fault : Disk.Fault} (same : staged.discard = s.disk.discard)
      (refused : staged.commit target = .error fault) : Unfinished target id s (.ofDisk fault)

/-- The content of a file has taken the place of the target. -/
structure Finished (target : LocalPath) (id : String) (s t : Session) (file : StoredFile) :
    Prop where
  held : s.drive.file? (.string id) = some file
  disk : ∃ place, s.disk.locate target = .ok place ∧ s.disk.node? place ≠ some .directory ∧
    t.disk = s.disk.discard.set place (.file file.content)
  chunks : t.chunks = s.chunks + chunkCount s.drive.chunkSize file.content.length

section
variable {target : LocalPath} {id : String} {s t u : Session}

theorem Finished.of_same {file : StoredFile} (same : s.SameButScratch t)
    (asked : t.chunks = s.chunks) (h : Finished target id t u file) :
    Finished target id s u file := by
  obtain ⟨held, ⟨place, located, other, disk⟩, chunks⟩ := h
  refine ⟨same.drive ▸ held, ⟨place, ?_, same.nodes.node? place ▸ other, same.disk ▸ disk⟩, ?_⟩
  · exact (Disk.locate_congr same.nodes target).symm.trans located
  · rw [chunks, asked, same.drive]

theorem Unfinished.of_same {failure : Failure} (same : s.SameButScratch t)
    (h : Unfinished target id t failure) : Unfinished target id s failure := by
  cases h with
  | raised raises => exact .raised ((same.raises_iff _).mp raises)
  | unknown gone => exact .unknown (same.drive ▸ gone)
  | notReplaced same' refused => exact .notReplaced (same'.trans same.disk) refused

end

theorem stagingFailure_ne_endless (target : LocalPath) (fault : Disk.Fault) :
    stagingFailure target fault ≠ .endless := by
  rw [stagingFailure]
  split
  · exact Failure.wrap_ne_endless (Failure.ofDisk_ne_endless fault) _
  · exact Failure.ofDisk_ne_endless fault

theorem downloadFailure_ne_endless {failure : Failure} (ended : failure ≠ .endless)
    (name : String) : downloadFailure name failure ≠ .endless := by
  rw [downloadFailure]
  split
  · exact Failure.wrap_ne_endless ended _
  · exact ended

theorem Unfinished.ne_endless {target : LocalPath} {id : String} {s : Session} {failure : Failure}
    (why : Unfinished target id s failure) : failure ≠ .endless := by
  cases why with
  | raised raises => exact raises.ne_endless
  | unknown => nofun
  | notReplaced => exact Failure.ofDisk_ne_endless _

/-- The temporary file has nothing in it before the first chunk. -/
theorem fetchTo_ends {s : Session} (raising : s.schedule.Raising) (sized : 0 < s.drive.chunkSize)
    {place : Place} (scratch : s.disk.scratch = some ⟨place, []⟩) (target : LocalPath)
    (name id : String) :
    (fetchTo target name id).Ends s fun outcome t => s.SameButDisk t ∧
      match outcome with
      | .ok _ => ∃ file, Finished target id s t file
      | .error failure => t.disk.discard = s.disk.discard ∧
          t.disk.scratch.map (·.place) = some place ∧
          ∃ inner, Unfinished target id s inner ∧ failure = downloadFailure name inner := by
  rw [fetchTo]
  refine Ends.handleIf (P := fun outcome t => s.SameButDisk t ∧
    match outcome with
    | .ok _ => ∃ file, Finished target id s t file
    | .error failure => t.disk.discard = s.disk.discard ∧
        t.disk.scratch.map (·.place) = some place ∧ Unfinished target id s failure)
    ?_ ?_ ?_ ?_
  · apply Ends.log_bind
    intro journal
    have told := Session.SameButStaged.journal s journal
    have begun : s.disk.scratch.map (·.place) = some place := by rw [scratch]; rfl
    refine (fetch_ends (told.raising raising) sized scratch id).bind ?_ ?_
    · rintro _ t ⟨later, file, held, full, asked⟩
      have same := told.trans later
      refine Ends.log_bind fun journal => ends_disk_bind.mpr ?_
      refine Ends.ofExcept_bind (fun after committed => ?_) fun fault refused => ?_
      · obtain ⟨place, located, other, rfl⟩ := Disk.commit_eq_ok committed
        refine ⟨⟨same.drive, same.layout, same.faults⟩, file, held, ⟨place, ?_, ?_, ?_⟩, asked⟩
        · exact (Disk.locate_congr same.nodes target).symm.trans located
        · exact same.nodes.node? place ▸ other
        · rw [Disk.staged, full]
          exact congrArg (Disk.set · place (.file file.content)) same.disk
      · exact ⟨⟨same.drive, same.layout, same.faults⟩, same.disk, same.place.trans begun,
          .notReplaced same.disk refused⟩
    · rintro failure t ⟨later, why⟩
      have same := told.trans later
      obtain raises | ⟨gone, rfl⟩ := why
      · exact ⟨same.toSameButDisk, same.disk, same.place.trans begun, .raised raises⟩
      · exact ⟨same.toSameButDisk, same.disk, same.place.trans begun, .unknown gone⟩
  · exact fun _ _ h => h
  · rintro failure t provider ⟨same, disk, staged, why⟩
    refine Ends.log_bind fun journal => ends_throw.mpr
      ⟨⟨same.drive, same.layout, same.faults⟩, disk, staged, failure, why, ?_⟩
    rw [downloadFailure, if_pos provider]
  · rintro failure t other ⟨same, disk, staged, why⟩
    exact ⟨same, disk, staged, failure, why, by simp [downloadFailure, other]⟩

inductive DownloadFailed (file : RemoteFile) (target : LocalPath) (s : Session) : Failure → Prop
  | noText {kind : Json.Kind}
      (other : (s.layout.folderFor file.category).text = .error (.notAText kind)) :
      DownloadFailed file target s (.ofMishap (.notAText kind))
  | notLocated {folder : String} {failure : Failure}
      (text : s.layout.folderFor file.category = .string folder)
      (located : Search.Located (s.drive.matching folder file.name) folder file.name s
        (.error failure)) : DownloadFailed file target s failure
  | noUrl {folder : String} {found : FoundFile}
      (text : s.layout.folderFor file.category = .string folder)
      (located : Search.Located (s.drive.matching folder file.name) folder file.name s (.ok found))
      (empty : (found.downloadUrl.getD "").isEmpty = true) :
      DownloadFailed file target s (.ofStorage (.noDownloadUrl file.name))
  | noTemporaryFile {fault : Disk.Fault} (refused : s.disk.stage target = .error fault) :
      DownloadFailed file target s (stagingFailure target fault)
  | unfinished {folder : String} {found : FoundFile} {failure : Failure}
      (text : s.layout.folderFor file.category = .string folder)
      (located : Search.Located (s.drive.matching folder file.name) folder file.name s (.ok found))
      (why : Unfinished target found.id s failure) :
      DownloadFailed file target s (downloadFailure file.name failure)

structure Downloaded (file : RemoteFile) (target : LocalPath) (s t : Session) (folder : String)
    (found : FoundFile) (stored : StoredFile) : Prop extends
    Finished target found.id s t stored where
  text : s.layout.folderFor file.category = .string folder
  located : Search.Located (s.drive.matching folder file.name) folder file.name s (.ok found)

/-- The temporary file for the target stays behind, as it may not be removed from its directory.
This is what the failure tells, and nothing else has changed on the disk. -/
def Abandoned (before : Disk) (target : LocalPath) (after : Disk) (failure : Failure) : Prop :=
  ∃ place content obstacle, before.locate (Disk.scratchPath target) = .ok place ∧
    before.obstacle? .remove place.dropLast = some obstacle ∧
    after = { before with scratch := some ⟨place, content⟩ } ∧
    failure = .ofDisk ⟨.barred obstacle, (Disk.scratchPath target).toString, none⟩

theorem Abandoned.not_disposes {before after : Disk} {target : LocalPath} {failure : Failure}
    (h : Abandoned before target after failure) : ¬ before.Disposes target := by
  obtain ⟨place, content, obstacle, located, barred, _⟩ := h
  intro disposes
  cases barred.symm.trans (disposes place located)

theorem unstage_of_clean {s : Session} (clean : s.disk.scratch = none) (target : LocalPath) :
    (unstage target).Ends s fun outcome t =>
      outcome = .ok () ∧ t = { s with disk := s.disk.discard } := by
  rw [unstage, ends_disk_bind, Disk.unlink_of_clean clean]
  exact ⟨rfl, rfl⟩

theorem unstage_ends {s before : Session} {target : LocalPath} {place : Place}
    (located : before.disk.locate (Disk.scratchPath target) = .ok place)
    (staged : s.disk.scratch.map (·.place) = some place)
    (rest : s.disk.discard = before.disk.discard) :
    (unstage target).Ends s fun outcome t => s.SameButDisk t ∧
      match outcome with
      | .ok _ => t.disk = before.disk.discard
      | .error failure => Abandoned before.disk target t.disk failure := by
  obtain ⟨⟨_, content⟩, there, begun⟩ := Option.map_eq_some_iff.mp staged
  obtain rfl : place = _ := begun.symm
  rw [unstage, ends_disk_bind]
  obtain removed | ⟨obstacle, barred, refused⟩ := Disk.unlink_cases there target
  · rw [removed]
    exact ⟨⟨rfl, rfl, rfl⟩, rest⟩
  · rw [refused]
    have same := Disk.SameNodes.of_discard rest
    refine ⟨⟨rfl, rfl, rfl⟩, place, content, obstacle, located, ?_, ?_, rfl⟩
    · rw [← barred, Disk.obstacle?_congr same.barriers]
    · have whole : s.disk = { s.disk.discard with scratch := some ⟨place, content⟩ } := by
        rw [← there]
        rfl
      exact whole.trans (by rw [rest]; rfl)

theorem unlink_of_fetchTo {s : Session} (raising : s.schedule.Raising)
    (sized : 0 < s.drive.chunkSize) {place : Place}
    (scratch : s.disk.scratch = some ⟨place, []⟩) {target : LocalPath}
    (removable : s.disk.obstacle? .remove place.dropLast = none) (name id : String) :
    (fetchTo target name id).Ends s fun _ t => t.disk.unlink target = .ok t.disk.discard := by
  apply (fetchTo_ends raising sized scratch target name id).mono
  rintro (failure | _) t ⟨_, ended⟩
  · obtain ⟨disk, staged, _⟩ := ended
    obtain ⟨⟨_, content⟩, there, begun⟩ := Option.map_eq_some_iff.mp staged
    obtain rfl : place = _ := begun.symm
    have same := Disk.SameNodes.of_discard disk
    obtain removed | ⟨obstacle, barred, _⟩ := Disk.unlink_cases there target
    · exact removed
    · rw [Disk.obstacle?_congr same.barriers, removable] at barred
      cases barred
  · obtain ⟨file, finished⟩ := ended
    obtain ⟨_, _, _, disk⟩ := finished.disk
    exact Disk.unlink_of_clean (by rw [disk]; rfl) target

theorem stage_fetchTo_ends {s : Session} (raising : s.schedule.Raising)
    (sized : 0 < s.drive.chunkSize) (target : LocalPath) (name id : String) :
    (do stage target; ensuring (fetchTo target name id) (unstage target) : Operation Unit).Ends s
      fun outcome t => s.SameButDisk t ∧
        match outcome with
        | .ok _ => ∃ file, Finished target id s t file
        | .error failure =>
          (t.disk = s.disk ∧ ∃ fault, s.disk.stage target = .error fault ∧
            failure = stagingFailure target fault) ∨
          (t.disk = s.disk.discard ∧
            ∃ inner, Unfinished target id s inner ∧ failure = downloadFailure name inner) ∨
          Abandoned s.disk target t.disk failure := by
  refine (stage_ends s target).bind ?_ ?_
  · rintro _ t ⟨place, spot, rfl⟩
    have same : s.SameButScratch { s with disk := { s.disk with scratch := some ⟨place, []⟩ } } :=
      ⟨⟨rfl, rfl, rfl⟩, rfl⟩
    refine (fetchTo_ends (same.raising raising) sized rfl target name id).ensuring ?_ ?_
    · rintro outcome u ⟨later, ended⟩
      have around := same.toSameButDisk.trans later
      cases outcome with
      | ok _ =>
        obtain ⟨file, finished⟩ := ended
        obtain ⟨held, ⟨place, located, other, disk⟩, chunks⟩ := finished.of_same same rfl
        have clean : u.disk.scratch = none := by rw [disk]; rfl
        apply (unstage_of_clean clean target).mono
        rintro _ v ⟨rfl, rfl⟩
        refine ⟨⟨around.drive, around.layout, around.faults⟩, file, held,
          ⟨place, located, other, ?_⟩, chunks⟩
        exact congrArg Disk.discard disk
      | error failure =>
        obtain ⟨disk, staged, inner, why, rfl⟩ := ended
        apply (unstage_ends spot staged (disk.trans same.disk)).mono
        rintro (failure | _) v ⟨last, ended⟩
        · exact ⟨around.trans last, .inr (.inr ended)⟩
        · exact ⟨around.trans last, .inr (.inl ⟨ended, inner, why.of_same same, rfl⟩)⟩
    · rintro t ⟨_, _, _, inner, why, endless⟩
      exact absurd endless.symm (downloadFailure_ne_endless why.ne_endless name)
  · rintro failure t ⟨rfl, fault, refused, rfl⟩
    exact ⟨⟨rfl, rfl, rfl⟩, .inl ⟨rfl, fault, refused, rfl⟩⟩

theorem download_of_denotesNoFile {file : RemoteFile} (none : denotesNoFile file.name = true)
    (target : LocalPath) (s : Session) : runOn (download file target) s = (.ok (), s) := by
  simp [download, none]

theorem download_ends {s : Session} (raising : s.schedule.Raising)
    (sized : 0 < s.drive.chunkSize) {file : RemoteFile} (named : denotesNoFile file.name = false)
    (target : LocalPath) :
    (download file target).Ends s fun outcome t => s.SameButDisk t ∧
      match outcome with
      | .ok _ => ∃ folder found stored, Downloaded file target s t folder found stored
      | .error failure => (DownloadFailed file target s failure ∧
          (t.disk = s.disk ∨ t.disk = s.disk.discard)) ∨
          Abandoned s.disk target t.disk failure := by
  simp only [download, named, Bool.false_eq_true, ↓reduceIte]
  rw [ends_folderFor_bind]
  obtain ⟨folder, text⟩ | other := text_or_not (s.layout.folderFor file.category)
  · rw [text, oneFileIn_string]
    refine (Search.oneFile_ends raising _ _).bind ?_ ?_
    · rintro found t ⟨same, located⟩
      by_cases empty : (found.downloadUrl.getD "").isEmpty = true
      · rw [if_pos empty]
        exact ⟨⟨same.drive, same.layout, same.faults⟩,
          .inl ⟨.noUrl text located empty, .inl same.disk⟩⟩
      · rw [if_neg empty]
        apply (stage_fetchTo_ends (same.raising raising) (same.drive ▸ sized) _ _ _).mono
        rintro outcome u ⟨later, ended⟩
        have alike := same.sameButScratch
        refine ⟨alike.toSameButDisk.trans later, ?_⟩
        cases outcome with
        | ok _ =>
          obtain ⟨stored, finished⟩ := ended
          exact ⟨folder, found, stored, finished.of_same alike same.chunks, text, located⟩
        | error failure =>
          obtain ⟨disk, fault, refused, rfl⟩ | ⟨disk, inner, why, rfl⟩ | abandoned := ended
          · exact .inl ⟨.noTemporaryFile (same.disk ▸ refused), .inl (disk.trans same.disk)⟩
          · exact .inl ⟨.unfinished text located (why.of_same alike), .inr (same.disk ▸ disk)⟩
          · exact .inr (same.disk ▸ abandoned)
    · rintro failure t ⟨same, located⟩
      exact ⟨⟨same.drive, same.layout, same.faults⟩,
        .inl ⟨.notLocated text located, .inl same.disk⟩⟩
  · rw [oneFileIn_notText other]
    exact ⟨⟨rfl, rfl, rfl⟩, .inl ⟨.noText other, .inl rfl⟩⟩

/-- Where the temporary file may be removed again, a download that fails has left nothing behind. -/
theorem download_ends_of_disposes {s : Session} (raising : s.schedule.Raising)
    (sized : 0 < s.drive.chunkSize) {file : RemoteFile} (named : denotesNoFile file.name = false)
    {target : LocalPath} (disposes : s.disk.Disposes target) :
    (download file target).Ends s fun outcome t => s.SameButDisk t ∧
      match outcome with
      | .ok _ => ∃ folder found stored, Downloaded file target s t folder found stored
      | .error failure => DownloadFailed file target s failure ∧
          (t.disk = s.disk ∨ t.disk = s.disk.discard) := by
  apply (download_ends raising sized named target).mono
  rintro (failure | _) t ⟨same, ended⟩
  · exact ⟨same, ended.resolve_right fun abandoned => abandoned.not_disposes disposes⟩
  · exact ⟨same, ended⟩

/-- A download to a target that can be written fails only where the file is not found or cannot be
fetched. -/
theorem DownloadFailed.of_writable {s : Session} (calm : s.schedule.Calm) (tree : s.disk.Tree)
    {file : RemoteFile} {folder : String}
    (text : s.layout.folderFor file.category = .string folder) {target : LocalPath}
    {directory : Place} (writable : s.disk.Writable target directory) {failure : Failure}
    (h : DownloadFailed file target s failure) :
    Search.Located (s.drive.matching folder file.name) folder file.name s (.error failure) ∨
      ∃ found,
        Search.Located (s.drive.matching folder file.name) folder file.name s (.ok found) ∧
          ((found.downloadUrl.getD "").isEmpty = true ∨
            s.drive.file? (.string found.id) = none) := by
  cases h with
  | noText other => simp [text, Json.text] at other
  | notLocated told located =>
    obtain rfl := Json.string.inj (text.symm.trans told)
    exact .inl located
  | noUrl told located empty =>
    obtain rfl := Json.string.inj (text.symm.trans told)
    exact .inr ⟨_, located, .inl empty⟩
  | noTemporaryFile refused => cases refused.symm.trans (writable.stage tree)
  | unfinished told located why =>
    obtain rfl := Json.string.inj (text.symm.trans told)
    cases why with
    | raised raises => exact absurd raises (calm.not_raises _)
    | unknown gone => exact .inr ⟨_, located, .inr gone⟩
    | notReplaced same refused => cases refused.symm.trans (writable.commit same)

end Repository

end DriveDepot
