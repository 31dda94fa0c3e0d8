import DriveDepot.Proofs.Changes
import DriveDepot.Proofs.Folder
import DriveDepot.Repository.Transfer

namespace DriveDepot

/-- No fault says of a file to be deleted that the drive does not know it. -/
def Schedule.Candid (schedule : Schedule) : Prop :=
  ∀ fault ∈ schedule.faults, fault.call = .delete →
    ∀ reason, fault.outcome = .raises reason → (Failure.raised reason []).isNotFound = false

theorem Schedule.Candid.of_faults {schedule other : Schedule} (candid : schedule.Candid)
    (same : other.faults = schedule.faults) : other.Candid := by
  rw [Candid, same]
  exact candid

theorem Schedule.Candid.isNotFound_eq_false {schedule : Schedule} (candid : schedule.Candid)
    {failure : Failure} (raises : schedule.RaisesNext .delete failure) :
    failure.isNotFound = false := by
  obtain ⟨fault, met, reason, outcome, rfl⟩ := raises
  obtain ⟨member, concerned⟩ := mem_of_next? met
  exact candid fault member concerned reason outcome

theorem Failure.isNotFound_eq_false {failure : Failure} (other : failure.isProvider = false) :
    failure.isNotFound = false := by
  match failure with
  | .raised (.provider _) _ => cases other
  | .raised (.storage _) _ | .raised (.mishap _) _ | .endless => rfl

namespace Repository

open Operation

/-- What a deletion fails with where the drive does not delete one of the files. -/
def deletionFailure (name : String) (failure : Failure) : Failure :=
  if failure.isProvider then failure.wrap (.deletionFailed name) else failure

inductive Deleted (name id : String) (s : Session) : Except Failure Unit → Drive → Prop
  | done : Deleted name id s (.ok ()) (s.drive.applyAll [.drop id])
  | unknown (missing : s.drive.file? (.string id) = none) : Deleted name id s (.ok ()) s.drive
  | denied {failure : Failure} {drive : Drive} (raises : s.schedule.RaisesNext .delete failure)
      (notFound : failure.isNotFound = true)
      (either : drive = s.drive ∨ drive = s.drive.applyAll [.drop id]) :
      Deleted name id s (.ok ()) drive
  | failed {failure : Failure} {drive : Drive} (raises : s.schedule.RaisesNext .delete failure)
      (other : failure.isNotFound = false)
      (either : drive = s.drive ∨ drive = s.drive.applyAll [.drop id]) :
      Deleted name id s (.error (deletionFailure name failure)) drive

section
variable {name id : String} {s : Session} {outcome : Except Failure Unit} {drive : Drive}

theorem Deleted.drive_eq (h : Deleted name id s outcome drive) :
    drive = s.drive ∨ drive = s.drive.applyAll [.drop id] := by
  cases h with
  | done => exact .inr rfl
  | unknown => exact .inl rfl
  | denied _ _ either | failed _ _ either => exact either

/-- Unless a fault lies about it, a deletion that succeeds leaves no file of the id. -/
theorem Deleted.gone (h : Deleted name id s (.ok ()) drive) (candid : s.schedule.Candid)
    (addressed : id ≠ "") {file : StoredFile} (held : file ∈ drive.files) : file.id ≠ id := by
  cases h with
  | done =>
    have other : file ∈ s.drive.files ∧ file.id ∉ [id] := Drive.mem_files_drops.mp held
    simpa using other.2
  | unknown missing =>
    rw [Drive.file?_of_ne_empty _ addressed] at missing
    simpa using List.find?_eq_none.mp missing file held
  | denied raises notFound =>
    rw [candid.isNotFound_eq_false raises] at notFound
    contradiction

end

inductive Dropped (id : String) (s : Session) : Except Failure Unit → Drive → Prop
  | done (spared : s.schedule.next? .delete = none) :
      Dropped id s (.ok ()) (s.drive.applyAll [.drop id])
  | unknown (missing : s.drive.file? (.string id) = none) :
      Dropped id s (.error (.ofProvider .notFound)) s.drive
  | raised {failure : Failure} {drive : Drive} (raises : s.schedule.RaisesNext .delete failure)
      (either : drive = s.drive ∨ drive = s.drive.applyAll [.drop id]) :
      Dropped id s (.error failure) drive

theorem delete_ends {s : Session} (raising : s.schedule.Raising) (id : String) :
    (delete (.string id)).Ends s fun outcome t =>
      s.Asked (.delete (.string id)) t ∧ Dropped id s outcome t.drive := by
  obtain ⟨answer, missing⟩ | answer := s.drive.answer_change (.drop id)
  · refine Ends.bind (request_denied answer) ?_ ?_
    · rintro value t ⟨_, _, denied⟩
      exact absurd denied (Denied.not_ok raising)
    · rintro failure t ⟨asked, drive, denied⟩
      refine ⟨asked, ?_⟩
      obtain rfl | raises := denied.of_error
      · exact drive ▸ .unknown missing
      · exact .raised raises (.inl drive)
  · refine Ends.bind (request_granted answer) ?_ ?_
    · rintro value t ⟨asked, granted⟩
      obtain ⟨spared, _, drive⟩ := granted.of_ok raising
      exact ends_pure.mpr ⟨asked, drive ▸ .done spared⟩
    · rintro failure t ⟨asked, granted⟩
      obtain ⟨raises, either⟩ := granted.of_error
      exact ⟨asked, .raised raises either⟩

/-- What a delete call means for the deletion that makes it: a file that the drive does not know
counts as deleted. -/
def judged (name : String) : Except Failure Unit → Except Failure Unit
  | .ok () => .ok ()
  | .error failure => if failure.isNotFound then .ok () else .error (deletionFailure name failure)

theorem deleteFound_judges {s : Session} (raising : s.schedule.Raising) (name : String)
    (found : FoundFile) :
    (deleteFound name found).Ends s fun outcome t =>
      s.Asked (.delete (.string found.id)) t ∧
        ∃ result, Dropped found.id s result t.drive ∧ outcome = judged name result := by
  refine Ends.handleIf (P := fun outcome t => s.Asked (.delete (.string found.id)) t ∧
    Dropped found.id s outcome t.drive) ?_ ?_ ?_ ?_
  · refine Ends.log_bind fun journal => ?_
    apply (delete_ends (s := { s with journal := journal }) raising found.id).mono
    rintro outcome t ⟨asked, dropped⟩
    refine ⟨asked.of_journal, ?_⟩
    generalize t.drive = after at dropped ⊢
    cases dropped with
    | done spared => exact .done spared
    | unknown missing => exact .unknown missing
    | raised raises either => exact .raised raises either
  · exact fun _ t ⟨asked, dropped⟩ => ⟨asked, _, dropped, rfl⟩
  · rintro failure t provider ⟨asked, dropped⟩
    by_cases notFound : failure.isNotFound = true
    · rw [if_pos notFound]
      refine Ends.log fun journal => ⟨asked.journal journal, _, dropped, ?_⟩
      rw [judged, if_pos notFound]
    · rw [if_neg notFound]
      refine Ends.log_bind fun journal => ends_throw.mpr ⟨asked.journal journal, _, dropped, ?_⟩
      rw [judged, if_neg notFound, deletionFailure, if_pos provider]
  · rintro failure t other ⟨asked, dropped⟩
    refine ⟨asked, _, dropped, ?_⟩
    rw [judged, if_neg (by simp [Failure.isNotFound_eq_false other]), deletionFailure,
      if_neg (by simp [other])]

theorem deleteFound_ends {s : Session} (raising : s.schedule.Raising) (name : String)
    (found : FoundFile) :
    (deleteFound name found).Ends s fun outcome t =>
      s.Asked (.delete (.string found.id)) t ∧ Deleted name found.id s outcome t.drive := by
  apply (deleteFound_judges raising name found).mono
  rintro _ t ⟨asked, result, dropped, rfl⟩
  refine ⟨asked, ?_⟩
  generalize t.drive = after at dropped ⊢
  cases dropped with
  | done => exact .done
  | unknown missing => exact .unknown missing
  | raised raises either =>
    rw [judged]
    split
    · rename_i notFound
      exact .denied raises notFound either
    · rename_i other
      exact .failed raises (Bool.eq_false_iff.mpr other) either

structure DeletedEach (ids : List String) (s : Session) (outcome : Except Failure Unit)
    (t : Session) : Prop where
  around : s.SameAround t
  listings : t.executions .list = s.executions .list
  drive : ∃ dropped, dropped ⊆ ids ∧ t.drive = s.drive.applyAll (dropped.map .drop)
  gone : outcome = .ok () → s.schedule.Candid →
    ∀ id ∈ ids, id ≠ "" → ∀ file ∈ t.drive.files, file.id ≠ id

theorem deleteEach_ends {s : Session} (raising : s.schedule.Raising) (name : String)
    (found : List FoundFile) :
    (found.forM (deleteFound name)).Ends s (DeletedEach (found.map (·.id)) s) := by
  induction found generalizing s with
  | nil =>
    refine ends_pure.mpr ⟨(Session.SameState.refl s).toSameAround, rfl, ⟨[], ?_, rfl⟩, ?_⟩
    · exact List.nil_subset _
    · intro _ _ id member
      contradiction
  | cons file rest ih =>
    change (deleteFound name file >>= fun _ => rest.forM (deleteFound name)).Ends s _
    have listings {t : Session} (asked : s.Asked (.delete (.string file.id)) t) :
        t.executions .list = s.executions .list :=
      asked.executions_of_ne (by decide : CallKind.delete ≠ .list)
    refine (deleteFound_ends raising name file).bind ?_ ?_
    · rintro _ t ⟨asked, first⟩
      apply (ih (asked.raising raising)).mono
      rintro outcome u ⟨around, listings', ⟨dropped, among, drive⟩, gone⟩
      refine ⟨asked.toSameAround.trans around, listings'.trans (listings asked), ?_, ?_⟩
      · obtain same | same := first.drive_eq
        · exact ⟨dropped, List.Subset.trans among (List.subset_cons_self _ _), by rw [drive, same]⟩
        · refine ⟨file.id :: dropped, List.cons_subset_cons _ among, ?_⟩
          rw [drive, same, ← Drive.applyAll_append]
          rfl
      · intro succeeded candid id member addressed other held
        have candid' := candid.of_faults asked.faults
        obtain rfl | later := List.mem_cons.mp member
        · rw [drive] at held
          obtain ⟨before, there, kept⟩ := Drive.exists_kept_of_mem_applyAll held
          rw [kept.id]
          exact first.gone candid addressed there
        · exact gone succeeded candid' id later addressed other held
    · rintro failure t ⟨asked, first⟩
      refine ⟨asked.toSameAround, listings asked, ?_, nofun⟩
      obtain same | same := first.drive_eq
      · exact ⟨[], List.nil_subset _, same⟩
      · exact ⟨[file.id], by simp, same⟩

structure Removed (file : RemoteFile) (s : Session) (outcome : Except Failure Unit) (t : Session) :
    Prop where
  around : s.SameAround t
  drive : ∃ dropped : List String, t.drive = s.drive.applyAll (dropped.map .drop) ∧
    ∀ id ∈ dropped, ∃ stored ∈ s.drive.matching (some (s.layout.folderFor file.category).told)
      (some file.name), stored.id = id
  succeeded : outcome = .ok () → ∃ folder found,
    s.layout.folderFor file.category = .string folder ∧
      (runOn (Search.files (some folder) (some file.name)) s).1 = .ok found ∧
      found <+: (s.drive.matching (some folder) (some file.name)).map (·.found) ∧
      (s.Undisturbed t .list →
        found = (s.drive.matching (some folder) (some file.name)).map (·.found)) ∧
      (s.schedule.Candid →
        ∀ told ∈ found, told.id ≠ "" → ∀ other ∈ t.drive.files, other.id ≠ told.id)

theorem remove_ends {s : Session} (raising : s.schedule.Raising) (file : RemoteFile) :
    (remove file).Ends s (Removed file s) := by
  have unchanged {failure : Failure} {t : Session} (same : s.SameState t) :
      Removed file s (.error failure) t :=
    ⟨same.toSameAround, ⟨[], same.drive, by simp⟩, nofun⟩
  rw [remove, ends_folderFor_bind]
  obtain ⟨folder, text⟩ | other := text_or_not (s.layout.folderFor file.category)
  · rw [text, filesIn_string]
    refine ((Search.files_complete raising _ _).and (.run _ s)).bind ?_ ?_
    · rintro found t ⟨⟨same, collected, complete⟩, run⟩
      apply (deleteEach_ends (same.raising raising) file.name found).mono
      rintro outcome u ⟨around, listings, ⟨dropped, among, drive⟩, gone⟩
      refine ⟨same.toSameAround.trans around, ⟨dropped, by rw [drive, same.drive], ?_⟩, ?_⟩
      · intro id member
        obtain ⟨told, there, rfl⟩ := List.mem_map.mp (among member)
        obtain ⟨stored, matching, rfl⟩ := collected.stored there
        exact ⟨stored, text ▸ matching, rfl⟩
      · intro succeeded
        refine ⟨folder, found, text, by rw [run], collected.found_prefix, ?_, ?_⟩
        · intro free
          rw [Session.Undisturbed, listings] at free
          exact complete found rfl free
        · intro candid told member
          have candid' := candid.of_faults same.faults
          exact gone succeeded candid' told.id (List.mem_map_of_mem member)
    · rintro failure t ⟨⟨same, _⟩, _⟩
      exact unchanged same
  · rw [filesIn_notText other]
    exact unchanged (.refl s)

/-- A deletion that succeeds has left no file that its search found. Unless a page of the search
failed, it has left no file of the name in the folder. -/
theorem remove_gone {s : Session} (raising : s.schedule.Raising) (candid : s.schedule.Candid)
    (addressed : s.drive.Addressed) {file : RemoteFile}
    (named : Query.Quotable file.name)
    (placed : Query.Quotable (s.layout.folderFor file.category).told) :
    (remove file).Ends s fun outcome t => outcome = .ok () →
      (∃ folder found, s.layout.folderFor file.category = .string folder ∧
        (runOn (Search.files (some folder) (some file.name)) s).1 = .ok found ∧
        found <+: (s.drive.matching (some folder) (some file.name)).map (·.found) ∧
          ∀ told ∈ found, ∀ other ∈ t.drive.files, other.id ≠ told.id) ∧
      (s.Undisturbed t .list → ∀ stored ∈ t.drive.files, stored.trashed = false →
        stored.title = file.name →
          (s.layout.folderFor file.category).told ∉ stored.parents) := by
  apply (remove_ends raising file).mono
  rintro outcome t ⟨_, ⟨dropped, drive, _⟩, succeeded⟩ ok
  obtain ⟨folder, found, text, run, part, complete, gone⟩ := succeeded ok
  have gone : ∀ told ∈ found, ∀ other ∈ t.drive.files, other.id ≠ told.id := by
    intro told member
    obtain ⟨stored, matching, rfl⟩ := List.mem_map.mp (part.subset member)
    exact gone candid _ member (addressed stored (Drive.mem_of_matching matching).1)
  refine ⟨⟨folder, found, text, run, part, gone⟩, ?_⟩
  intro free stored held kept titled inside
  have before : stored ∈ s.drive.files := by
    rw [drive] at held
    exact (Drive.mem_files_drops.mp held).1
  have matching : stored ∈ s.drive.matching (some folder) (some file.name) := by
    rw [text] at placed inside
    exact Drive.mem_matching.mpr ⟨⟨named, placed⟩, before, kept, titled, inside⟩
  have member : stored.found ∈ found := by
    rw [complete free]
    exact List.mem_map_of_mem matching
  exact gone stored.found member stored held rfl

/-- Two files of one name on two pages, and a fault that no call meets. -/
def twiceStored : Session :=
  smallSession [smallFile "1" "temp-1" "temporary" [1], smallFile "2" "temp-1" "temporary" [2]]
    [⟨.list, some 3, false, .raises (.provider (.http 500 "boom"))⟩] .empty

theorem remove_gone_twiceStored :
    twiceStored.schedule.Raising ∧ twiceStored.schedule.Candid ∧
      twiceStored.drive.Addressed ∧
      Query.Quotable smallSource.name ∧
      Query.Quotable (twiceStored.layout.folderFor smallSource.category).told ∧
      (remove smallSource).Ends twiceStored fun outcome t => outcome = .ok () ∧
        ∀ stored ∈ t.drive.files, stored.trashed = false → stored.title = "temp-1" →
          "temporary" ∉ stored.parents := by
  have raising : twiceStored.schedule.Raising := .of_reasons [] (by decide)
  have candid : twiceStored.schedule.Candid := by
    intro fault member concerned
    obtain rfl := List.mem_singleton.mp member
    cases concerned
  have addressed : twiceStored.drive.Addressed := by decide +kernel
  have named : Query.Quotable smallSource.name := by decide +kernel
  have placed : Query.Quotable (twiceStored.layout.folderFor smallSource.category).told := by
    decide +kernel
  have succeeded : (runOn (remove smallSource) twiceStored).1 = .ok () := by decide +kernel
  have free : twiceStored.Undisturbed (runOn (remove smallSource) twiceStored).2 .list := by
    have pages : (runOn (remove smallSource) twiceStored).2.executions .list = 2 := by
      decide +kernel
    have spared : ∀ n ≤ 2, twiceStored.schedule.faultAt? .list n = none := by decide +kernel
    intro n _ upto
    exact spared n (pages ▸ upto)
  exact ⟨raising, candid, addressed, named, placed, succeeded,
    (remove_gone raising candid addressed named placed succeeded).2 free⟩

/-- A file whose name is searched for when the drive fails. -/
def passedOver : Session :=
  smallSession [smallFile "1" "temp-1" "temporary" [1]]
    [⟨.list, some 1, false, .raises (.provider (.http 500 "boom"))⟩] .empty

/-- The page that fails is taken for the end of the listing: nothing is deleted, and the deletion
succeeds. -/
theorem remove_passes_over_unlisted :
    passedOver.schedule.Raising ∧ passedOver.schedule.Candid ∧
      (remove smallSource).Ends passedOver fun outcome t => outcome = .ok () ∧
        ∃ stored ∈ t.drive.files, stored.trashed = false ∧ stored.title = smallSource.name ∧
          (passedOver.layout.folderFor smallSource.category).told ∈ stored.parents := by
  refine ⟨.of_reasons [] (by decide), ?_, ?_, ?_⟩
  · intro fault member concerned
    obtain rfl := List.mem_singleton.mp member
    cases concerned
  · decide +kernel
  · exact ⟨smallFile "1" "temp-1" "temporary" [1], by decide +kernel⟩

end Repository

end DriveDepot
