import DriveDepot.Proofs.Changes
import DriveDepot.Proofs.Folder
import DriveDepot.Repository.Transfer

namespace DriveDepot

theorem Drive.answer_change_of_mem {drive : Drive} (distinct : drive.DistinctIds)
    {file : StoredFile} (held : file ∈ drive.files) (addressed : file.id ≠ "") :
    drive.answer (.delete (.string file.id)) =
      .ok (.string "", drive.applyAll [.drop file.id]) := by
  obtain ⟨_, unknown⟩ | answered := drive.answer_change (.drop file.id)
  · cases unknown.symm.trans (file?_of_mem distinct held addressed)
  · exact answered

namespace Repository

open Operation

theorem deleteFound_calm {s : Session} (calm : s.schedule.Calm) (distinct : s.drive.DistinctIds)
    {file : StoredFile} (held : file ∈ s.drive.files) (addressed : file.id ≠ "") (name : String) :
    (deleteFound name file.found).Ends s fun outcome t => outcome = .ok () ∧ s.SameAround t ∧
      t.drive = s.drive.applyAll [.drop file.id] := by
  refine Ends.handleIf (P := fun outcome t => outcome = .ok () ∧ s.SameAround t ∧
    t.drive = s.drive.applyAll [.drop file.id]) ?_ (fun _ _ h => h) ?_ ?_
  · apply Ends.log_bind
    intro journal
    have told := Session.SameState.journal s journal
    refine (request_calm (told.calm calm)
      (Drive.answer_change_of_mem distinct held addressed)).bind ?_ ?_
    · rintro _ t ⟨_, around, drive⟩
      exact ends_pure.mpr ⟨rfl, told.toSameAround.trans around, drive⟩
    · rintro _ _ ⟨⟨⟩, _⟩
  · rintro _ _ _ ⟨⟨⟩, _⟩
  · rintro _ _ _ ⟨⟨⟩, _⟩

/-- Deleting one file leaves the others to be deleted. -/
theorem deleteEach_calm {s : Session} (calm : s.schedule.Calm) (distinct : s.drive.DistinctIds)
    {files : List StoredFile} (held : ∀ file ∈ files, file ∈ s.drive.files ∧ file.id ≠ "")
    (different : (files.map (·.id)).Nodup) (name : String) :
    ((files.map (·.found)).forM (deleteFound name)).Ends s fun outcome t =>
      outcome = .ok () ∧ s.SameAround t ∧
        t.drive = s.drive.applyAll ((files.map (·.id)).map .drop) := by
  induction files generalizing s with
  | nil => exact ends_pure.mpr ⟨rfl, (Session.SameState.refl s).toSameAround, rfl⟩
  | cons file rest ih =>
    obtain ⟨first, addressed⟩ := held file (by simp)
    obtain ⟨apart, different⟩ := List.nodup_cons.mp different
    change (deleteFound name file.found >>= fun _ =>
      (rest.map (·.found)).forM (deleteFound name)).Ends s _
    refine (deleteFound_calm calm distinct first addressed name).bind ?_ ?_
    · rintro _ t ⟨_, around, drive⟩
      have still : ∀ other ∈ rest, other ∈ t.drive.files ∧ other.id ≠ "" := by
        intro other member
        obtain ⟨there, addressed'⟩ := held other (List.mem_cons_of_mem _ member)
        refine ⟨?_, addressed'⟩
        rw [drive]
        refine Drive.mem_files_applyAll.mpr ⟨other, there, Change.outcomes_of_forall_ne ?_⟩
        intro change only same
        obtain rfl := List.mem_singleton.mp only
        exact apart (List.mem_map.mpr ⟨other, member, same.symm⟩)
      apply (ih (around.calm calm) (drive ▸ distinct.applyAll _) still different).mono
      rintro outcome u ⟨rfl, later, drive'⟩
      refine ⟨rfl, around.trans later, ?_⟩
      rw [drive', drive, ← Drive.applyAll_append]
      rfl
    · rintro _ _ ⟨⟨⟩, _⟩

theorem remove_calm {s : Session} (calm : s.schedule.Calm) (paged : s.drive.pageSize ≠ some 0)
    (distinct : s.drive.DistinctIds) (addressed : s.drive.Addressed)
    {file : RemoteFile} {folder : String}
    (text : s.layout.folderFor file.category = .string folder) :
    (remove file).Ends s fun outcome t => outcome = .ok () ∧ s.SameAround t ∧
      t.drive = s.drive.applyAll
        (((s.drive.matching (some folder) (some file.name)).map (·.id)).map .drop) := by
  rw [remove, ends_folderFor_bind, text, filesIn_string]
  refine (Search.files_ends calm.raising _ _).bind ?_ ?_
  · rintro found t ⟨same, collected⟩
    obtain rfl := Except.ok.inj (collected.eq_all calm paged)
    have held : ∀ stored ∈ s.drive.matching (some folder) (some file.name),
        stored ∈ t.drive.files ∧ stored.id ≠ "" := by
      intro stored member
      have there := (Drive.mem_of_matching member).1
      exact ⟨same.drive ▸ there, addressed stored there⟩
    have different : ((s.drive.matching (some folder) (some file.name)).map (·.id)).Nodup :=
      ((Drive.matching_sublist ..).map _).nodup distinct
    apply (deleteEach_calm (same.calm calm) (same.drive ▸ distinct) held different _).mono
    rintro outcome u ⟨rfl, around, drive⟩
    exact ⟨rfl, same.toSameAround.trans around, same.drive ▸ drive⟩
  · rintro failure t ⟨_, collected⟩
    cases collected.eq_all calm paged

end Repository

end DriveDepot
