import DriveDepot.Proofs.Folder
import DriveDepot.Repository.Transfer

namespace DriveDepot.Repository

open Operation

theorem mem_references {category : Category} {titles : List String} {file : RemoteFile} :
    file ∈ references category titles ↔ file.category = category ∧ file.name ∈ titles := by
  induction titles with
  | nil => simp [references]
  | cons title rest ih =>
    rw [references, RemoteFile.make]
    by_cases accepted : category.accepts title = true
    · rw [dif_pos accepted]
      simp only [List.mem_cons, List.mem_filter, ih, decide_eq_true_eq, ne_eq]
      constructor
      · rintro (rfl | ⟨⟨same, member⟩, _⟩)
        · exact ⟨rfl, .inl rfl⟩
        · exact ⟨same, .inr member⟩
      · rintro ⟨rfl, rfl | member⟩
        · exact .inl rfl
        · by_cases first : file.name = title
          · obtain ⟨category, name, _⟩ := file
            obtain rfl := first
            exact .inl rfl
          · exact .inr ⟨⟨rfl, member⟩, first⟩
    · rw [dif_neg accepted]
      simp only [List.mem_filter, ih, decide_eq_true_eq, ne_eq, List.mem_cons]
      have other (same : file.category = category) : file.name ≠ title := by
        rintro rfl
        exact accepted (same ▸ file.accepted)
      constructor
      · rintro ⟨⟨same, member⟩, _⟩
        exact ⟨same, .inr member⟩
      · rintro ⟨same, first | member⟩
        · exact absurd first (other same)
        · exact ⟨⟨same, member⟩, other same⟩

theorem nodup_references (category : Category) (titles : List String) :
    ((references category titles).map (·.name)).Nodup := by
  induction titles with
  | nil => exact List.nodup_nil
  | cons title rest ih =>
    have others : (((references category rest).filter (·.name ≠ title)).map (·.name)).Nodup :=
      (List.filter_sublist.map _).nodup ih
    rw [references, RemoteFile.make]
    by_cases accepted : category.accepts title = true
    · rw [dif_pos accepted]
      refine List.nodup_cons.mpr ⟨fun member => ?_, others⟩
      obtain ⟨file, kept, same⟩ := List.mem_map.mp member
      simp at kept
      exact kept.2 same
    · rw [dif_neg accepted]
      exact others

theorem noteRefused_ends (category : Category) (file : FoundFile) (s : Session) :
    (noteRefused category file).Ends s fun outcome t => outcome = .ok () ∧ s.SameState t := by
  rw [noteRefused]
  split
  · rw [Operation.info, ← bind_pure (log _ _)]
    exact Ends.log_bind fun journal => ends_pure.mpr ⟨rfl, .journal s journal⟩
  · exact ends_pure.mpr ⟨rfl, .refl s⟩

theorem noteEach_ends (category : Category) (found : List FoundFile) (s : Session) :
    (found.forM (noteRefused category)).Ends s fun outcome t =>
      outcome = .ok () ∧ s.SameState t := by
  induction found generalizing s with
  | nil => exact ends_pure.mpr ⟨rfl, .refl s⟩
  | cons file rest ih =>
    change (noteRefused category file >>= fun _ => rest.forM (noteRefused category)).Ends s _
    refine (noteRefused_ends category file s).bind ?_ ?_
    · rintro _ t ⟨_, same⟩
      exact (ih t).mono fun outcome u h => ⟨h.1, same.trans h.2⟩
    · rintro _ _ ⟨⟨⟩, _⟩

/-- A listing changes nothing. -/
theorem list_ends {s : Session} (raising : s.schedule.Raising) (category : Category) :
    (list category).Ends s fun _ t => s.SameState t := by
  rw [list, ends_folderFor_bind]
  obtain ⟨folder, text⟩ | other := text_or_not (s.layout.folderFor category)
  · rw [text, filesIn_string]
    refine (Search.files_ends raising _ _).bind ?_ fun _ _ h => h.1
    rintro found t ⟨same, _⟩
    refine (noteEach_ends category found t).bind ?_ fun _ _ h => same.trans h.2
    rintro _ u ⟨_, noted⟩
    exact ends_pure.mpr (same.trans noted)
  · rw [filesIn_notText other]
    exact .refl s

/-- Without faults a listing tells all names of its category in the folder. -/
theorem list_calm {s : Session} (calm : s.schedule.Calm) (paged : s.drive.pageSize ≠ some 0)
    {category : Category} {folder : String}
    (text : s.layout.folderFor category = .string folder) :
    (list category).Ends s fun outcome t => s.SameState t ∧
      outcome = .ok (references category
        ((s.drive.matching (some folder) none).map (·.title))) := by
  rw [list, ends_folderFor_bind, text, filesIn_string]
  refine (Search.files_ends calm.raising _ _).bind ?_ ?_
  · rintro found t ⟨same, collected⟩
    obtain rfl := Except.ok.inj (collected.eq_all calm paged)
    refine (noteEach_ends category _ t).bind ?_ ?_
    · rintro _ u ⟨_, noted⟩
      rw [List.map_map]
      exact ends_pure.mpr ⟨same.trans noted, rfl⟩
    · rintro _ _ ⟨⟨⟩, _⟩
  · rintro failure t ⟨_, collected⟩
    cases collected.eq_all calm paged

end DriveDepot.Repository
