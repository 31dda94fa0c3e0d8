import DriveDepot.Proofs.Move

namespace DriveDepot.Repository

open Operation

structure Movable (drive : Drive) (layout : Layout) (source target : RemoteFile)
    (file : StoredFile) (listed : List FoundFile) : Prop where
  held : file ∈ drive.files
  addressed : file.id ≠ ""
  inside : (layout.folderFor source.category).told ∈ file.parents
  atMostOne : listed.length ≤ 1
  apart : Change.drop file.id ∉ requiredChanges layout source target file.found listed
  replaced : ∀ old ∈ listed, old.id ≠ "" ∧ ∃ stored ∈ drive.files, stored.id = old.id
  folder : ∃ folder ∈ drive.files, folder.id = (layout.folderFor target.category).told ∧
    folder.id ≠ "" ∧ ∀ old ∈ listed, old.id ≠ folder.id

theorem Movable.not_refused {drive : Drive} {layout : Layout} {source target : RemoteFile}
    {file : StoredFile} {listed : List FoundFile}
    (movable : Movable drive layout source target file listed) (distinct : drive.DistinctIds)
    {done : List Change} {change : Change}
    (next : done ++ [change] <+: requiredChanges layout source target file.found listed) :
    ¬ change.Refused (drive.applyAll done) := by
  have part : done <+: requiredChanges layout source target file.found listed :=
    (List.prefix_append _ _).trans next
  have once : change ∉ done := by
    have nodup := next.sublist.nodup (nodup_requiredChanges movable.atMostOne)
    exact fun member => (List.nodup_append.mp nodup).2.2 change member change (by simp) rfl
  obtain ⟨after, found, becomes⟩ := Drive.exists_file?_applyAll distinct movable.held
    movable.addressed fun dropped => movable.apart (part.subset dropped)
  have member : change ∈ requiredChanges layout source target file.found listed :=
    next.subset (List.mem_append_right done (List.mem_singleton_self change))
  obtain rfl | rfl | rfl | ⟨old, there, rfl⟩ := mem_requiredChanges member
  · intro refused
    cases refused.symm.trans found
  · intro refused
    exact refused after found (Change.mem_parents_of_outcomes becomes movable.inside once)
  · obtain ⟨folder, held, same, addressed, others⟩ := movable.folder
    have kept : Change.drop folder.id ∉ done := by
      intro dropped
      obtain ⟨old, there, isFolder⟩ := exists_of_drop_mem (part.subset dropped)
      exact others old there isFolder
    obtain ⟨_, found', _⟩ := Drive.exists_file?_applyAll distinct held addressed kept
    rintro (unknown | none)
    · cases unknown.symm.trans found
    · rw [← same, Drive.holds, found'] at none
      cases none
  · obtain ⟨addressed, stored, held, same⟩ := movable.replaced old there
    rw [← same] at once addressed
    obtain ⟨_, found', _⟩ := Drive.exists_file?_applyAll distinct held addressed once
    intro refused
    rw [Change.Refused, ← same, found'] at refused
    cases refused

/-- Without faults a move makes all changes that it requires. -/
theorem move_succeeds {s : Session} (calm : s.schedule.Calm) (distinct : s.drive.DistinctIds)
    {source target : RemoteFile} {file : StoredFile} {listed : List FoundFile}
    (located : (runOn (locate source target) s).1 = .ok (file.found, listed))
    (movable : Movable s.drive s.layout source target file listed) :
    (move source target).Ends s fun outcome t => outcome = .ok () ∧ s.SameAround t ∧
      t.drive = s.drive.applyAll (requiredChanges s.layout source target file.found listed) := by
  apply (move_ends calm.raising source target).mono
  rintro _ t ⟨inner, rfl, performed⟩
  rw [located] at performed
  obtain ⟨around, done, part, drive, stopped⟩ := performed
  cases inner with
  | ok _ =>
    obtain rfl := stopped
    exact ⟨rfl, around, drive⟩
  | error failure =>
    obtain raises | ⟨change, next, refused⟩ := stopped
    · exact absurd raises (calm.not_raises _)
    · rw [drive] at refused
      exact absurd refused (movable.not_refused distinct next)

end DriveDepot.Repository
