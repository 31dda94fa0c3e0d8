import DriveDepot.Proofs.Listing
import DriveDepot.Proofs.Store

namespace DriveDepot

open Operation

/-- Only in the root folder a name can be the title of a category folder. -/
theorem Category.not_accepts_title {category : Category} (special : category ≠ .generic)
    (slot : Slot) : category.accepts slot.title = false := by
  cases category <;> cases slot <;> first | contradiction | decide +kernel

theorem Drive.mem_matching_none {drive : Drive} {folder : String}
    (quotable : Query.Quotable folder) {file : StoredFile} :
    file ∈ drive.matching (some folder) none ↔
      file ∈ drive.files ∧ file.trashed = false ∧ folder ∈ file.parents := by
  rw [matching, if_pos (by simpa [Query.ofFiles, Clause.Quotable] using quotable)]
  simp [select, Query.ofFiles, StoredFile.satisfies]

theorem Action.list_refines {s : Session} (sound : s.Sound) {category : Category}
    (special : category ≠ .generic) : (Action.list category).Refines s := by
  have tidy := sound.tidy
  apply (Repository.list_calm sound.calm sound.paged (sound.whole.folderFor _)).mono
  rintro _ t ⟨same, rfl⟩
  refine ⟨sound.of_sameState same, same.layout, Session.store_of_sameState same,
    _, rfl, Repository.nodup_references _ _, fun file => ?_⟩
  rw [Repository.mem_references]
  apply and_congr_right
  intro sameCategory
  obtain rfl := sameCategory
  have unreserved : ∀ slot : Slot, file.name ≠ slot.title := by
    intro slot same
    have accepted := file.accepted
    rw [same, Category.not_accepts_title special slot] at accepted
    cases accepted
  rw [List.mem_map]
  constructor
  · rintro ⟨stored, member, title⟩
    obtain ⟨held, kept, inside⟩ :=
      (Drive.mem_matching_none (sound.whole.quotable _)).mp member
    have there := tidy.isAt unreserved held kept inside title
    rw [Session.get_store, tidy.contentAt_eq_some held there]
    rfl
  · intro present
    obtain ⟨content, found⟩ := Option.isSome_iff_exists.mp present
    obtain ⟨stored, held, there, _⟩ := Drive.exists_of_contentAt_eq_some found
    exact ⟨stored, (Drive.mem_matching_none (sound.whole.quotable _)).mpr
      ⟨held, there.kept, there.inside⟩, there.title⟩

end DriveDepot
