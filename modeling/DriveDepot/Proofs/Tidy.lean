import Mathlib.Data.Fintype.Option
import DriveDepot.Proofs.Changes
import DriveDepot.Proofs.Search

/-!
A tidy drive: in each folder of the layout a name denotes one file at most, so that the folders are
a map from names to contents. An exchange of files that keeps the names apart keeps a drive tidy.
-/

namespace DriveDepot

instance : Fintype Slot := ⟨⟨Slot.all, by decide⟩, Slot.mem_all⟩

namespace Layout

/-- The id of a category folder or, without one, of the root folder. -/
def idAt (layout : Layout) : Option Slot → Json
  | some slot => layout.slotId slot
  | none => layout.rootId

def folder (layout : Layout) (place : Option Slot) : String := (layout.idAt place).told

structure Whole (layout : Layout) : Prop where
  text : ∀ place, layout.idAt place = .string (layout.folder place)
  known : ∀ place, layout.folder place ≠ ""
  distinct : ∀ place other, layout.folder place = layout.folder other → place = other
  quotable : ∀ place, Query.Quotable (layout.folder place)

theorem folderFor_eq_ite (layout : Layout) (category : Category) :
    layout.folderFor category =
      if (layout.idAt category.slot?).isNothing then .string ""
      else layout.idAt category.slot? := by
  rw [Layout.folderFor]
  cases category.slot? <;> rfl

theorem folderFor_eq {layout : Layout} {category : Category} {id : String}
    (known : layout.idAt category.slot? = .string id) (named : id ≠ "") :
    layout.folderFor category = .string id := by
  rw [folderFor_eq_ite, known]
  simp [Json.isNothing, named]

theorem Whole.folderFor {layout : Layout} (whole : layout.Whole) (category : Category) :
    layout.folderFor category = .string (layout.folder category.slot?) :=
  folderFor_eq (whole.text _) (whole.known _)

theorem Whole.told {layout : Layout} (whole : layout.Whole) (category : Category) :
    (layout.folderFor category).told = layout.folder category.slot? := by
  rw [whole.folderFor]
  rfl

end Layout

namespace StoredFile

structure IsAt (file : StoredFile) (folder name : String) : Prop where
  kept : file.trashed = false
  noFolder : file.isFolder = false
  inside : folder ∈ file.parents
  title : file.title = name

end StoredFile

namespace Drive

/-- The content of the file of a name in a folder, if there is one. -/
def contentAt (drive : Drive) (folder name : String) : Option Bytes :=
  (drive.files.find? fun file => !file.trashed && !file.isFolder &&
    file.parents.contains folder && file.title == name).map (·.content)

/-- What a drive has to be for its folders to be maps. Only the category folders lie inside the
folders of the layout, and ids that will be given to new files are not in use. -/
structure Tidy (drive : Drive) (folder : Option Slot → String) : Prop where
  distinct : drive.DistinctIds
  single : drive.SingleParents
  addressed : ∀ file ∈ drive.files, file.id ≠ ""
  fresh : ∀ file ∈ drive.files, ∀ n, drive.created < n → file.id ≠ "new" ++ Text.Decimal.text n
  folders : ∀ place, ∃ file ∈ drive.files, file.id = folder place ∧ file.isFolder = true
  titles : ∀ place, ∀ file ∈ drive.files, ∀ other ∈ drive.files,
    file.trashed = false → folder place ∈ file.parents →
    other.trashed = false → folder place ∈ other.parents → file.title = other.title → file = other
  urls : ∀ place, ∀ file ∈ drive.files, file.trashed = false → folder place ∈ file.parents →
    file.isFolder = false → (file.downloadUrl.getD "").isEmpty = false
  subfolders : ∀ place, ∀ file ∈ drive.files, file.trashed = false →
    folder place ∈ file.parents → file.isFolder = true → ∃ slot : Slot, file.title = slot.title

/-- An id that begins differently is not one that a new file is given. -/
theorem ne_new {id : String} (other : id.toList.take 3 ≠ "new".toList) (text : String) :
    id ≠ "new" ++ text := by
  rintro rfl
  apply other
  rw [String.toList_append]
  rfl

section
variable {drive after : Drive} {folder : Option Slot → String} {place : Option Slot}
  {name : String}

theorem Tidy.eq_of_isAt (tidy : drive.Tidy folder) {file other : StoredFile}
    (held : file ∈ drive.files) (held' : other ∈ drive.files) (h : file.IsAt (folder place) name)
    (k : other.IsAt (folder place) name) : file = other :=
  tidy.titles place file held other held' h.kept h.inside k.kept k.inside
    (h.title.trans k.title.symm)

/-- A file has one place and one name. -/
theorem Tidy.key_eq (tidy : drive.Tidy folder)
    (distinct : ∀ place other, folder place = folder other → place = other) {file : StoredFile}
    (held : file ∈ drive.files) {other : Option Slot} {name' : String}
    (h : file.IsAt (folder place) name) (k : file.IsAt (folder other) name') :
    place = other ∧ name = name' := by
  refine ⟨distinct place other ?_, h.title.symm.trans k.title⟩
  have inside := k.inside
  rw [tidy.single.parents_eq held h.inside, List.mem_singleton] at inside
  exact inside.symm

theorem Tidy.file?_eq (tidy : drive.Tidy folder) {file : StoredFile} (held : file ∈ drive.files) :
    drive.file? (.string file.id) = some file :=
  file?_of_mem tidy.distinct held (tidy.addressed file held)

theorem Tidy.holds (tidy : drive.Tidy folder) (place : Option Slot) :
    drive.holds (.string (folder place)) = true := by
  obtain ⟨file, held, id, _⟩ := tidy.folders place
  rw [Drive.holds, ← id, tidy.file?_eq held]
  rfl

/-- No folder of the layout has a name that is not a title of one of them. -/
theorem Tidy.isAt (tidy : drive.Tidy folder) (unreserved : ∀ slot : Slot, name ≠ slot.title)
    {file : StoredFile} (held : file ∈ drive.files) (kept : file.trashed = false)
    (inside : folder place ∈ file.parents) (title : file.title = name) :
    file.IsAt (folder place) name := by
  refine ⟨kept, ?_, inside, title⟩
  by_contra isFolder
  rw [Bool.not_eq_false] at isFolder
  obtain ⟨slot, same⟩ := tidy.subfolders place file held kept inside isFolder
  exact unreserved slot (title.symm.trans same)

theorem exists_of_contentAt_eq_some {content : Bytes}
    (h : drive.contentAt (folder place) name = some content) :
    ∃ file ∈ drive.files, file.IsAt (folder place) name ∧ file.content = content := by
  obtain ⟨file, found, rfl⟩ := Option.map_eq_some_iff.mp h
  have matched := List.find?_some found
  simp only [Bool.and_eq_true, Bool.not_eq_true', List.contains_eq_mem, decide_eq_true_eq,
    beq_iff_eq] at matched
  obtain ⟨⟨⟨kept, noFolder⟩, inside⟩, title⟩ := matched
  exact ⟨file, List.mem_of_find?_eq_some found, ⟨kept, noFolder, inside, title⟩, rfl⟩

theorem Tidy.contentAt_eq_some (tidy : drive.Tidy folder) {file : StoredFile}
    (held : file ∈ drive.files) (h : file.IsAt (folder place) name) :
    drive.contentAt (folder place) name = some file.content := by
  cases found : drive.contentAt (folder place) name with
  | some content =>
    obtain ⟨other, held', k, rfl⟩ := exists_of_contentAt_eq_some found
    rw [tidy.eq_of_isAt held held' h k]
  | none =>
    rw [contentAt, Option.map_eq_none_iff, List.find?_eq_none] at found
    have := found file held
    simp [h.kept, h.noFolder, h.inside, h.title] at this

theorem contentAt_eq_none (free : ∀ file ∈ drive.files, ¬ file.IsAt (folder place) name) :
    drive.contentAt (folder place) name = none := by
  cases found : drive.contentAt (folder place) name with
  | none => rfl
  | some content =>
    obtain ⟨file, held, h, _⟩ := exists_of_contentAt_eq_some found
    exact absurd h (free file held)

theorem Tidy.not_isAt_of_contentAt_eq_none (tidy : drive.Tidy folder)
    (absent : drive.contentAt (folder place) name = none) {file : StoredFile}
    (held : file ∈ drive.files) : ¬ file.IsAt (folder place) name := by
  intro h
  rw [tidy.contentAt_eq_some held h] at absent
  cases absent

theorem Tidy.matching_eq_nil (tidy : drive.Tidy folder)
    (unreserved : ∀ slot : Slot, name ≠ slot.title)
    (absent : drive.contentAt (folder place) name = none) :
    drive.matching (some (folder place)) (some name) = [] := by
  apply List.eq_nil_iff_forall_not_mem.mpr
  intro file member
  obtain ⟨held, kept, title, inside⟩ := mem_of_matching member
  exact tidy.not_isAt_of_contentAt_eq_none absent held
    (tidy.isAt unreserved held kept inside title)

/-- A search for a name in a folder finds the one file that is there. -/
theorem Tidy.matching_eq_singleton (tidy : drive.Tidy folder)
    (unreserved : ∀ slot : Slot, name ≠ slot.title) (quotable : Query.Quotable name)
    (quotable' : Query.Quotable (folder place)) {file : StoredFile} (held : file ∈ drive.files)
    (there : file.IsAt (folder place) name) :
    drive.matching (some (folder place)) (some name) = [file] := by
  have member : file ∈ drive.matching (some (folder place)) (some name) :=
    mem_matching.mpr ⟨⟨quotable, quotable'⟩, held, there.kept, there.title, there.inside⟩
  have only : ∀ other ∈ drive.matching (some (folder place)) (some name), other = file := by
    intro other member'
    obtain ⟨held', kept, title, inside⟩ := mem_of_matching member'
    exact tidy.eq_of_isAt held' held (tidy.isAt unreserved held' kept inside title) there
  have once : (drive.matching (some (folder place)) (some name)).Nodup :=
    (matching_sublist ..).nodup (List.Nodup.of_map _ tidy.distinct)
  rcases matched : drive.matching (some (folder place)) (some name) with
    _ | ⟨first, _ | ⟨second, _⟩⟩
  · rw [matched] at member
    cases member
  · rw [only first (by simp [matched])]
  · have twice : first = second :=
      (only first (by simp [matched])).trans (only second (by simp [matched])).symm
    rw [matched, twice] at once
    simp at once

end

structure Exchanged (drive after : Drive) (gone : List String) (new : Option StoredFile) :
    Prop where
  distinct : after.DistinctIds
  created : drive.created ≤ after.created
  mem : ∀ file, file ∈ after.files ↔ (file ∈ drive.files ∧ file.id ∉ gone) ∨ new = some file

structure Fitting (drive : Drive) (folder : Option Slot → String) (created : Nat)
    (gone : List String) (file : StoredFile) : Prop where
  addressed : file.id ≠ ""
  fresh : ∀ n, created < n → file.id ≠ "new" ++ Text.Decimal.text n
  noFolder : file.isFolder = false
  place : ∃ place, file.parents = [folder place]
  url : (file.downloadUrl.getD "").isEmpty = false
  title : ∀ other ∈ drive.files, other.id ∉ gone → other.trashed = false → ∀ place,
    folder place ∈ file.parents → folder place ∈ other.parents → other.title ≠ file.title

theorem Tidy.exchanged {drive after : Drive} {folder : Option Slot → String} {gone : List String}
    {new : Option StoredFile} (tidy : drive.Tidy folder) (h : drive.Exchanged after gone new)
    (noFolders : ∀ file ∈ drive.files, file.id ∈ gone → file.isFolder = false)
    (fitting : ∀ file, new = some file → drive.Fitting folder after.created gone file) :
    after.Tidy folder := by
  have cases_mem {file : StoredFile} (held : file ∈ after.files) :
      (file ∈ drive.files ∧ file.id ∉ gone) ∨
        drive.Fitting folder after.created gone file ∧ new = some file := by
    obtain old | isNew := (h.mem file).mp held
    · exact .inl old
    · exact .inr ⟨fitting file isNew, isNew⟩
  refine ⟨h.distinct, ?_, ?_, ?_, ?_, ?_, ?_, ?_⟩
  · intro file held
    obtain ⟨old, _⟩ | ⟨fits, _⟩ := cases_mem held
    · exact tidy.single file old
    · obtain ⟨place, parents⟩ := fits.place
      rw [parents]
      exact Nat.le_refl 1
  · intro file held
    obtain ⟨old, _⟩ | ⟨fits, _⟩ := cases_mem held
    · exact tidy.addressed file old
    · exact fits.addressed
  · intro file held n later
    obtain ⟨old, _⟩ | ⟨fits, _⟩ := cases_mem held
    · exact tidy.fresh file old n (Nat.lt_of_le_of_lt h.created later)
    · exact fits.fresh n later
  · intro place
    obtain ⟨file, held, id, isFolder⟩ := tidy.folders place
    refine ⟨file, (h.mem file).mpr (.inl ⟨held, fun member => ?_⟩), id, isFolder⟩
    rw [noFolders file held member] at isFolder
    cases isFolder
  · intro place file held other held' kept inside kept' inside' same
    obtain ⟨old, stays⟩ | ⟨fits, isNew⟩ := cases_mem held <;>
      obtain ⟨old', stays'⟩ | ⟨fits', isNew'⟩ := cases_mem held'
    · exact tidy.titles place file old other old' kept inside kept' inside' same
    · exact absurd same (fits'.title file old stays kept place inside' inside)
    · exact absurd same.symm (fits.title other old' stays' kept' place inside inside')
    · exact Option.some.inj (isNew.symm.trans isNew')
  · intro place file held kept inside noFolder
    obtain ⟨old, _⟩ | ⟨fits, _⟩ := cases_mem held
    · exact tidy.urls place file old kept inside noFolder
    · exact fits.url
  · intro place file held kept inside isFolder
    obtain ⟨old, _⟩ | ⟨fits, _⟩ := cases_mem held
    · exact tidy.subfolders place file old kept inside isFolder
    · rw [fits.noFolder] at isFolder
      cases isFolder

section
variable {drive after : Drive} {folder : Option Slot → String} {gone : List String}
  {new : Option StoredFile} {place : Option Slot} {name : String}

theorem Exchanged.contentAt_new (h : drive.Exchanged after gone new) (tidy : after.Tidy folder)
    {file : StoredFile} (isNew : new = some file) (there : file.IsAt (folder place) name) :
    after.contentAt (folder place) name = some file.content :=
  tidy.contentAt_eq_some ((h.mem file).mpr (.inr isNew)) there

theorem Exchanged.contentAt_gone (h : drive.Exchanged after gone new) (tidy : drive.Tidy folder)
    (elsewhere : ∀ file, new = some file → ¬ file.IsAt (folder place) name) {file : StoredFile}
    (held : file ∈ drive.files) (there : file.IsAt (folder place) name) (isGone : file.id ∈ gone) :
    after.contentAt (folder place) name = none := by
  apply contentAt_eq_none
  intro other held' k
  obtain ⟨old, stays⟩ | isNew := (h.mem other).mp held'
  · rw [tidy.eq_of_isAt old held k there] at stays
    exact stays isGone
  · exact elsewhere other isNew k

theorem Exchanged.contentAt_same (h : drive.Exchanged after gone new) (tidy : drive.Tidy folder)
    (tidy' : after.Tidy folder)
    (elsewhere : ∀ file, new = some file → ¬ file.IsAt (folder place) name)
    (stays : ∀ file ∈ drive.files, file.IsAt (folder place) name → file.id ∉ gone) :
    after.contentAt (folder place) name = drive.contentAt (folder place) name := by
  cases found : drive.contentAt (folder place) name with
  | some content =>
    obtain ⟨file, held, there, rfl⟩ := exists_of_contentAt_eq_some found
    exact tidy'.contentAt_eq_some ((h.mem file).mpr (.inl ⟨held, stays file held there⟩)) there
  | none =>
    apply contentAt_eq_none
    intro other held k
    obtain ⟨old, _⟩ | isNew := (h.mem other).mp held
    · exact tidy.not_isAt_of_contentAt_eq_none found old k
    · exact elsewhere other isNew k

end

end Drive

end DriveDepot
