import DriveDepot.Proofs.Reach

namespace DriveDepot

structure Session.Provisioned (s : Session) (folders : Option Slot → StoredFile) : Prop where
  complete : s.layout.complete = true
  known : ∀ place, s.layout.idAt place = .string (folders place).id
  held : ∀ place, folders place ∈ s.drive.files
  isFolder : ∀ place, (folders place).isFolder = true
  kept : ∀ place, (folders place).trashed = false

/-- The category folders lie in the root folder under their titles, and nowhere else. The root
folder lies in none of the six. -/
structure Layout.Arranged (layout : Layout) (folders : Option Slot → StoredFile) : Prop where
  title : ∀ slot, (folders (some slot)).title = slot.title
  parents : ∀ slot, (folders (some slot)).parents = [layout.folder none]
  outermost : ∀ place, layout.folder place ∉ (folders none).parents

theorem Slot.quotable_title (slot : Slot) : Query.Quotable slot.title := by
  cases slot <;> decide +kernel

/-- Only where any name is allowed a reference can denote a folder. -/
theorem Layout.Arranged.denotes_iff {layout : Layout} {folders : Option Slot → StoredFile}
    (arranged : layout.Arranged folders) (whole : layout.Whole) {reference : RemoteFile}
    {place : Option Slot} :
    reference.Denotes layout (folders place) ↔
      reference.category = .generic ∧ ∃ slot, place = some slot ∧ reference.name = slot.title := by
  rw [RemoteFile.Denotes, whole.told]
  constructor
  · rintro ⟨_, _, titled, inside⟩
    cases place with
    | none => exact absurd inside (arranged.outermost _)
    | some slot =>
      rw [arranged.title] at titled
      refine ⟨?_, slot, rfl, titled.symm⟩
      by_contra special
      have accepted := reference.accepted
      rw [← titled, Category.not_accepts_title special slot] at accepted
      contradiction
  · rintro ⟨generic, slot, rfl, named⟩
    rw [generic, named, arranged.title, arranged.parents]
    exact ⟨slot.quotable_title, whole.quotable none, rfl, List.mem_singleton_self _⟩

/-- Without faults, deleting a reference loses the folder that it denotes. -/
theorem Action.delete_loses {s : Session} {folders : Option Slot → StoredFile}
    (calm : s.schedule.Calm) (paged : s.drive.pageSize ≠ some 0) (intact : s.drive.Intact)
    (provisioned : s.Provisioned folders) {reference : RemoteFile} {place : Option Slot}
    (denotes : reference.Denotes s.layout (folders place)) :
    (Action.delete reference).operation.Ends s fun outcome t => outcome = .ok [] ∧
      ∀ other ∈ t.drive.files, other.id ≠ (folders place).id := by
  have text : s.layout.folderFor reference.category =
      .string (folders reference.category.slot?).id :=
    Layout.folderFor_eq (provisioned.known _) (intact.addressed _ (provisioned.held _))
  obtain ⟨named, placed, titled, inside⟩ := denotes
  rw [text] at placed inside
  have matching : folders place ∈ s.drive.matching
      (some (folders reference.category.slot?).id) (some reference.name) :=
    Drive.mem_matching.mpr ⟨⟨named, placed⟩, provisioned.held _, provisioned.kept _, titled, inside⟩
  apply Operation.Ends.then_nil
  apply (Repository.remove_calm calm paged intact.distinct intact.addressed text).mono
  rintro _ t ⟨rfl, _, drive⟩
  refine ⟨rfl, fun other held same => ?_⟩
  rw [drive] at held
  apply (Drive.mem_files_drops.mp held).2
  rw [same]
  exact List.mem_map_of_mem matching

/-- A folder of a complete layout stays as it is over whole runs, whatever faults raise, unless an
action is to delete, to move or to replace what a reference to it denotes. Such a reference is a
title of a category folder under the category that allows any name, and deleting one loses the
folder. -/
theorem Session.folders_survive {s : Session} {folders : Option Slot → StoredFile}
    (raising : s.schedule.Raising) (sized : 0 < s.drive.chunkSize) (intact : s.drive.Intact)
    (provisioned : s.Provisioned folders) :
    (∀ actions place,
      (∀ action ∈ actions, ¬ Action.Reaches action s.layout (folders place)) →
        (runAll actions s).2.layout = s.layout ∧
          folders place ∈ (runAll actions s).2.drive.files) ∧
    (s.layout.Whole → s.layout.Arranged folders → ∀ (reference : RemoteFile) place,
      reference.Denotes s.layout (folders place) ↔
        reference.category = .generic ∧ ∃ slot, place = some slot ∧ reference.name = slot.title) ∧
    (s.schedule.Calm → s.drive.pageSize ≠ some 0 → ∀ (reference : RemoteFile) place,
      reference.Denotes s.layout (folders place) →
        ∀ other ∈ (runAll [.delete reference] s).2.drive.files,
          other.id ≠ (folders place).id) := by
  refine ⟨?_, ?_, ?_⟩
  · intro actions place unreached
    have leaves := runAll_leaves raising sized intact (provisioned.held place) unreached
    exact ⟨leaves.layout, leaves.held⟩
  · intro whole arranged reference place
    exact arranged.denotes_iff whole
  · intro calm paged reference place denotes
    exact (Action.delete_loses calm paged intact provisioned denotes).2

namespace Repository

def smallFolders : Option Slot → StoredFile
  | some slot => smallFolder slot.title ["repo"]
  | none => smallFolder "repo" []

/-- A repository in use, on a drive that fails to confirm its first deletion. -/
def inUse : Session :=
  smallSession [smallFile "1" "temp-1" "temporary" [1], smallFile "2" "syncany" "repo" [2]]
    [⟨.delete, some 1, true, .raises (.provider (.http 500 "boom"))⟩]
    (Disk.empty.set (Disk.workingDirectory ++ ["in"]) (.file [4, 5]))

theorem intact_inUse : inUse.drive.Intact where
  distinct := by decide +kernel
  addressed := by decide +kernel
  fresh := by
    have others : ∀ file ∈ inUse.drive.files, file.id.toList.take 3 ≠ "new".toList := by
      decide +kernel
    exact fun file held n _ => Drive.ne_new (others file held) _

theorem provisioned_inUse : inUse.Provisioned smallFolders where
  complete := rfl
  known := by rintro (_ | _ | _ | _ | _ | _) <;> rfl
  held := by decide +kernel
  isFolder := by decide +kernel
  kept := by decide +kernel

/-- A file takes the place of another one in the root folder, and is uploaded anew. -/
def inUseActions : List Action :=
  [.move smallSource .marker, .delete .marker, .upload ⟨.none, ["in"]⟩ smallSource, .list .generic]

theorem folders_survive_inUse :
    inUse.schedule.Raising ∧ 0 < inUse.drive.chunkSize ∧ inUse.drive.Intact ∧
      inUse.Provisioned smallFolders ∧
      ∀ place, smallFolders place ∈ (Session.runAll inUseActions inUse).2.drive.files := by
  have raising : inUse.schedule.Raising := .of_reasons [] (by decide)
  have unreached : ∀ action ∈ inUseActions, ∀ place,
      ¬ action.Reaches inUse.layout (smallFolders place) := by decide +kernel
  obtain ⟨survive, _⟩ :=
    Session.folders_survive raising (by decide) intact_inUse provisioned_inUse
  exact ⟨raising, by decide, intact_inUse, provisioned_inUse, fun place =>
    (survive inUseActions place fun action member => unreached action member place).2⟩

/-- The folder of the databases, taken for a file in the root folder. -/
def databases : RemoteFile := ⟨.generic, "databases", by decide +kernel⟩

/-- Deleting that file succeeds, and the folder is gone. -/
theorem delete_loses_databases :
    (smallSession [] [] .empty).Provisioned smallFolders ∧
      (Action.delete databases).operation.Ends (smallSession [] [] .empty) fun outcome t =>
        outcome = .ok [] ∧ t.layout.complete = true ∧
          t.layout.metadataId = .string "databases" ∧
            ∀ other ∈ t.drive.files, other.id ≠ "databases" := by
  refine ⟨⟨rfl, ?_, ?_, ?_, ?_⟩, ?_, ?_, ?_, ?_⟩
  · rintro (_ | _ | _ | _ | _ | _) <;> rfl
  · decide +kernel
  · decide +kernel
  · decide +kernel
  · decide +kernel
  · decide +kernel
  · rfl
  · decide +kernel

end Repository

end DriveDepot
