import DriveDepot.Proofs.Delete
import DriveDepot.Proofs.Delete.Interrupted
import DriveDepot.Proofs.Download
import DriveDepot.Proofs.Growth
import DriveDepot.Proofs.Listing
import DriveDepot.Proofs.Store.Listing
import DriveDepot.Proofs.Upload.Interrupted

/-!
Which files an action can change: those that a search for one of its references finds, and no
others. A search does not tell folders from files, so that it finds the category folders under their
titles in the root folder, where any name is allowed. Apart from those references, all that is done
to a repository leaves its folders as they are.
-/

namespace DriveDepot

open Operation

/-- The drive tells its files apart, those that it has yet to make included. -/
structure Drive.Intact (drive : Drive) : Prop where
  distinct : drive.DistinctIds
  addressed : drive.Addressed
  fresh : ∀ file ∈ drive.files, ∀ n, drive.created < n → file.id ≠ Drive.issuedId n

namespace Drive.Intact

variable {drive : Drive}

theorem unused (intact : drive.Intact) : ∀ file ∈ drive.files, file.id ≠ drive.newId :=
  fun file held => intact.fresh file held _ (Nat.lt_succ_self _)

theorem added (intact : drive.Intact) (title folder : String) (content : Bytes) :
    (drive.added title folder content).Intact where
  distinct := intact.distinct.added intact.unused ..
  addressed := intact.addressed.append _ drive.newId_ne_empty _
  fresh := by
    intro file held n later
    have later' : drive.created + 1 < n := later
    obtain old | new := List.mem_append.mp held
    · exact intact.fresh file old n (by omega)
    · obtain rfl := List.mem_singleton.mp new
      intro same
      have := Drive.issuedId_injective same
      omega

theorem applyAll (intact : drive.Intact) (changes : List Change) :
    (drive.applyAll changes).Intact where
  distinct := intact.distinct.applyAll changes
  addressed := intact.addressed.applyAll changes
  fresh := by
    intro file held n later
    obtain ⟨before, there, kept⟩ := exists_kept_of_mem_applyAll held
    rw [kept.id]
    rw [applyAll_eq] at later
    exact intact.fresh before there n later

end Drive.Intact

/-- A search for the reference finds the file, if the file is not trashed. -/
def RemoteFile.Denotes (reference : RemoteFile) (layout : Layout) (file : StoredFile) : Prop :=
  Query.Quotable reference.name ∧ Query.Quotable (layout.folderFor reference.category).told ∧
    file.title = reference.name ∧ (layout.folderFor reference.category).told ∈ file.parents

instance (reference : RemoteFile) (layout : Layout) (file : StoredFile) :
    Decidable (reference.Denotes layout file) :=
  inferInstanceAs (Decidable (_ ∧ _))

theorem RemoteFile.denotes_of_matching {reference : RemoteFile} {layout : Layout} {drive : Drive}
    {file : StoredFile} (found : file ∈ drive.matching
      (some (layout.folderFor reference.category).told) (some reference.name)) :
    reference.Denotes layout file := by
  obtain ⟨⟨named, placed⟩, _, _, titled, inside⟩ := Drive.mem_matching.mp found
  exact ⟨named, placed, titled, inside⟩

namespace Action

/-- The references to what an action deletes, moves or replaces. -/
def altered : Action → List RemoteFile
  | .delete file => [file]
  | .move source target => [source, target]
  | .upload .. | .download .. | .list _ => []

/-- A search for something that the action is to change finds the file. -/
def Reaches (action : Action) (layout : Layout) (file : StoredFile) : Prop :=
  ∃ reference ∈ action.altered, reference.Denotes layout file

instance (action : Action) (layout : Layout) (file : StoredFile) :
    Decidable (action.Reaches layout file) :=
  inferInstanceAs (Decidable (∃ reference ∈ action.altered, _))

end Action

/-- What is left where a file is not reached: the file as it was, and what later actions need. -/
structure Session.Leaves (s t : Session) (file : StoredFile) : Prop where
  layout : t.layout = s.layout
  faults : t.schedule.faults = s.schedule.faults
  chunkSize : t.drive.chunkSize = s.drive.chunkSize
  intact : t.drive.Intact
  held : file ∈ t.drive.files

namespace Session

variable {s t : Session} {file : StoredFile}

theorem SameButDisk.leaves (same : s.SameButDisk t) (intact : s.drive.Intact)
    (held : file ∈ s.drive.files) : s.Leaves t file :=
  ⟨same.layout, same.faults, same.drive ▸ rfl, same.drive ▸ intact, same.drive ▸ held⟩

theorem SameState.leaves (same : s.SameState t) (intact : s.drive.Intact)
    (held : file ∈ s.drive.files) : s.Leaves t file :=
  same.sameButScratch.toSameButDisk.leaves intact held

theorem Leaves.trans {u : Session} (h : s.Leaves t file) (k : t.Leaves u file) :
    s.Leaves u file :=
  ⟨k.layout.trans h.layout, k.faults.trans h.faults, k.chunkSize.trans h.chunkSize, k.intact,
    k.held⟩

/-- Changes to other files leave the file. -/
theorem SameAround.leaves (around : s.SameAround t) (intact : s.drive.Intact)
    (held : file ∈ s.drive.files) {changes : List Change}
    (drive : t.drive = s.drive.applyAll changes)
    (others : ∀ change ∈ changes, change.file ≠ file.id) : s.Leaves t file where
  layout := around.layout
  faults := around.faults
  chunkSize := by rw [drive, Drive.applyAll_eq]
  intact := drive ▸ intact.applyAll changes
  held := by
    rw [drive]
    exact (Drive.mem_applyAll_of_forall_ne others).mpr held

end Session

namespace Action

open Repository

variable {s : Session} {file : StoredFile}

theorem upload_leaves (raising : s.schedule.Raising) (intact : s.drive.Intact)
    (held : file ∈ s.drive.files) (source : LocalPath) (reference : RemoteFile) :
    (Action.upload source reference).operation.Ends s fun _ t => s.Leaves t file := by
  apply Ends.then_nil
  apply (upload_ends raising.raisingOrUnconfirming intact.unused source reference).mono
  rintro _ t ⟨inner, _, around, requests, _, steps⟩
  obtain same | ⟨folder, content, _, added⟩ := steps.left
  · exact Session.SameState.leaves ⟨around, same⟩ intact held
  · have added : ∃ title, t.drive = s.drive.added title folder content :=
      added.elim (fun staged => ⟨_, staged⟩) fun named => ⟨_, named.1⟩
    obtain ⟨title, drive⟩ := added
    refine ⟨around.layout, around.faults, by rw [drive]; rfl, drive ▸ intact.added .., ?_⟩
    rw [drive]
    exact List.mem_append_left _ held

theorem download_leaves (raising : s.schedule.Raising) (sized : 0 < s.drive.chunkSize)
    (intact : s.drive.Intact) (held : file ∈ s.drive.files) (reference : RemoteFile)
    (target : LocalPath) :
    (Action.download reference target).operation.Ends s fun _ t => s.Leaves t file := by
  apply Ends.then_nil
  cases named : denotesNoFile reference.name with
  | true =>
    rw [Ends, download_of_denotesNoFile named]
    exact (Session.SameState.refl s).leaves intact held
  | false =>
    exact (download_ends raising sized named target).mono fun _ _ h => h.1.leaves intact held

theorem delete_leaves (raising : s.schedule.Raising) (intact : s.drive.Intact)
    (held : file ∈ s.drive.files) {reference : RemoteFile}
    (unreached : ¬ (Action.delete reference).Reaches s.layout file) :
    (Action.delete reference).operation.Ends s fun _ t => s.Leaves t file := by
  apply Ends.then_nil
  apply (remove_ends raising reference).mono
  rintro _ t ⟨around, ⟨dropped, drive, found⟩, _⟩
  apply around.leaves intact held drive
  intro change member same
  obtain ⟨id, there, rfl⟩ := List.mem_map.mp member
  obtain ⟨stored, matching, rfl⟩ := found id there
  obtain rfl := intact.distinct.eq (Drive.mem_of_matching matching).1 held same
  exact unreached ⟨reference, List.mem_singleton_self _,
    RemoteFile.denotes_of_matching matching⟩

theorem move_leaves (raising : s.schedule.Raising) (intact : s.drive.Intact)
    (held : file ∈ s.drive.files) {source target : RemoteFile}
    (unreached : ¬ (Action.move source target).Reaches s.layout file) :
    (Action.move source target).operation.Ends s fun _ t => s.Leaves t file := by
  have located := (locate_ends raising source target).2
  apply Ends.then_nil
  apply (move_ends raising source target).mono
  rintro _ t ⟨inner, _, performed⟩
  cases run : (runOn (locate source target) s).1 with
  | error failure =>
    rw [run] at performed
    exact performed.2.leaves intact held
  | ok ends =>
    obtain ⟨found, listed⟩ := ends
    rw [run] at performed located
    obtain ⟨around, done, ⟨part, _⟩, drive, _⟩ := performed
    have other {reference : RemoteFile} (member : reference ∈ [source, target])
        {stored : StoredFile} (matching : stored ∈ s.drive.matching
          (some (s.layout.folderFor reference.category).told) (some reference.name)) :
        stored.id ≠ file.id := by
      intro same
      obtain rfl := intact.distinct.eq (Drive.mem_of_matching matching).1 held same
      exact unreached ⟨reference, member, RemoteFile.denotes_of_matching matching⟩
    apply around.leaves intact held drive
    intro change member
    obtain about | ⟨old, there, about⟩ := file_of_required (part.subset member)
    · obtain ⟨stored, matching, rfl⟩ := located.atSource
      rw [about]
      exact other (by simp) matching
    · obtain ⟨stored, matching, rfl⟩ := located.atTarget.2 old there
      rw [about]
      exact other (by simp) matching

theorem leaves (raising : s.schedule.Raising) (sized : 0 < s.drive.chunkSize)
    (intact : s.drive.Intact) (held : file ∈ s.drive.files) {action : Action}
    (unreached : ¬ action.Reaches s.layout file) :
    action.operation.Ends s fun _ t => s.Leaves t file := by
  cases action with
  | upload source reference => exact upload_leaves raising intact held source reference
  | download reference target => exact download_leaves raising sized intact held reference target
  | delete => exact delete_leaves raising intact held unreached
  | move => exact move_leaves raising intact held unreached
  | list category => exact (list_ends raising category).mono fun _ _ h => h.leaves intact held

end Action

/-- A run leaves a file that none of its actions reaches. -/
theorem Session.runAll_leaves {s : Session} {file : StoredFile} (raising : s.schedule.Raising)
    (sized : 0 < s.drive.chunkSize) (intact : s.drive.Intact) (held : file ∈ s.drive.files)
    {actions : List Action} (unreached : ∀ action ∈ actions, ¬ action.Reaches s.layout file) :
    s.Leaves (runAll actions s).2 file := by
  induction actions generalizing s with
  | nil => exact (SameState.refl s).leaves intact held
  | cons action rest ih =>
    have first : s.Leaves (action.operation.runOn s).2 file :=
      Action.leaves raising sized intact held (unreached action (by simp))
    have raising' := raising.of_faults first.faults
    have unreached' : ∀ later ∈ rest,
        ¬ later.Reaches (action.operation.runOn s).2.layout file := by
      rw [first.layout]
      exact fun later member => unreached later (List.mem_cons_of_mem _ member)
    exact first.trans (ih raising' (first.chunkSize ▸ sized) first.intact first.held unreached')

end DriveDepot
