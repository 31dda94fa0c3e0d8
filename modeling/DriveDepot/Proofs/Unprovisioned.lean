import DriveDepot.Proofs.Delete.Interrupted
import DriveDepot.Proofs.Listing
import DriveDepot.Proofs.Move
import DriveDepot.Proofs.Tidy
import DriveDepot.Proofs.Upload

/-!
A category whose folder is not known. Its id is an empty text, of which the drive has no folder, so
that every operation on the category comes to a call that fails or finds nothing. Of all of them
only a move to such a category has changed something by then: it has given the file its new title
and has taken it out of its folder before it asks to put it into the other one.
-/

namespace DriveDepot

open Operation

/-- The layout has no id for the folder of the category. -/
def Layout.Unprovisioned (layout : Layout) (category : Category) : Prop :=
  (layout.idAt category.slot?).isNothing = true

instance (layout : Layout) (category : Category) : Decidable (layout.Unprovisioned category) :=
  inferInstanceAs (Decidable (_ = _))

theorem Layout.Unprovisioned.folderFor {layout : Layout} {category : Category}
    (unset : layout.Unprovisioned category) : layout.folderFor category = .string "" := by
  rw [layout.folderFor_eq_ite]
  exact if_pos unset

namespace Drive

/-- Every folder that a file lies in has an id. -/
def ParentsNamed (drive : Drive) : Prop := ∀ file ∈ drive.files, "" ∉ file.parents

instance (drive : Drive) : Decidable drive.ParentsNamed :=
  inferInstanceAs (Decidable (∀ file ∈ drive.files, _))

theorem ParentsNamed.matching_eq_nil {drive : Drive} (named : drive.ParentsNamed)
    (name : Option String) : drive.matching (some "") name = [] := by
  rw [matching]
  split
  · refine List.filter_eq_nil_iff.mpr fun file held satisfied => named file held ?_
    have inside := List.all_eq_true.mp satisfied (.inParents "") (by simp [Query.ofFiles])
    simpa [StoredFile.satisfies] using inside
  · rfl

theorem holds_empty (drive : Drive) : drive.holds (.string "") = false := rfl

/-- Changing files in place changes the one that is found under their id. -/
theorem file?_change (drive : Drive) (id : String) {f : StoredFile → StoredFile}
    (same : ∀ file, (f file).id = file.id) :
    (drive.change id f).file? (.string id) = (drive.file? (.string id)).map f := by
  by_cases addressed : id = ""
  · subst addressed
    rfl
  · rw [file?_of_ne_empty _ addressed, file?_of_ne_empty _ addressed, change, List.find?_map]
    have alike : (fun file : StoredFile => file.id == id) ∘
        (fun file => if file.id == id then f file else file) = fun file => file.id == id := by
      funext file
      by_cases about : file.id = id <;> simp [about, same]
    rw [alike]
    cases found : drive.files.find? (·.id == id) with
    | none => rfl
    | some file => simp [show file.id = id by simpa using List.find?_some found]

end Drive

namespace Repository

variable {s : Session}

/-- An upload to a folder that the drive does not have fails. -/
theorem upload_missing (raising : s.schedule.Raising) (source : LocalPath) {file : RemoteFile}
    (missing : s.drive.holds (s.layout.folderFor file.category) = false) :
    (upload source file).Ends s fun outcome t =>
      (∃ failure, outcome = .error failure) ∧ t.drive = s.drive := by
  rw [upload, ends_folderFor_bind]
  refine Ends.bind (P := fun outcome t => (∃ failure, outcome = .error failure) ∧
    t.drive = s.drive) ?_ (by simp) fun failure t h => ⟨⟨failure, rfl⟩, h.2⟩
  refine Ends.handleIf (P := fun outcome t => (∃ failure, outcome = .error failure) ∧
    t.drive = s.drive) ?_ (fun _ _ h => h) ?_ fun _ _ _ h => h
  · refine Ends.log_bind fun journal => ends_disk_bind.mpr ?_
    refine Ends.ofExcept_bind (fun content _ => ?_) fun fault _ => ⟨⟨_, rfl⟩, rfl⟩
    have answer := Drive.insertFile_eq_error missing (temporaryMark ++ file.name) content
    refine Ends.bind (request_denied answer) ?_ ?_
    · rintro value t ⟨_, _, denied⟩
      exact absurd denied (Denied.not_ok raising)
    · rintro failure t ⟨_, drive, _⟩
      exact ⟨⟨failure, rfl⟩, drive⟩
  · rintro failure t _ ⟨_, drive⟩
    exact Ends.log_bind fun _ => ends_throw.mpr ⟨⟨_, rfl⟩, drive⟩

section
variable (raising : s.schedule.Raising) {file : RemoteFile}
  (unset : s.layout.Unprovisioned file.category) (named : s.drive.ParentsNamed)
include raising unset named

/-- A search for the one file of the name finds none. -/
theorem oneFileIn_unprovisioned :
    (oneFileIn (s.layout.folderFor file.category) file.name).Ends s fun outcome t =>
      (∃ failure, outcome = .error failure) ∧ t.drive = s.drive := by
  rw [unset.folderFor, oneFileIn_string]
  apply (Search.oneFile_ends raising _ _).mono
  rintro outcome t ⟨same, located⟩
  rw [named.matching_eq_nil] at located
  refine ⟨?_, same.drive⟩
  cases located with
  | only collected =>
    obtain ⟨stored, member, _⟩ := collected.stored (List.mem_singleton_self _)
    cases member
  | missing | several | failed => exact ⟨_, rfl⟩

theorem download_unprovisioned (target : LocalPath) :
    (download file target).Ends s fun _ t => t.drive = s.drive := by
  rw [download]
  split
  · exact ends_pure.mpr rfl
  · refine (ends_folderFor_bind (s := s)).mpr ?_
    refine (oneFileIn_unprovisioned raising unset named).bind ?_ fun _ _ h => h.2
    rintro found t ⟨⟨failure, ⟨⟩⟩, _⟩

theorem remove_unprovisioned : (remove file).Ends s fun _ t => t.drive = s.drive := by
  apply (remove_ends raising file).mono
  rintro outcome t ⟨_, ⟨dropped, drive, matched⟩, _⟩
  have none : dropped = [] := by
    refine List.eq_nil_iff_forall_not_mem.mpr fun id member => ?_
    obtain ⟨stored, found, _⟩ := matched id member
    rw [unset.folderFor, Json.told, named.matching_eq_nil] at found
    cases found
  rw [drive, none]
  rfl

/-- A move from the category does not locate its source. -/
theorem locate_unprovisioned (target : RemoteFile) :
    ∃ failure, (runOn (locate file target) s).1 = .error failure := by
  have ended : (locate file target).Ends s fun outcome _ => ∃ failure, outcome = .error failure := by
    refine ends_folderFor_bind.mpr ?_
    refine (oneFileIn_unprovisioned raising unset named).bind ?_ fun failure _ _ => ⟨failure, rfl⟩
    rintro found t ⟨⟨failure, ⟨⟩⟩, _⟩
  exact ended

theorem move_from_unprovisioned (target : RemoteFile) :
    (move file target).Ends s fun outcome t =>
      (∃ failure, outcome = .error failure) ∧ t.drive = s.drive := by
  obtain ⟨failure, lost⟩ := locate_unprovisioned raising unset named target
  apply (move_ends raising file target).mono
  rintro _ t ⟨inner, rfl, performed⟩
  rw [lost] at performed
  obtain ⟨rfl, same⟩ := performed
  exact ⟨⟨_, rfl⟩, same.drive⟩

end

/-- The changes that a move makes before it asks to put the file into the target folder. -/
def uprooting (layout : Layout) (source target : RemoteFile) (id : String) : List Change :=
  retitling source target id ++ [.leave id (layout.folderFor source.category).told]

/-- The file without the folder that it was in, under the name of the target. -/
def uprooted (layout : Layout) (source target : RemoteFile) (file : StoredFile) : StoredFile :=
  { file with
    title := target.name
    parents := file.parents.erase (layout.folderFor source.category).told }

theorem outcomes_uprooting {layout : Layout} {source : RemoteFile} {file : StoredFile}
    (titled : file.title = source.name) (target : RemoteFile) :
    Change.outcomes (uprooting layout source target file.id) file =
      some (uprooted layout source target file) := by
  rw [uprooting, Change.outcomes_append, outcomes_retitling titled, Option.bind_some]
  simp [Change.outcomes, Change.outcome, Change.file, Change.effect, uprooted]

section
variable {layout : Layout} {source target : RemoteFile}

/-- Where the target's folder is not known, only the last of the required changes is about it. -/
theorem requiredChanges_unprovisioned (unset : layout.Unprovisioned target.category)
    (placed : (layout.folderFor source.category).told ≠ "") (file : FoundFile) :
    requiredChanges layout source target file [] =
      uprooting layout source target file.id ++ [.enter file.id ""] := by
  rw [requiredChanges, moveChanges, unset.folderFor, uprooting, refoldering, Json.told,
    if_neg placed]
  simp

/-- The drive does not accept the last one. -/
theorem made_uprooting {drive : Drive} {done : List Change} {id : String}
    (made : Made drive done (uprooting layout source target id ++ [.enter id ""])) :
    Made drive done (uprooting layout source target id) := by
  obtain ⟨first, accepted⟩ := made
  obtain rfl | before := List.prefix_concat_iff.mp first
  · obtain ⟨_, entered, _⟩ := Drive.accepts_append.mp accepted
    exact absurd (.inr (Drive.holds_empty _)) entered
  · exact ⟨before, accepted⟩

/-- After a change of its title the file is not there under its old one. -/
theorem not_mem_of_retitled {drive : Drive} {file : StoredFile} {title folder : String}
    (other : file.title ≠ title) {rest : List Change} (part : rest <+: [.leave file.id folder]) :
    file ∉ (drive.applyAll (.retitle file.id title :: rest)).files := by
  intro there
  obtain ⟨before, _, becomes⟩ := Drive.mem_files_applyAll.mp there
  have same : before.id = file.id := (Change.kept_of_outcomes becomes).id.symm
  rcases List.prefix_cons_iff.mp part with rfl | ⟨more, rfl, none⟩
  · simp only [Change.outcomes, Change.outcome, Change.file, same, ↓reduceIte, Change.effect,
      Option.bind_some, Option.some.injEq] at becomes
    exact other (becomes ▸ rfl)
  · obtain rfl := List.prefix_nil.mp none
    simp only [Change.outcomes, Change.outcome, Change.file, same, ↓reduceIte, Change.effect,
      Option.bind_some, Option.some.injEq] at becomes
    exact other (becomes ▸ rfl)

/-- A file that the drive has taken out of a folder is not as it was. -/
theorem files_leave_ne {drive : Drive} {id folder : String}
    (accepted : ¬ (Change.leave id folder).Refused drive) :
    (drive.applyAll [.leave id folder]).files ≠ drive.files := by
  intro same
  have unchanged : drive.applyAll [.leave id folder] = drive := by
    rw [Drive.applyAll_eq, same]
  have changed : drive.applyAll [.leave id folder] =
      drive.change id fun file => { file with parents := file.parents.erase folder } :=
    (drive.change_eq rfl fun _ => rfl).symm
  rw [changed] at unchanged
  apply accepted
  intro file found inside
  have after := drive.file?_change id
    (f := fun file => { file with parents := file.parents.erase folder }) fun _ => rfl
  rw [unchanged, found] at after
  have parents : file.parents = file.parents.erase folder :=
    congrArg StoredFile.parents (Option.some.inj after)
  have shorter := List.length_erase_of_mem inside
  rw [← parents] at shorter
  have := List.length_pos_of_mem inside
  omega

/-- What a move to a folder that is not known has made, it has made to the file. -/
theorem unchanged_iff {drive : Drive} {file : StoredFile} (held : file ∈ drive.files)
    (titled : file.title = source.name) {done : List Change}
    (made : Made drive done (uprooting layout source target file.id)) :
    (drive.applyAll done).files = drive.files ↔ done = [] := by
  refine ⟨fun same => ?_, fun none => by rw [none]; rfl⟩
  obtain ⟨first, accepted⟩ := made
  rw [uprooting, retitling] at first
  by_contra some
  split at first
  · rcases List.prefix_cons_iff.mp first with rfl | ⟨rest, rfl, none⟩
    · exact some rfl
    · obtain rfl := List.prefix_nil.mp none
      exact files_leave_ne accepted.1 same
  · rename_i differ
    rcases List.prefix_cons_iff.mp first with rfl | ⟨rest, rfl, part⟩
    · exact some rfl
    · exact not_mem_of_retitled (titled ▸ differ) part (same ▸ held)

/-- The drive refuses none of these changes to a file that it finds under its id. -/
theorem not_refused_of_uprooting {drive : Drive} (distinct : drive.DistinctIds) {file : StoredFile}
    (held : file ∈ drive.files) (addressed : file.id ≠ "")
    (inside : (layout.folderFor source.category).told ∈ file.parents) {done : List Change}
    {change : Change} (next : done ++ [change] <+: uprooting layout source target file.id) :
    ¬ change.Refused (drive.applyAll done) := by
  have noDrop (id : String) : Change.drop id ∉ uprooting layout source target file.id := by
    rw [uprooting, retitling]
    split <;> simp
  have once : (uprooting layout source target file.id).Nodup := by
    rw [uprooting, retitling]
    split <;> simp
  have part : done <+: uprooting layout source target file.id :=
    (List.prefix_append _ _).trans next
  obtain ⟨after, found, becomes⟩ := Drive.exists_file?_applyAll distinct held addressed
    fun dropped => noDrop _ (part.subset dropped)
  have fresh : change ∉ done := fun member =>
    (List.nodup_append.mp (next.sublist.nodup once)).2.2 change member change (by simp) rfl
  have member : change ∈ uprooting layout source target file.id := next.subset (by simp)
  have only : change = .retitle file.id target.name ∨
      change = .leave file.id (layout.folderFor source.category).told := by
    rw [uprooting, retitling] at member
    split at member
    · exact .inr (by simpa using member)
    · simpa using member
  intro refused
  obtain rfl | rfl := only
  · cases refused.symm.trans found
  · exact refused after found (Change.mem_parents_of_outcomes becomes inside fresh)

end

structure Stranded (source target : RemoteFile) (file : FoundFile) (s t : Session) : Prop where
  /-- Without faults it has changed all that the drive lets it change. -/
  made : ∃ done, Made s.drive done (uprooting s.layout source target file.id) ∧
    t.drive = s.drive.applyAll done ∧ (t.drive.files = s.drive.files ↔ done = []) ∧
    (s.schedule.Calm → ∀ change, done ++ [change] <+: uprooting s.layout source target file.id →
      change.Refused t.drive)
  /-- That is everything, if no other file has the id. -/
  whole : s.schedule.Calm → s.drive.DistinctIds → file.id ≠ "" → ∃ stored ∈ s.drive.files,
    stored.found = file ∧
      t.drive = s.drive.applyAll (uprooting s.layout source target file.id) ∧
      uprooted s.layout source target stored ∈ t.drive.files ∧ t.drive.files ≠ s.drive.files

/-- The change that comes next is one only. -/
theorem next_unique {done changes more : List Change} {change other : Change}
    (next : done ++ [change] <+: changes) (next' : done ++ [other] <+: more)
    (part : changes <+: more) : change = other := by
  have same := List.prefix_of_prefix_length_le (next.trans part) next' (by simp)
  exact List.singleton_inj.mp (List.append_cancel_left (same.eq_of_length (by simp)))

theorem eq_of_no_next {done changes : List Change} (part : done <+: changes)
    (last : ∀ change, ¬ done ++ [change] <+: changes) : done = changes := by
  obtain ⟨rest, rfl⟩ := part
  cases rest with
  | nil => exact (List.append_nil done).symm
  | cons change more => exact absurd ⟨more, by simp⟩ (last change)

theorem stranded_of_performed {source target : RemoteFile} {stored : StoredFile}
    (held : stored ∈ s.drive.files) (titled : stored.title = source.name)
    (inside : (s.layout.folderFor source.category).told ∈ stored.parents)
    {outcome : Except Failure Unit} {t : Session}
    (performed : Performed (uprooting s.layout source target stored.id ++ [.enter stored.id ""]) s
      outcome t) :
    (∃ failure, outcome = .error failure) ∧ Stranded source target stored.found s t := by
  obtain ⟨_, done, all, drive, stopped⟩ := performed
  have made := made_uprooting all
  cases outcome with
  | ok _ =>
    obtain rfl := stopped
    exact absurd made.first.length_le (by simp)
  | error failure =>
    have refuses (calm : s.schedule.Calm) (change : Change)
        (next : done ++ [change] <+: uprooting s.layout source target stored.id) :
        change.Refused t.drive := by
      obtain raises | ⟨other, next', refused⟩ := stopped
      · exact absurd raises (calm.not_raises _)
      · rw [next_unique next next' (List.prefix_append _ _)]
        exact refused
    refine ⟨⟨_, rfl⟩, ⟨done, made, drive, ?_, refuses⟩, ?_⟩
    · rw [drive]
      exact unchanged_iff held titled made
    · intro calm distinct addressed
      obtain rfl : done = uprooting s.layout source target stored.id :=
        eq_of_no_next made.first fun change next =>
          not_refused_of_uprooting distinct held addressed inside next
            (drive ▸ refuses calm change next)
      refine ⟨stored, held, rfl, drive, ?_, ?_⟩
      · rw [drive]
        exact Drive.mem_files_applyAll.mpr ⟨stored, held, outcomes_uprooting titled target⟩
      · intro same
        have nothing := (unchanged_iff held titled made).mp (drive ▸ same)
        simp [uprooting] at nothing

theorem move_to_unprovisioned (raising : s.schedule.Raising) (source : RemoteFile)
    {target : RemoteFile} (unset : s.layout.Unprovisioned target.category)
    (named : s.drive.ParentsNamed) :
    (move source target).Ends s fun outcome t => (∃ failure, outcome = .error failure) ∧
      match (runOn (locate source target) s).1 with
      | .error _ => t.drive = s.drive
      | .ok (file, _) => Stranded source target file s t := by
  have located := (locate_ends raising source target).2
  apply (move_ends raising source target).mono
  rintro _ t ⟨inner, rfl, performed⟩
  cases found : (runOn (locate source target) s).1 with
  | error failure =>
    rw [found] at performed
    obtain ⟨rfl, same⟩ := performed
    exact ⟨⟨_, rfl⟩, same.drive⟩
  | ok ends =>
    obtain ⟨file, listed⟩ := ends
    rw [found] at performed located
    obtain ⟨stored, matching, rfl⟩ := located.atSource
    obtain ⟨held, _, titled, inside⟩ := Drive.mem_of_matching matching
    have none : listed = [] := by
      refine List.eq_nil_iff_forall_not_mem.mpr fun old member => ?_
      obtain ⟨other, there, _⟩ := located.atTarget.2 old member
      rw [unset.folderFor, Json.told, named.matching_eq_nil] at there
      cases there
    have placed : (s.layout.folderFor source.category).told ≠ "" := fun empty =>
      named stored held (empty ▸ inside)
    subst none
    change Performed (requiredChanges s.layout source target stored.found []) s inner t at performed
    rw [requiredChanges_unprovisioned unset placed] at performed
    obtain ⟨⟨failure, rfl⟩, stranded⟩ := stranded_of_performed held titled inside performed
    exact ⟨⟨_, rfl⟩, stranded⟩

/-- A category whose folder is not known is safe from everything but a move to it. An upload fails,
a download, a deletion, a listing and a move from it find nothing, and none changes the drive. A move
to it fails as well, but a file that it has located is left without the folder that it was in, under
the name of the target. -/
theorem unprovisioned_category (raising : s.schedule.Raising) {category : Category}
    (unset : s.layout.Unprovisioned category) (named : s.drive.ParentsNamed) :
    (list category).Ends s (fun _ t => t.drive = s.drive) ∧
    ∀ file : RemoteFile, file.category = category →
      (∀ path, (upload path file).Ends s fun outcome t =>
        (∃ failure, outcome = .error failure) ∧ t.drive = s.drive) ∧
      (∀ path, (download file path).Ends s fun _ t => t.drive = s.drive) ∧
      (remove file).Ends s (fun _ t => t.drive = s.drive) ∧
      (∀ target, (move file target).Ends s fun outcome t =>
        (∃ failure, outcome = .error failure) ∧ t.drive = s.drive) ∧
      ∀ source, (move source file).Ends s fun outcome t =>
        (∃ failure, outcome = .error failure) ∧
          match (runOn (locate source file) s).1 with
          | .error _ => t.drive = s.drive
          | .ok (found, _) => Stranded source file found s t := by
  refine ⟨(list_ends raising category).mono fun _ _ same => same.drive, ?_⟩
  rintro file rfl
  have missing : s.drive.holds (s.layout.folderFor file.category) = false := by
    rw [unset.folderFor]
    exact s.drive.holds_empty
  exact ⟨fun path => upload_missing raising path missing,
    download_unprovisioned raising unset named, remove_unprovisioned raising unset named,
    move_from_unprovisioned raising unset named,
    fun source => move_to_unprovisioned raising source unset named⟩

/-- The folder for contents is not known, and a file waits in the temporary folder. -/
def withoutContents : Session :=
  { smallSession [smallFile "1" "temp-1" "temporary" [1]] [] .empty with
    layout := { smallLayout with contentId := .null, complete := false } }

def smallChunk : RemoteFile := ⟨.content, "multichunk-1", by decide +kernel⟩

theorem unprovisioned_category_withoutContents :
    withoutContents.schedule.Raising ∧ withoutContents.layout.Unprovisioned .content ∧
      withoutContents.drive.ParentsNamed ∧ smallChunk.category = .content ∧
      (move smallSource smallChunk).Ends withoutContents fun _ t =>
        Stranded smallSource smallChunk (smallFile "1" "temp-1" "temporary" [1]).found
          withoutContents t := by
  have raising : withoutContents.schedule.Raising := .of_reasons [] (by decide)
  have unset : withoutContents.layout.Unprovisioned .content := by decide
  have named : withoutContents.drive.ParentsNamed := by decide +kernel
  have located : (runOn (locate smallSource smallChunk) withoutContents).1 =
      .ok ((smallFile "1" "temp-1" "temporary" [1]).found, []) := by decide +kernel
  have ended := ((unprovisioned_category raising unset named).2 smallChunk rfl).2.2.2.2 smallSource
  rw [located] at ended
  exact ⟨raising, unset, named, rfl, ended.mono fun _ _ h => h.2⟩

/-- The file gets its new name and lies in no folder any more. -/
theorem move_strands_file :
    withoutContents.schedule.Calm ∧ withoutContents.layout.Unprovisioned smallChunk.category ∧
      withoutContents.drive.ParentsNamed ∧
      (runOn (move smallSource smallChunk) withoutContents).2.drive.files ≠
        withoutContents.drive.files ∧
      ((runOn (move smallSource smallChunk) withoutContents).2.drive.file? (.string "1")).map
        (fun file => (file.title, file.parents)) = some ("multichunk-1", []) := by
  refine ⟨rfl, ?_, ?_, ?_, ?_⟩ <;> decide +kernel

end Repository

end DriveDepot
