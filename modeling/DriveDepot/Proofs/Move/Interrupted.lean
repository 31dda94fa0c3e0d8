import DriveDepot.Proofs.Move

namespace DriveDepot.Repository

open Operation

structure Interrupted (source target : RemoteFile) (file : FoundFile) (listed : List FoundFile)
    (s : Session) (outcome : Except Failure Unit) (t : Session) : Prop where
  /-- The file is one at the source. -/
  atSource : ∃ stored ∈ s.drive.matching (some (s.layout.folderFor source.category).told)
    (some source.name), stored.found = file
  /-- What is listed is at the target, and it is one file at most. -/
  atTarget : listed.length ≤ 1 ∧ ∀ old ∈ listed,
    ∃ stored ∈ s.drive.matching (some (s.layout.folderFor target.category).told)
      (some target.name), stored.found = old
  performed : ∃ done, done <+: requiredChanges s.layout source target file listed ∧
    t.drive = s.drive.applyAll done ∧
      (outcome = .ok () → done = requiredChanges s.layout source target file listed)
  replacedLast : ∀ old ∈ listed, (∀ after ∈ t.drive.files, after.id ≠ old.id) →
    t.drive = s.drive.applyAll (requiredChanges s.layout source target file listed)
  arrived : t.drive = s.drive.applyAll (requiredChanges s.layout source target file listed) →
    ∃ moved ∈ t.drive.files, moved.id = file.id ∧ moved.title = target.name ∧
      (s.layout.folderFor target.category).told ∈ moved.parents
  survives : ∃ after ∈ t.drive.files, after.id = file.id
  others : ∀ other, other.id ≠ file.id → (∀ old ∈ listed, other.id ≠ old.id) →
    (other ∈ t.drive.files ↔ other ∈ s.drive.files)
  contents : ∀ after ∈ t.drive.files, ∃ before ∈ s.drive.files, Change.Kept before after

section
variable {layout : Layout} {source target : RemoteFile} {file : FoundFile}
  {listed : List FoundFile}

theorem drop_not_mem_moving (source target : RemoteFile)
    (sourceFolder targetFolder id old : String) :
    Change.drop old ∉ retitling source target id ++ refoldering sourceFolder targetFolder id := by
  rw [retitling, refoldering]
  split <;> split <;> simp

/-- The deletion is the last of the changes. -/
theorem eq_required_of_drop_mem {done : List Change} {old : String} (atMostOne : listed.length ≤ 1)
    (part : done <+: requiredChanges layout source target file listed)
    (dropped : Change.drop old ∈ done) :
    done = requiredChanges layout source target file listed := by
  rw [requiredChanges, moveChanges] at part ⊢
  split at part
  · rw [List.append_nil] at part
    exact absurd (part.subset dropped) (drop_not_mem_moving _ _ _ _ _ _)
  · rename_i moving
    rw [if_neg moving]
    obtain rfl | ⟨replaced, rfl⟩ : listed = [] ∨ ∃ replaced, listed = [replaced] := by
      rcases listed with _ | ⟨replaced, _ | ⟨_, _⟩⟩
      · exact .inl rfl
      · exact .inr ⟨replaced, rfl⟩
      · simp at atMostOne
    · rw [List.map_nil, List.map_nil, List.append_nil] at part
      exact absurd (part.subset dropped) (drop_not_mem_moving _ _ _ _ _ _)
    · obtain all | before := List.prefix_concat_iff.mp part
      · exact all
      · exact absurd (before.subset dropped) (drop_not_mem_moving _ _ _ _ _ _)

end

/-- A file that lies in one folder only is not replaced by itself. -/
theorem ne_of_required {drive : Drive} (distinct : drive.DistinctIds)
    (single : drive.SingleParents) {layout : Layout} {source target : RemoteFile}
    {file stored : StoredFile} {listed : List FoundFile}
    (atSource : file ∈ drive.matching (some (layout.folderFor source.category).told)
      (some source.name))
    (atTarget : stored ∈ drive.matching (some (layout.folderFor target.category).told)
      (some target.name))
    (required : requiredChanges layout source target file.found listed ≠ []) :
    stored.id ≠ file.id := by
  intro same
  obtain ⟨held, _, titled, inside⟩ := Drive.mem_of_matching atSource
  obtain ⟨held', _, titled', inside'⟩ := Drive.mem_of_matching atTarget
  obtain rfl := distinct.eq held' held same
  rw [single.parents_eq held inside, List.mem_singleton] at inside'
  apply required
  simp [requiredChanges, moveChanges, retitling, refoldering, inside', ← titled, ← titled']

section
variable {drive : Drive} {layout : Layout} {source target : RemoteFile} {file : StoredFile}
  {listed : List FoundFile}

theorem drop_not_mem_required (distinct : drive.DistinctIds) (single : drive.SingleParents)
    (atSource : file ∈ drive.matching (some (layout.folderFor source.category).told)
      (some source.name))
    (atTarget : ∀ old ∈ listed,
      ∃ stored ∈ drive.matching (some (layout.folderFor target.category).told)
        (some target.name), stored.found = old) :
    Change.drop file.id ∉ requiredChanges layout source target file.found listed := by
  intro dropped
  obtain ⟨old, member, same⟩ := exists_of_drop_mem dropped
  obtain ⟨stored, matching, rfl⟩ := atTarget old member
  exact ne_of_required distinct single atSource matching (List.ne_nil_of_mem dropped) same

/-- All changes take the file to the target, unless they drop it. -/
theorem exists_arrived (held : file ∈ drive.files) (titled : file.title = source.name)
    (inside : (layout.folderFor source.category).told ∈ file.parents)
    (stays : Change.drop file.id ∉ requiredChanges layout source target file.found listed) :
    ∃ after ∈ (drive.applyAll (requiredChanges layout source target file.found listed)).files,
      after.id = file.id ∧ after.title = target.name ∧
        (layout.folderFor target.category).told ∈ after.parents := by
  obtain ⟨after, becomes⟩ := Change.exists_outcomes stays
  have there := Drive.mem_files_applyAll.mpr ⟨file, held, becomes⟩
  have all := outcomes_moveChanges titled target (layout.folderFor source.category).told
    (layout.folderFor target.category).told listed
  split at all
  · cases becomes.symm.trans all
  · obtain rfl := Option.some.inj (becomes.symm.trans all)
    exact ⟨_, there, rfl, rfl, mem_refoldered _ inside⟩

/-- A file that is listed at the target is gone only if all changes have been made. -/
theorem eq_required_of_gone {done : List Change} (atMostOne : listed.length ≤ 1)
    (part : done <+: requiredChanges layout source target file.found listed) {stored : StoredFile}
    (held : stored ∈ drive.files)
    (gone : ∀ after ∈ (drive.applyAll done).files, after.id ≠ stored.id) :
    done = requiredChanges layout source target file.found listed := by
  have dropped : Change.drop stored.id ∈ done := by
    by_contra stays
    obtain ⟨after, there, kept⟩ := Drive.exists_mem_applyAll held stays
    exact gone after there kept.id
  exact eq_required_of_drop_mem atMostOne part dropped

end

theorem interrupted_of_performed {s t : Session} (distinct : s.drive.DistinctIds)
    (single : s.drive.SingleParents) {source target : RemoteFile} {file : FoundFile}
    {listed : List FoundFile} {outcome : Except Failure Unit}
    (located : BothLocated source target s (.ok (file, listed)))
    (performed : Performed (requiredChanges s.layout source target file listed) s outcome t) :
    Interrupted source target file listed s outcome t := by
  obtain ⟨moved, matching, rfl⟩ := located.atSource
  obtain ⟨held, _, titled, inside⟩ := Drive.mem_of_matching matching
  obtain ⟨atMostOne, replaced⟩ := located.atTarget
  obtain ⟨_, done, ⟨part, _⟩, drive, stopped⟩ := performed
  have stays := drop_not_mem_required distinct single matching replaced
  refine ⟨located.atSource, located.atTarget, ⟨done, part, drive, ?_⟩, ?_, ?_, ?_, ?_, ?_⟩
  · rintro rfl
    exact stopped
  · intro old member gone
    obtain ⟨stored, matching', rfl⟩ := replaced old member
    rw [drive] at gone ⊢
    rw [eq_required_of_gone atMostOne part (Drive.mem_of_matching matching').1 gone]
  · intro all
    rw [all]
    exact exists_arrived held titled inside stays
  · obtain ⟨after, there, kept⟩ := Drive.exists_mem_applyAll held fun dropped =>
      stays (part.subset dropped)
    rw [drive]
    exact ⟨after, there, kept.id⟩
  · intro other ne nes
    rw [drive]
    apply Drive.mem_applyAll_of_forall_ne
    intro change member about
    obtain moves | ⟨old, there, drops⟩ := file_of_required (part.subset member)
    · exact ne (about.symm.trans moves)
    · exact nes old there (about.symm.trans drops)
  · intro after there
    rw [drive] at there
    exact Drive.exists_kept_of_mem_applyAll there

/-- Under any faults that raise, a move that does not locate both of its ends fails and changes
nothing, and one that locates them makes the required changes in their order, up to the call that
fails. -/
theorem move_interrupted {s : Session} (raising : s.schedule.Raising)
    (distinct : s.drive.DistinctIds) (single : s.drive.SingleParents)
    (source target : RemoteFile) :
    (move source target).Ends s fun outcome t =>
      match (runOn (locate source target) s).1 with
      | .error _ => t.drive = s.drive ∧ ∃ failure, outcome = .error failure
      | .ok (file, listed) => Interrupted source target file listed s outcome t := by
  have located := (locate_ends raising source target).2
  apply (move_ends raising source target).mono
  rintro _ t ⟨inner, rfl, performed⟩
  cases found : (runOn (locate source target) s).1 with
  | error failure =>
    rw [found] at performed
    obtain ⟨rfl, same⟩ := performed
    exact ⟨same.drive, _, rfl⟩
  | ok ends =>
    rw [found] at performed located
    have interrupted := interrupted_of_performed distinct single located performed
    obtain ⟨done, part, drive, all⟩ := interrupted.performed
    refine { interrupted with performed := ⟨done, part, drive, fun succeeded => all ?_⟩ }
    cases inner with
    | ok _ => rfl
    | error _ => cases succeeded

/-- A fault hits when the file has left its folder and has not entered the other. -/
def betweenFolders : Session :=
  smallSession [smallFile "1" "temp-1" "temporary" [1], smallFile "2" "syncany" "repo" [2]]
    [⟨.addParent, some 1, false, .raises (.provider (.http 500 "boom"))⟩] .empty

theorem move_interrupted_between_folders :
    betweenFolders.schedule.Raising ∧ betweenFolders.drive.DistinctIds ∧
      betweenFolders.drive.SingleParents ∧
      ∃ file listed, (runOn (locate smallSource .marker) betweenFolders).1 = .ok (file, listed) ∧
        (move smallSource .marker).Ends betweenFolders
          (Interrupted smallSource .marker file listed betweenFolders) := by
  have raising : betweenFolders.schedule.Raising := .of_reasons [] (by decide)
  have distinct : betweenFolders.drive.DistinctIds := by decide +kernel
  have single : betweenFolders.drive.SingleParents := by decide +kernel
  have located : (runOn (locate smallSource .marker) betweenFolders).1 =
      .ok (⟨"1", "temp-1", ["temporary"], some "https://drive.example/1"⟩,
        [⟨"2", "syncany", ["repo"], some "https://drive.example/2"⟩]) := by decide +kernel
  have ended := move_interrupted raising distinct single smallSource .marker
  rw [located] at ended
  exact ⟨raising, distinct, single, _, _, located, ended⟩

end DriveDepot.Repository
