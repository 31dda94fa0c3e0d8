import DriveDepot.Proofs.Move.Interrupted
import DriveDepot.Proofs.Move.Success
import DriveDepot.Proofs.Store

namespace DriveDepot

open Operation

namespace Repository

section
variable {s : Session} {source target : RemoteFile}

/-- Where nothing goes wrong, both ends are located if there is a file at the source. -/
theorem BothLocated.eq_found (sound : s.Sound) (ordinary : Store.Ordinary source.name)
    (ordinary' : Store.Ordinary target.name)
    {outcome : Except Failure (FoundFile × List FoundFile)}
    (h : BothLocated source target s outcome) :
    (s.store.get source = none ∧ outcome = .error (Store.missing s.layout source)) ∨
      ∃ stored, s.Stored source stored ∧ outcome = .ok (stored.found,
        (s.drive.matching (some (s.layout.folder target.category.slot?))
          (some target.name)).map (·.found)) := by
  have told := sound.whole.folderFor
  cases h with
  | both sourceText targetText located collected =>
    obtain rfl := Json.string.inj ((told _).symm.trans sourceText)
    obtain rfl := Json.string.inj ((told _).symm.trans targetText)
    obtain ⟨_, same⟩ | ⟨stored, there, same⟩ := sound.located ordinary located
    · cases same
    · obtain rfl := Except.ok.inj same
      obtain rfl := collected.eq_of_calm sound.calm
      exact .inr ⟨stored, there, rfl⟩
  | noSource sourceText located =>
    obtain rfl := Json.string.inj ((told _).symm.trans sourceText)
    obtain ⟨absent, same⟩ | ⟨_, _, same⟩ := sound.located ordinary located
    · exact .inl ⟨absent, by rw [Except.error.inj same]⟩
    · cases same
  | noTarget _ collected => cases collected.eq_all sound.calm sound.paged
  | severalTargets targetText collected several =>
    obtain rfl := Json.string.inj ((told _).symm.trans targetText)
    obtain rfl := collected.eq_of_calm sound.calm
    obtain ⟨_, only⟩ | ⟨_, _, only⟩ := sound.matching ordinary' <;> simp [only] at several
  | noText other =>
    rw [told] at other
    cases other

/-- Where the folders are maps, nothing stands in the way of a move. -/
theorem movable_of_stored (sound : s.Sound) (ordinary : Store.Ordinary source.name)
    (ordinary' : Store.Ordinary target.name) {stored : StoredFile}
    (there : s.Stored source stored) :
    Movable s.drive s.layout source target stored
      ((s.drive.matching (some (s.layout.folder target.category.slot?))
        (some target.name)).map (·.found)) := by
  have tidy := sound.tidy
  have sourceText := sound.whole.told source.category
  have targetText := sound.whole.told target.category
  refine ⟨there.held, tidy.addressed _ there.held, sourceText ▸ there.isAt.inside, ?_, ?_, ?_, ?_⟩
  · obtain ⟨_, only⟩ | ⟨_, _, only⟩ := sound.matching ordinary' <;> simp [only]
  · refine drop_not_mem_required tidy.distinct tidy.single ?_ ?_
    · rw [sourceText, sound.matching_of_isAt ordinary there.held there.isAt]
      exact List.mem_singleton_self stored
    · rw [targetText]
      exact fun old member => List.mem_map.mp member
  · intro found member
    obtain ⟨old, matching, rfl⟩ := List.mem_map.mp member
    have held := (Drive.mem_of_matching matching).1
    exact ⟨tidy.addressed old held, old, held, rfl⟩
  · obtain ⟨folder, held, id, isFolder⟩ := tidy.folders target.category.slot?
    refine ⟨folder, held, id.trans targetText.symm, tidy.addressed folder held, ?_⟩
    intro found member same
    obtain ⟨old, matching, rfl⟩ := List.mem_map.mp member
    have noFolder := (sound.isAt_of_listed ordinary' held
      (same ▸ List.mem_map_of_mem matching)).noFolder
    cases isFolder.symm.trans noFolder

end

theorem refoldered_singleton (sourceFolder targetFolder : String) :
    refoldered sourceFolder targetFolder [sourceFolder] = [targetFolder] := by
  rw [refoldered]
  by_cases same : sourceFolder = targetFolder <;> simp [same]

theorem ids_found (files : List StoredFile) :
    (files.map (·.found)).map (·.id) = files.map (·.id) := by
  rw [List.map_map]
  rfl

/-- What becomes of the files that are not moved. -/
theorem outcomes_moveChanges_of_ne {source target : RemoteFile} {sourceFolder targetFolder : String}
    {id : String} {file : StoredFile} (other : file.id ≠ id) (listed : List FoundFile)
    (modified : source.name ≠ target.name ∨ sourceFolder ≠ targetFolder) :
    Change.outcomes (moveChanges source target sourceFolder targetFolder id listed) file =
      if file.id ∈ listed.map (·.id) then none else some file := by
  have retitled : Change.outcomes (retitling source target id) file = some file := by
    apply Change.outcomes_of_forall_ne
    intro change member
    rw [retitling] at member
    split at member <;> simp at member
    exact member ▸ other.symm
  have refoldered :
      Change.outcomes (refoldering sourceFolder targetFolder id) file = some file := by
    apply Change.outcomes_of_forall_ne
    intro change member
    rw [refoldering] at member
    split at member <;> simp at member
    obtain rfl | rfl := member <;> exact other.symm
  rw [moveChanges_eq, Change.outcomes_append, retitled, Option.bind_some, Change.outcomes_append,
    refoldered, Option.bind_some, if_pos (by simpa using modified)]
  exact Change.outcomes_drops _ _

end Repository

namespace Drive

open Repository

/-- A move takes away the file that is moved and those that are replaced, and it puts the moved
file in. -/
theorem DistinctIds.exchanged_moveChanges {drive : Drive} (distinct : drive.DistinctIds)
    {source target : RemoteFile} {file : StoredFile} (held : file ∈ drive.files)
    (titled : file.title = source.name) {sourceFolder targetFolder : String}
    {listed : List FoundFile} (modified : source.name ≠ target.name ∨ sourceFolder ≠ targetFolder)
    (apart : file.id ∉ listed.map (·.id)) :
    drive.Exchanged
      (drive.applyAll (moveChanges source target sourceFolder targetFolder file.id listed))
      (file.id :: listed.map (·.id)) (some (relocated target sourceFolder targetFolder file)) where
  distinct := distinct.applyAll _
  created := Nat.le_of_eq (by rw [applyAll_eq])
  mem after := by
    have moved := outcomes_moveChanges titled target sourceFolder targetFolder listed
    rw [if_neg fun lost => apart lost.2] at moved
    rw [mem_files_applyAll, List.mem_cons, not_or]
    constructor
    · rintro ⟨before, there, becomes⟩
      by_cases same : before.id = file.id
      · obtain rfl := distinct.eq there held same
        exact .inr (moved.symm.trans becomes)
      · rw [outcomes_moveChanges_of_ne same listed modified] at becomes
        split at becomes
        · cases becomes
        · obtain rfl := Option.some.inj becomes
          exact .inl ⟨there, same, ‹_›⟩
    · rintro (⟨there, other, stays⟩ | isNew)
      · exact ⟨after, there, by rw [outcomes_moveChanges_of_ne other listed modified, if_neg stays]⟩
      · exact ⟨file, held, moved.trans isNew⟩

end Drive

namespace Session

open Repository

section
variable {s : Session} {source target : RemoteFile} {stored : StoredFile} {after : Drive}

theorem Stored.isAt_relocated (there : s.Stored source stored) (target : RemoteFile) :
    (relocated target (s.layout.folder source.category.slot?)
      (s.layout.folder target.category.slot?) stored).IsAt
        (s.layout.folder target.category.slot?) target.name :=
  ⟨there.isAt.kept, there.isAt.noFolder, mem_refoldered _ there.isAt.inside, rfl⟩

theorem Sound.parents_relocated (sound : s.Sound) (there : s.Stored source stored)
    (target : RemoteFile) :
    (relocated target (s.layout.folder source.category.slot?)
      (s.layout.folder target.category.slot?) stored).parents =
        [s.layout.folder target.category.slot?] := by
  rw [relocated, sound.tidy.single.parents_eq there.held there.isAt.inside, refoldered_singleton]

/-- The file that is moved lies at one place only. -/
theorem Sound.not_listed (sound : s.Sound) (ordinary : Store.Ordinary target.name)
    (there : s.Stored source stored)
    (modified : ¬ (source.category.slot? = target.category.slot? ∧ source.name = target.name)) :
    stored.id ∉ (s.drive.matching (some (s.layout.folder target.category.slot?))
      (some target.name)).map (·.id) := by
  intro listed
  have there' := sound.isAt_of_listed ordinary there.held listed
  exact modified (sound.tidy.key_eq sound.whole.distinct there.held there.isAt there')

/-- What a move makes of a drive. -/
abbrev Moved (s : Session) (source target : RemoteFile) (stored : StoredFile) (after : Drive) :
    Prop :=
  s.drive.Exchanged after
    (stored.id :: (s.drive.matching (some (s.layout.folder target.category.slot?))
      (some target.name)).map (·.id))
    (some (relocated target (s.layout.folder source.category.slot?)
      (s.layout.folder target.category.slot?) stored))

theorem Sound.moved (sound : s.Sound) (ordinary : Store.Ordinary target.name)
    (there : s.Stored source stored)
    (modified : ¬ (source.category.slot? = target.category.slot? ∧ source.name = target.name))
    (drive : after = s.drive.applyAll (moveChanges source target
      (s.layout.folder source.category.slot?) (s.layout.folder target.category.slot?) stored.id
      ((s.drive.matching (some (s.layout.folder target.category.slot?))
        (some target.name)).map (·.found)))) :
    s.Moved source target stored after := by
  have apart := sound.not_listed ordinary there modified
  have differ : source.name ≠ target.name ∨
      s.layout.folder source.category.slot? ≠ s.layout.folder target.category.slot? := by
    by_contra same
    rw [not_or, not_not, not_not] at same
    exact modified ⟨sound.whole.distinct _ _ same.2, same.1⟩
  rw [Moved, drive]
  rw [← ids_found] at apart ⊢
  exact sound.tidy.distinct.exchanged_moveChanges there.held there.isAt.title differ apart

theorem Sound.tidy_of_moved (sound : s.Sound) (ordinary : Store.Ordinary target.name)
    (there : s.Stored source stored) (moved : s.Moved source target stored after)
    (created : s.drive.created = after.created) : after.Tidy s.layout.folder := by
  have tidy := sound.tidy
  refine tidy.exchanged moved ?_ ?_
  · intro file held gone
    obtain same | listed := List.mem_cons.mp gone
    · obtain rfl := tidy.distinct.eq held there.held same
      exact there.isAt.noFolder
    · exact (sound.isAt_of_listed ordinary held listed).noFolder
  · rintro _ ⟨⟩
    have parents := sound.parents_relocated there target
    refine ⟨tidy.addressed stored there.held, created ▸ tidy.fresh stored there.held,
      there.isAt.noFolder, ⟨_, parents⟩,
      tidy.urls _ stored there.held there.isAt.kept there.isAt.inside there.isAt.noFolder, ?_⟩
    intro other held stays kept place inside inside' title
    rw [parents, List.mem_singleton] at inside
    have there' := tidy.isAt ordinary.unreserved held kept (inside ▸ inside') title
    exact stays (List.mem_cons_of_mem _ (sound.listed_of_isAt ordinary held there'))

theorem Sound.contentAt_of_moved (sound : s.Sound) (ordinary : Store.Ordinary target.name)
    (there : s.Stored source stored) (moved : s.Moved source target stored after)
    (tidy' : after.Tidy s.layout.folder) (place : Option Slot) (name : String) :
    after.contentAt (s.layout.folder place) name =
      ((s.store.put source none).put target (some stored.content)).content place name := by
  have tidy := sound.tidy
  have elsewhere (other : ¬ (place = target.category.slot? ∧ name = target.name))
      (file : StoredFile) (isNew : some (relocated target (s.layout.folder source.category.slot?)
        (s.layout.folder target.category.slot?) stored) = some file) :
      ¬ file.IsAt (s.layout.folder place) name := by
    obtain rfl := Option.some.inj isNew
    intro k
    have inside := k.inside
    rw [sound.parents_relocated there target, List.mem_singleton] at inside
    exact other ⟨sound.whole.distinct _ _ inside, k.title.symm⟩
  by_cases atTarget : place = target.category.slot? ∧ name = target.name
  · obtain ⟨rfl, rfl⟩ := atTarget
    rw [Store.put_same]
    have arrived := moved.contentAt_new tidy' rfl (there.isAt_relocated target)
    exact arrived
  rw [Store.put_other _ _ _ atTarget]
  by_cases atSource : place = source.category.slot? ∧ name = source.name
  · obtain ⟨rfl, rfl⟩ := atSource
    rw [Store.put_same]
    exact moved.contentAt_gone tidy (elsewhere atTarget) there.held there.isAt
      (List.mem_cons_self ..)
  · rw [Store.put_other _ _ _ atSource]
    apply moved.contentAt_same tidy tidy' (elsewhere atTarget)
    intro file held there' gone
    obtain same | listed := List.mem_cons.mp gone
    · obtain rfl := tidy.distinct.eq held there.held same
      exact atSource (tidy.key_eq sound.whole.distinct held there' there.isAt)
    · have listedThere := sound.isAt_of_listed ordinary held listed
      exact atTarget (tidy.key_eq sound.whole.distinct held there' listedThere)

end

end Session

/-- To move a file to where it is changes nothing. -/
theorem Store.move_self {store : Store} {source target : RemoteFile} {content : Bytes}
    (key : source.category.slot? = target.category.slot? ∧ source.name = target.name)
    (held : store.get source = some content) :
    (store.put source none).put target (some content) = store := by
  ext1
  · funext place name
    by_cases there : place = target.category.slot? ∧ name = target.name
    · obtain ⟨rfl, rfl⟩ := there
      rw [Store.put_same, ← held, Store.get, key.1, key.2]
    · rw [Store.put_other _ _ _ there, Store.put_other _ _ _ (key.1 ▸ key.2 ▸ there)]
  · rfl

open Repository in
theorem Action.move_refines {s : Session} (sound : s.Sound) {source target : RemoteFile}
    (admitted : s.store.Admits (.move source target)) : (Action.move source target).Refines s := by
  obtain ⟨ordinary, ordinary'⟩ := admitted
  have tidy := sound.tidy
  have located := (locate_ends sound.calm.raising source target).2
  obtain ⟨absent, failed⟩ | ⟨stored, there, found⟩ := located.eq_found sound ordinary ordinary'
  · refine Ends.then_nil ((move_ends sound.calm.raising source target).mono ?_)
    rintro _ t ⟨_, rfl, ended⟩
    rw [failed] at ended
    obtain ⟨rfl, same⟩ := ended
    refine ⟨sound.of_sameState same, same.layout, ?_, ?_⟩
    · rw [Store.next, absent]
      exact Session.store_of_sameState same
    · rw [Store.Answers, absent]
      rfl
  · have movable := movable_of_stored sound ordinary ordinary' there
    refine Ends.then_nil ((move_succeeds sound.calm tidy.distinct found movable).mono ?_)
    rintro _ t ⟨rfl, around, drive⟩
    have pages : t.drive.pageSize = s.drive.pageSize := by rw [drive, Drive.applyAll_eq]
    have chunks : t.drive.chunkSize = s.drive.chunkSize := by rw [drive, Drive.applyAll_eq]
    have created : s.drive.created = t.drive.created := by rw [drive, Drive.applyAll_eq]
    have answers : s.store.Answers s.layout (.move source target) (.ok []) := by
      rw [Store.Answers, there.content]
      rfl
    rw [requiredChanges, sound.whole.told, sound.whole.told] at drive
    by_cases key : source.category.slot? = target.category.slot? ∧ source.name = target.name
    · rw [moveChanges_eq, retitling, refoldering, key.1, key.2] at drive
      have same : s.SameState t := ⟨around, by simpa [Drive.applyAll] using drive⟩
      refine ⟨sound.of_sameState same, around.layout, ?_, answers⟩
      rw [Store.next, there.content]
      exact (Session.store_of_sameState same).trans (Store.move_self key there.content).symm
    · have moved := sound.moved ordinary' there key drive
      have after := sound.tidy_of_moved ordinary' there moved created
      refine ⟨sound.of_sameAround around pages chunks after, around.layout, ?_, answers⟩
      rw [Store.next, there.content]
      ext1
      · funext place name
        rw [Session.store, around.layout]
        exact sound.contentAt_of_moved ordinary' there moved after place name
      · exact around.disk

end DriveDepot
