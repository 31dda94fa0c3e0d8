import DriveDepot.Proofs.Changes
import DriveDepot.Proofs.Folder
import DriveDepot.Repository.Transfer

namespace DriveDepot.Repository

open Operation

/-- The changes that a move makes to the file that it found: first to its title, then to its
folder. -/
def retitling (source target : RemoteFile) (id : String) : List Change :=
  if source.name = target.name then [] else [.retitle id target.name]

def refoldering (sourceFolder targetFolder id : String) : List Change :=
  if sourceFolder = targetFolder then [] else [.leave id sourceFolder, .enter id targetFolder]

/-- All changes that a move requires. What is listed at the target is deleted last, and only if
something else was to be done. -/
def moveChanges (source target : RemoteFile) (sourceFolder targetFolder id : String)
    (listed : List FoundFile) : List Change :=
  let moving := retitling source target id ++ refoldering sourceFolder targetFolder id
  moving ++ if moving = [] then [] else (listed.map (·.id)).map .drop

theorem moveChanges_eq (source target : RemoteFile) (sourceFolder targetFolder id : String)
    (listed : List FoundFile) :
    moveChanges source target sourceFolder targetFolder id listed =
      retitling source target id ++ (refoldering sourceFolder targetFolder id ++
        if decide (source.name ≠ target.name) || decide (sourceFolder ≠ targetFolder) then
          (listed.map (·.id)).map .drop
        else []) := by
  rw [moveChanges, List.append_assoc]
  by_cases names : source.name = target.name <;>
    by_cases folders : sourceFolder = targetFolder <;>
    simp [retitling, refoldering, names, folders]

/-- The parents of a file after it is taken from one folder to the other. -/
def refoldered (sourceFolder targetFolder : String) (parents : List String) : List String :=
  if sourceFolder = targetFolder then parents
  else if (parents.erase sourceFolder).contains targetFolder then parents.erase sourceFolder
  else parents.erase sourceFolder ++ [targetFolder]

theorem mem_refoldered {sourceFolder : String} (targetFolder : String) {parents : List String}
    (inside : sourceFolder ∈ parents) :
    targetFolder ∈ refoldered sourceFolder targetFolder parents := by
  rw [refoldered]
  by_cases same : sourceFolder = targetFolder
  · rw [if_pos same]
    exact same ▸ inside
  · by_cases there : targetFolder ∈ parents.erase sourceFolder <;> simp [same, there]

/-- The file as a move leaves it. -/
def relocated (target : RemoteFile) (sourceFolder targetFolder : String) (file : StoredFile) :
    StoredFile :=
  { file with
    title := target.name, parents := refoldered sourceFolder targetFolder file.parents }

theorem outcomes_retitling {source target : RemoteFile} {file : StoredFile}
    (titled : file.title = source.name) :
    Change.outcomes (retitling source target file.id) file =
      some { file with title := target.name } := by
  rw [retitling]
  split
  · rename_i names
    rw [← names, ← titled]
    rfl
  · simp [Change.outcomes, Change.outcome, Change.effect, Change.file]

theorem outcomes_refoldering (sourceFolder targetFolder : String) (file : StoredFile) :
    Change.outcomes (refoldering sourceFolder targetFolder file.id) file =
      some { file with parents := refoldered sourceFolder targetFolder file.parents } := by
  rw [refoldering, refoldered]
  split
  · rfl
  · simp [Change.outcomes, Change.outcome, Change.effect, Change.file]

/-- What becomes of the file that is moved. It is lost where it is itself listed at the target. -/
theorem outcomes_moveChanges {source : RemoteFile} {file : StoredFile}
    (titled : file.title = source.name) (target : RemoteFile) (sourceFolder targetFolder : String)
    (listed : List FoundFile) :
    Change.outcomes (moveChanges source target sourceFolder targetFolder file.id listed) file =
      if (source.name ≠ target.name ∨ sourceFolder ≠ targetFolder) ∧
          file.id ∈ listed.map (·.id) then none
      else some (relocated target sourceFolder targetFolder file) := by
  have refoldered := outcomes_refoldering sourceFolder targetFolder
    { file with title := target.name }
  rw [moveChanges_eq, Change.outcomes_append, outcomes_retitling titled, Option.bind_some,
    Change.outcomes_append, refoldered, Option.bind_some]
  by_cases modified : source.name ≠ target.name ∨ sourceFolder ≠ targetFolder
  · rw [if_pos (by simpa using modified)]
    simp only [Change.outcomes_drops, modified, true_and]
    rfl
  · rw [if_neg (by simpa using modified), if_neg (by simp [modified])]
    rfl

theorem rename_ends {s : Session} (raising : s.schedule.Raising) (id title : String) :
    (rename (.string id) title).Ends s fun outcome t =>
      Performed [.retitle id title] s outcome t ∧
        ∀ confirmed, outcome = .ok confirmed → confirmed = true := by
  rw [rename]
  refine (change_ends raising (.retitle id title)).bind (fun value t h => ?_) fun failure t h => ?_
  · obtain rfl := h.2 value rfl
    exact ends_pure.mpr ⟨h.1.returning _, fun _ e => (Except.ok.inj e).symm⟩
  · exact ⟨h.1.failed [], by simp⟩

theorem moveTitle_ends {s : Session} (raising : s.schedule.Raising) (source target : RemoteFile)
    (id : String) :
    (moveTitle source target id).Ends s fun outcome t =>
      Performed (retitling source target id) s outcome t ∧
        ∀ renamed, outcome = .ok renamed → renamed = decide (source.name ≠ target.name) := by
  rw [moveTitle, retitling]
  by_cases same : source.name = target.name
  · rw [if_pos same, if_pos same]
    exact ends_pure.mpr ⟨.nil (.refl s), by simp [same]⟩
  · rw [if_neg same, if_neg same]
    apply Ends.log_bind
    intro journal
    have told := Session.SameState.journal s journal
    refine (rename_ends (told.raising raising) id target.name).bind (fun confirmed t h => ?_)
      fun failure t h => ?_
    · obtain rfl := h.2 confirmed rfl
      exact ends_pure.mpr ⟨h.1.of_sameState told, by simp [same]⟩
    · exact ⟨h.1.of_sameState told, by simp⟩

theorem moveFolder_ends {s : Session} (raising : s.schedule.Raising)
    (name sourceFolder targetFolder id : String) :
    (moveFolder name sourceFolder targetFolder id).Ends s fun outcome t =>
      Performed (refoldering sourceFolder targetFolder id) s outcome t ∧
        ∀ moved, outcome = .ok moved → moved = decide (sourceFolder ≠ targetFolder) := by
  rw [moveFolder, refoldering]
  by_cases same : sourceFolder = targetFolder
  · rw [if_pos same, if_pos same]
    exact ends_pure.mpr ⟨.nil (.refl s), by simp [same]⟩
  · rw [if_neg same, if_neg same]
    apply Ends.log_bind
    intro journal
    have told := Session.SameState.journal s journal
    refine (change_ends (told.raising raising) (.leave id sourceFolder)).bind (fun _ t h => ?_)
      fun failure t h => ⟨(h.1.of_sameState told).failed [_], by simp⟩
    have left := h.1.of_sameState told
    refine (change_ends (left.around.raising raising) (.enter id targetFolder)).bind
      (fun _ u k => ?_) fun failure u k => ⟨left.trans (k.1.failed []), by simp⟩
    exact ends_pure.mpr ⟨left.trans (k.1.returning _), by simp [same]⟩

theorem deleteReplaced_ends {s : Session} (raising : s.schedule.Raising) (modified : Bool)
    (targetText : String) {listed : List FoundFile} (atMostOne : listed.length ≤ 1) :
    (deleteReplaced modified targetText listed).Ends s
      (Performed (if modified then (listed.map (·.id)).map .drop else []) s) := by
  match listed, atMostOne with
  | [], _ => cases modified <;> exact ends_pure.mpr (.nil (.refl s))
  | [old], _ =>
    cases modified with
    | false => exact ends_pure.mpr (.nil (.refl s))
    | true =>
      apply Ends.log_bind
      intro journal
      have told := Session.SameState.journal s journal
      refine (change_ends (told.raising raising) (.drop old.id)).bind (fun _ t h => ?_)
        fun failure t h => (h.1.of_sameState told).failed []
      exact ends_pure.mpr ((h.1.of_sameState told).returning ())

inductive BothLocated (source target : RemoteFile) (s : Session) :
    Except Failure (FoundFile × List FoundFile) → Prop
  | both {sourceFolder targetFolder : String} {file : FoundFile} {listed : List FoundFile}
      (sourceText : s.layout.folderFor source.category = .string sourceFolder)
      (targetText : s.layout.folderFor target.category = .string targetFolder)
      (located : Search.Located (s.drive.matching sourceFolder source.name) sourceFolder
        source.name s (.ok file))
      (collected : Search.Collected (s.drive.matching targetFolder target.name) s (.ok listed))
      (atMostOne : listed.length ≤ 1) : BothLocated source target s (.ok (file, listed))
  | noSource {sourceFolder : String} {failure : Failure}
      (sourceText : s.layout.folderFor source.category = .string sourceFolder)
      (located : Search.Located (s.drive.matching sourceFolder source.name) sourceFolder
        source.name s (.error failure)) : BothLocated source target s (.error failure)
  | noTarget {targetFolder : String} {failure : Failure}
      (targetText : s.layout.folderFor target.category = .string targetFolder)
      (collected : Search.Collected (s.drive.matching targetFolder target.name) s
        (.error failure)) : BothLocated source target s (.error failure)
  | severalTargets {targetFolder : String} {listed : List FoundFile}
      (targetText : s.layout.folderFor target.category = .string targetFolder)
      (collected : Search.Collected (s.drive.matching targetFolder target.name) s (.ok listed))
      (several : 1 < listed.length) :
      BothLocated source target s (.error (.ofStorage (.severalTargets listed.length)))
  | noText {category : Category} {kind : Json.Kind}
      (other : (s.layout.folderFor category).text = .error (.notAText kind)) :
      BothLocated source target s (.error (.ofMishap (.notAText kind)))

theorem BothLocated.atSource {s : Session} {source target : RemoteFile} {file : FoundFile}
    {listed : List FoundFile} (h : BothLocated source target s (.ok (file, listed))) :
    ∃ stored ∈ s.drive.matching (some (s.layout.folderFor source.category).told)
      (some source.name), stored.found = file := by
  cases h with
  | both sourceText _ located =>
    cases located with
    | only collected =>
      rw [sourceText]
      exact collected.stored (List.mem_singleton_self file)

theorem BothLocated.atTarget {s : Session} {source target : RemoteFile} {file : FoundFile}
    {listed : List FoundFile} (h : BothLocated source target s (.ok (file, listed))) :
    listed.length ≤ 1 ∧ ∀ old ∈ listed,
      ∃ stored ∈ s.drive.matching (some (s.layout.folderFor target.category).told)
        (some target.name), stored.found = old := by
  cases h with
  | both _ targetText _ collected atMostOne =>
    rw [targetText]
    exact ⟨atMostOne, fun old member => collected.stored member⟩

/-- Without faults one file matches at the source, and all that match are listed at the target. -/
theorem BothLocated.eq_of_calm {s : Session} (calm : s.schedule.Calm) {source target : RemoteFile}
    {file : FoundFile} {listed : List FoundFile}
    (h : BothLocated source target s (.ok (file, listed))) :
    (∃ stored, s.drive.matching (some (s.layout.folderFor source.category).told)
      (some source.name) = [stored] ∧ stored.found = file) ∧
    listed = (s.drive.matching (some (s.layout.folderFor target.category).told)
      (some target.name)).map (·.found) := by
  cases h with
  | both sourceText targetText located collected =>
    cases located with
    | only alone =>
      rw [sourceText, targetText]
      obtain ⟨stored, only, same⟩ := List.map_eq_singleton_iff.mp (alone.eq_of_calm calm).symm
      exact ⟨⟨stored, only, same⟩, collected.eq_of_calm calm⟩

theorem locate_ends {s : Session} (raising : s.schedule.Raising) (source target : RemoteFile) :
    (locate source target).Ends s fun outcome t =>
      s.SameState t ∧ BothLocated source target s outcome := by
  rw [locate, ends_folderFor_bind]
  obtain ⟨sourceFolder, sourceText⟩ | other := text_or_not (s.layout.folderFor source.category)
  · rw [sourceText, oneFileIn_string]
    refine (Search.oneFile_ends raising _ _).bind ?_
      fun failure t h => ⟨h.1, .noSource sourceText h.2⟩
    rintro file t ⟨same, located⟩
    rw [ends_folderFor_bind, same.layout]
    obtain ⟨targetFolder, targetText⟩ | other := text_or_not (s.layout.folderFor target.category)
    · rw [targetText, filesIn_string]
      refine (Search.files_ends (same.raising raising) _ _).bind ?_ ?_
      · rintro listed u ⟨same', collected⟩
        have collected := collected.of_sameState same
        rw [same.drive] at collected
        by_cases several : listed.length > 1
        · rw [if_pos several]
          exact ⟨same.trans same', .severalTargets targetText collected several⟩
        · rw [if_neg several]
          exact ends_pure.mpr
            ⟨same.trans same', .both sourceText targetText located collected (by omega)⟩
      · rintro failure u ⟨same', collected⟩
        have collected := collected.of_sameState same
        rw [same.drive] at collected
        exact ⟨same.trans same', .noTarget targetText collected⟩
    · rw [filesIn_notText other]
      exact ⟨same, .noText other⟩
  · rw [oneFileIn_notText other]
    exact ⟨.refl s, .noText other⟩

/-- How a folder and a name are told when a move fails. -/
def label (layout : Layout) (file : RemoteFile) : String :=
  s!"{layout.folderFor file.category}:{file.name}"

/-- What a move fails with. Failures of the storage and of the drive become the cause of its own. -/
def moveFailure (layout : Layout) (source target : RemoteFile) (failure : Failure) : Failure :=
  if failure.isStorage || failure.isProvider then
    failure.wrap (.moveFailed (label layout source) (label layout target))
  else failure

/-- The changes that a move is to make once both of its ends are located. -/
def requiredChanges (layout : Layout) (source target : RemoteFile) (file : FoundFile)
    (listed : List FoundFile) : List Change :=
  moveChanges source target (layout.folderFor source.category).told
    (layout.folderFor target.category).told file.id listed

/-- A move that does not locate its ends changes nothing; otherwise it performs what is required,
in order. -/
theorem move_ends {s : Session} (raising : s.schedule.Raising) (source target : RemoteFile) :
    (move source target).Ends s fun outcome t =>
      ∃ inner : Except Failure Unit,
        outcome = inner.mapError (moveFailure s.layout source target) ∧
          match (runOn (locate source target) s).1 with
          | .error failure => inner = .error failure ∧ s.SameState t
          | .ok (file, listed) =>
            Performed (requiredChanges s.layout source target file listed) s inner t := by
  rw [move, ends_folderFor_bind, ends_folderFor_bind]
  refine Ends.handleIf (P := fun inner t => match (runOn (locate source target) s).1 with
    | .error failure => inner = .error failure ∧ s.SameState t
    | .ok (file, listed) =>
      Performed (requiredChanges s.layout source target file listed) s inner t) ?_ ?_ ?_ ?_
  · refine ((locate_ends raising source target).and (.run _ s)).bind ?_ ?_
    · rintro ⟨file, listed⟩ t ⟨⟨same, located⟩, run⟩
      cases located with
      | both _ _ _ _ atMostOne =>
        rw [run]
        simp only [requiredChanges, moveChanges_eq]
        refine (moveTitle_ends (same.raising raising) source target file.id).bind
          (fun renamed u h => ?_) fun failure u h => (h.1.of_sameState same).failed _
        obtain rfl := h.2 renamed rfl
        have titled := h.1.of_sameState same
        refine (moveFolder_ends (titled.around.raising raising) _ _ _ _).bind (fun moved v k => ?_)
          fun failure v k => titled.trans (k.1.failed _)
        obtain rfl := k.2 moved rfl
        exact (deleteReplaced_ends (k.1.around.raising (titled.around.raising raising)) _ _
          atMostOne).mono fun inner w l => titled.trans (k.1.trans l)
    · rintro failure t ⟨⟨same, _⟩, run⟩
      rw [run]
      exact ⟨rfl, same⟩
  · exact fun _ t h => ⟨.ok (), rfl, h⟩
  · intro failure t handled h
    apply Ends.log_bind
    intro journal
    have told := Session.SameState.journal t journal
    refine ⟨.error failure, by simp [Except.mapError, moveFailure, handled, label], ?_⟩
    cases located : (runOn (locate source target) s).1 with
    | error failure =>
      rw [located] at h
      exact ⟨h.1, h.2.trans told⟩
    | ok found =>
      rw [located] at h
      exact Performed.then_sameState h told
  · intro failure t handled h
    exact ⟨.error failure, by simp [Except.mapError, moveFailure, handled], h⟩

section
variable {layout : Layout} {source target : RemoteFile} {file : FoundFile}
  {listed : List FoundFile} {change : Change}

/-- The only changes that a move can require. -/
theorem mem_requiredChanges
    (member : change ∈ requiredChanges layout source target file listed) :
    change = .retitle file.id target.name ∨
      change = .leave file.id (layout.folderFor source.category).told ∨
      change = .enter file.id (layout.folderFor target.category).told ∨
      ∃ old ∈ listed, change = .drop old.id := by
  rw [requiredChanges, moveChanges_eq, retitling, refoldering] at member
  split at member <;> split at member <;> split at member <;> simp at member <;> grind

theorem exists_of_drop_mem {id : String}
    (member : Change.drop id ∈ requiredChanges layout source target file listed) :
    ∃ old ∈ listed, old.id = id := by
  obtain h | h | h | ⟨old, there, h⟩ := mem_requiredChanges member
  · cases h
  · cases h
  · cases h
  · exact ⟨old, there, (Change.drop.inj h).symm⟩

/-- Only the file that is moved and the one that it replaces are changed. -/
theorem file_of_required (member : change ∈ requiredChanges layout source target file listed) :
    change.file = file.id ∨ ∃ old ∈ listed, change.file = old.id := by
  obtain rfl | rfl | rfl | ⟨old, there, rfl⟩ := mem_requiredChanges member
  · exact .inl rfl
  · exact .inl rfl
  · exact .inl rfl
  · exact .inr ⟨old, there, rfl⟩

theorem nodup_requiredChanges (atMostOne : listed.length ≤ 1) :
    (requiredChanges layout source target file listed).Nodup := by
  rw [requiredChanges, moveChanges_eq, retitling, refoldering]
  rcases listed with _ | ⟨old, _ | ⟨_, _⟩⟩
  · split <;> split <;> simp
  · split <;> split <;> split <;> simp
  · simp at atMostOne

end

end DriveDepot.Repository
