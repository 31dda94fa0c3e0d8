import DriveDepot.Proofs.Move

/-!
Whether the file that is moved survives. Nothing compares it with the file that is listed at the
target: a file of several folders, moved from one of them to another under its own name, is found
at both ends, and is deleted as the one that it replaces.
-/

namespace DriveDepot.Repository

open Operation

/-- The file is found at the source and, as it lies in both folders, at the target as well. -/
def ReplacesItself (layout : Layout) (source target : RemoteFile) (file : StoredFile) : Prop :=
  let targetFolder := (layout.folderFor target.category).told
  source.name = target.name ∧ (layout.folderFor source.category).told ≠ targetFolder ∧
    targetFolder ∈ file.parents ∧ Query.Quotable targetFolder

/-- The file is there with its content, under the name and in the folder of the target. -/
def Arrived (layout : Layout) (target : RemoteFile) (file : StoredFile) (drive : Drive) : Prop :=
  ∃ after ∈ drive.files, after.id = file.id ∧ after.content = file.content ∧
    after.title = target.name ∧ (layout.folderFor target.category).told ∈ after.parents

/-- After the required changes the file is at the target, unless they delete it. -/
theorem arrived_iff {drive : Drive} (distinct : drive.DistinctIds) {layout : Layout}
    {source : RemoteFile} {file : StoredFile} (held : file ∈ drive.files)
    (titled : file.title = source.name)
    (inside : (layout.folderFor source.category).told ∈ file.parents) (target : RemoteFile)
    (listed : List FoundFile) :
    let after := drive.applyAll (requiredChanges layout source target file.found listed)
    let lost := (source.name ≠ target.name ∨
      (layout.folderFor source.category).told ≠ (layout.folderFor target.category).told) ∧
        file.id ∈ listed.map (·.id)
    (Arrived layout target file after ↔ ¬ lost) ∧
      (lost → ∀ other ∈ after.files, other.id ≠ file.id) := by
  intro after lost
  have becomes : Change.outcomes (requiredChanges layout source target file.found listed) file =
      if lost then none else some _ := outcomes_moveChanges titled target _ _ listed
  have gone (isLost : lost) : ∀ other ∈ after.files, other.id ≠ file.id := by
    intro other there same
    obtain ⟨before, held', outcome⟩ := Drive.mem_files_applyAll.mp there
    have origin := (Change.kept_of_outcomes outcome).id.symm.trans same
    obtain rfl := distinct.eq held' held origin
    rw [becomes, if_pos isLost] at outcome
    cases outcome
  refine ⟨⟨?_, ?_⟩, gone⟩
  · rintro ⟨other, there, same, _⟩ isLost
    exact gone isLost other there same
  · intro notLost
    rw [if_neg notLost] at becomes
    exact ⟨_, Drive.mem_files_applyAll.mpr ⟨file, held, becomes⟩, rfl, rfl, rfl,
      mem_refoldered _ inside⟩

theorem listed_iff_replacesItself {drive : Drive} (distinct : drive.DistinctIds) {layout : Layout}
    {source target : RemoteFile} {file : StoredFile}
    (member : file ∈ drive.matching (some (layout.folderFor source.category).told)
      (some source.name)) :
    ((source.name ≠ target.name ∨
        (layout.folderFor source.category).told ≠ (layout.folderFor target.category).told) ∧
      file.id ∈ ((drive.matching (some (layout.folderFor target.category).told)
        (some target.name)).map (·.found)).map (·.id)) ↔
      ReplacesItself layout source target file := by
  obtain ⟨⟨quotable, _⟩, held, alive, titled, _⟩ := Drive.mem_matching.mp member
  have listed : file.id ∈ ((drive.matching (some (layout.folderFor target.category).told)
      (some target.name)).map (·.found)).map (·.id) ↔
      file ∈ drive.matching (some (layout.folderFor target.category).told) (some target.name) := by
    rw [List.map_map, List.mem_map]
    constructor
    · rintro ⟨other, there, same⟩
      obtain rfl := distinct.eq (Drive.mem_of_matching there).1 held same
      exact there
    · intro there
      exact ⟨file, there, rfl⟩
  rw [listed, Drive.mem_matching, ReplacesItself]
  constructor
  · rintro ⟨differ, ⟨_, quotable'⟩, _, _, titled', inside'⟩
    have names : source.name = target.name := titled.symm.trans titled'
    exact ⟨names, differ.resolve_left (not_not_intro names), inside', quotable'⟩
  · rintro ⟨names, folders, inside', quotable'⟩
    exact ⟨.inr folders, ⟨names ▸ quotable, quotable'⟩, held, alive, titled.trans names, inside'⟩

/-- Without faults, a move that succeeds found one file at its source, and that file arrives
exactly if it does not replace itself; otherwise no file of its id is left. -/
theorem move_survival {s t : Session} (calm : s.schedule.Calm) (distinct : s.drive.DistinctIds)
    {source target : RemoteFile} (run : runOn (move source target) s = (.ok (), t)) :
    ∃ file, s.drive.matching (some (s.layout.folderFor source.category).told)
        (some source.name) = [file] ∧
      (Arrived s.layout target file t.drive ↔ ¬ ReplacesItself s.layout source target file) ∧
      (ReplacesItself s.layout source target file →
        ∀ other ∈ t.drive.files, other.id ≠ file.id) := by
  obtain ⟨inner, succeeded, performed⟩ := (move_ends calm.raising source target).of_eq run
  have located := (locate_ends calm.raising source target).2
  cases inner with
  | error failure => cases succeeded
  | ok _ =>
    cases found : (runOn (locate source target) s).1 with
    | error failure =>
      rw [found] at performed
      cases performed.1
    | ok ends =>
      rw [found] at performed located
      obtain ⟨_, done, _, drive, rfl⟩ := performed
      obtain ⟨⟨file, only, same⟩, listed⟩ := located.eq_of_calm calm
      have member : file ∈ s.drive.matching (some (s.layout.folderFor source.category).told)
          (some source.name) := by
        rw [only]
        exact List.mem_singleton_self file
      obtain ⟨held, _, titled, inside⟩ := Drive.mem_of_matching member
      have ended := arrived_iff distinct held titled inside target ends.2
      rw [same, ← drive, listed, listed_iff_replacesItself distinct member] at ended
      exact ⟨file, only, ended⟩

/-- A file takes the place of another. -/
def replacing : Session :=
  smallSession [smallFile "1" "temp-1" "temporary" [1], smallFile "2" "syncany" "repo" [2]] []
    .empty

theorem move_survival_replacing :
    replacing.schedule.Calm ∧ replacing.drive.DistinctIds ∧
      (runOn (move smallSource .marker) replacing).1 = .ok () ∧
      ∃ file, replacing.drive.matching (some "temporary") (some "temp-1") = [file] ∧
        Arrived smallLayout .marker file (runOn (move smallSource .marker) replacing).2.drive := by
  have calm : replacing.schedule.Calm := rfl
  have distinct : replacing.drive.DistinctIds := by decide +kernel
  have succeeds : (runOn (move smallSource .marker) replacing).1 = .ok () := by decide +kernel
  obtain ⟨file, only, arrived, _⟩ := move_survival calm distinct (Prod.ext succeeds rfl)
  exact ⟨calm, distinct, succeeds, file, only, arrived.mpr (by simp [ReplacesItself, smallSource,
    RemoteFile.marker, Category.markerName])⟩

/-- A file lies in the root folder as well as in the folder of its category. -/
def shared : Session :=
  smallSession [⟨"1", "temp-1", ["temporary", "repo"], Drive.contentType, false, none, [1]⟩] []
    .empty

def unchangedName : RemoteFile := ⟨.generic, "temp-1", by decide +kernel⟩

/-- Moving that file to the root folder succeeds, and the file is gone. -/
theorem move_loses_shared_file :
    shared.schedule.Calm ∧ shared.drive.DistinctIds ∧
      (shared.drive.matching (some "temporary") (some "temp-1")).map (·.id) = ["1"] ∧
      (runOn (move smallSource unchangedName) shared).1 = .ok () ∧
      ∀ other ∈ (runOn (move smallSource unchangedName) shared).2.drive.files,
        other.id ≠ "1" := by
  refine ⟨rfl, ?_, ?_, ?_, ?_⟩ <;> decide +kernel

end DriveDepot.Repository
