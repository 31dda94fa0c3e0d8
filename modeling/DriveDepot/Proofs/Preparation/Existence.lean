import DriveDepot.Proofs.Preparation.Agreement

/-!
Whether the target exists once it has been prepared. A preparation makes every folder of a path
that leads nowhere, also those that are there, and it makes the category folders whatever they are
called. The probe then refuses to choose between two folders of one title.
-/

namespace DriveDepot

@[simp] theorem Drive.rootPath_attach (drive : Drive) (layout : Layout) :
    (drive.attach layout).rootPath = layout.rootPath := by
  rw [attach]
  split
  · split
    · rfl
    · rw [discover]
      split
      · exact Layout.rootPath_fill ..
      · rfl
  · rfl

namespace Repository

open Operation

/-- None of the category folders stands in the way: on the way along the titles their titles are not
looked for everywhere and not in the root folder. -/
def Unhindered (drive : Drive) (titles : List String) (rootId : Json) : Prop :=
  ∀ step ∈ drive.route none titles, step.1 ∈ Slot.titles →
    step.2 ≠ none ∧ Folders.within step.2 ≠ rootId

theorem offRoute_siblings {drive : Drive} {titles : List String} {created : Nat} {root : String} :
    drive.OffRoute none titles (Drive.siblings created root Slot.titles) ↔
      Unhindered drive titles (.string root) := by
  refine forall₂_congr fun step _ => ?_
  have beside : (∀ file ∈ Drive.siblings created root Slot.titles, ¬ file.IsSought step.1 step.2) ↔
      ¬ (step.1 ∈ Slot.titles ∧ ∀ folder, step.2 = some folder → root = folder) := by
    rw [← Drive.exists_isSought_siblings created]
    simp only [not_exists, not_and]
  rw [beside]
  cases step.2 <;> simp [Folders.within, eq_comm]

theorem segments_provided (layout : Layout) (created : Nat) :
    (provided layout created).segments = layout.segments :=
  congrArg FolderPath.segments (layout.rootPath_fill _)

theorem rootId_provided (layout : Layout) (created : Nat) :
    (provided layout created).rootId = layout.rootId := layout.rootId_fill _

/-- Without faults, and if the preparation succeeds, the target exists afterwards: where the root
path led to a folder, exactly if no category folder stands in the way, and where a title was
missing, exactly if the first title is that of one folder only, now that all have been made. A drive
that lists one folder at a time hides the others. Where the path led to several folders or was not
read by the drive, the target does not exist afterwards either. -/
theorem prepare_existence {s t : Session} (calm : s.schedule.Calm) (unused : s.drive.UnusedIds)
    {first : String} {rest : List String} (segments : s.layout.segments = first :: rest)
    (run : runOn (prepare true) s = (.ok (), t)) :
    targetExists.Ends t fun answer _ => match s.drive.trail none (first :: rest) with
      | .found _ => answer = .ok true ↔
          s.drive.pageSize = some 1 ∨ Unhindered s.drive (first :: rest) t.layout.rootId
      | .missing => answer = .ok true ↔
          (∀ title ∈ first :: rest, Query.Quotable title) ∧ s.drive.folders first none = [] ∧
            s.drive.pageSize ≠ some 0 ∧
              (s.drive.pageSize = some 1 ∨ first ∉ rest ∧ first ∉ Slot.titles)
      | .several | .refused => answer = .ok false := by
  have made := (prepare_calm calm segments).of_eq run
  rw [segments] at made
  have answers {new : List StoredFile} {layout : Layout}
      (made : s.Provided new layout t) (path : layout.segments = first :: rest) :
      targetExists.Ends t fun answer _ => answer = .ok true ↔
        ∃ id, (s.drive.grown new).trail none (first :: rest) = .found id := by
    have probed := targetExists_calm (made.calm calm)
    rw [made.layout, path, made.drive] at probed
    exact probed.mono fun _ _ => And.right
  cases leads : s.drive.trail none (first :: rest) with
  | found id =>
    rw [leads] at made
    obtain ⟨root, known, made⟩ := made rfl
    have path : (provided (s.drive.attach s.layout) s.drive.created).segments = first :: rest := by
      rw [segments_provided, ← segments]
      exact congrArg FolderPath.segments (s.drive.rootPath_attach s.layout)
    apply (answers made path).mono
    intro answer _ found
    rw [Drive.trail_grown_iff leads, offRoute_siblings] at found
    rw [made.layout, rootId_provided, known]
    exact found
  | missing =>
    rw [leads] at made
    have made := made.2 rfl
    apply (answers made ((segments_provided ..).trans segments)).mono
    intro answer _ found
    rw [found]
    constructor
    · rintro ⟨id, leads'⟩
      exact ⟨Drive.quotable_of_trail leads', Drive.of_trail_provision unused leads leads'⟩
    · rintro ⟨quotable, absent, paged, single⟩
      exact ⟨_, Drive.trail_provision unused quotable absent paged single⟩
  | several | refused =>
    rw [leads] at made
    have made := made.2 rfl
    refine ((answers made ((segments_provided ..).trans segments)).and
      (succeeds_targetExists t)).mono ?_
    rintro answer _ ⟨found, positive, rfl⟩
    cases positive with
    | false => rfl
    | true =>
      obtain ⟨id, leads'⟩ := found.mp rfl
      exact absurd leads' (Drive.trail_grown_of_stuck (by simp [leads, Lookup.Stuck]))

theorem prepare_existence_blankSession :
    blankSession.schedule.Calm ∧ blankSession.drive.UnusedIds ∧
      blankSession.layout.segments = ["A", "B"] ∧
        (runOn (prepare true) blankSession).1 = .ok () ∧
          targetExists.Ends (runOn (prepare true) blankSession).2 fun answer _ =>
            answer = .ok true := by
  have unclaimed := unclaimed_blankSession
  have segments : blankSession.layout.segments = ["A", "B"] := unclaimed.segments
  have succeeded : (runOn (prepare true) blankSession).1 = .ok () := by decide +kernel
  have missing : blankSession.drive.trail none ["A", "B"] = .missing := by decide +kernel
  have run : runOn (prepare true) blankSession =
      (.ok (), (runOn (prepare true) blankSession).2) := by rw [← succeeded]
  have probed := prepare_existence unclaimed.calm unclaimed.unused segments run
  rw [missing] at probed
  exact ⟨unclaimed.calm, unclaimed.unused, segments, succeeded, probed.mono fun _ _ exactly =>
    exactly.mpr ⟨unclaimed.quotable, unclaimed.folders, unclaimed.paged, .inl rfl⟩⟩

/-- A drive that holds the first folder of the path, and not the second. -/
def partialSession : Session :=
  { blankSession with drive := ⟨[Drive.newFolder "1" "A" none], 0, none, 2, .object []⟩ }

/-- The preparation makes the first folder once more, and the probe finds two. -/
theorem prepare_doubles_first_folder :
    partialSession.schedule.Calm ∧ partialSession.layout.segments = ["A", "B"] ∧
      (runOn (prepare true) partialSession).1 = .ok () ∧
        (runOn targetExists (runOn (prepare true) partialSession).2).1 = .ok false := by
  refine ⟨rfl, ?_, ?_, ?_⟩ <;> decide +kernel

end Repository

end DriveDepot
