import DriveDepot.Proofs.Folder
import DriveDepot.Proofs.Preparation

namespace DriveDepot.Repository

open Operation

section
variable {s : Session}

/-- The category folders are asked for in the root folder, once there is one. -/
theorem provide_asks (s : Session) :
    Ends (do requireRoot; createSlots) s fun _ t => t.layout.rootId = s.layout.rootId ∧
      ∃ done, done <+: Slot.all ∧
        t.foldersAsked = s.foldersAsked ++ done.map (fun slot => (slot.title, s.layout.rootId)) ∧
          (done ≠ [] → s.layout.rootId ≠ .null) := by
  refine (requireRoot_ends s).bind ?_ ?_
  · rintro ⟨⟩ t ⟨rfl, known⟩
    apply (createSlots_asks t).mono
    rintro _ u ⟨rootId, done, part, asked⟩
    refine ⟨rootId, done, part, asked, fun _ null => ?_⟩
    rw [null] at known
    cases known.mp rfl
  · rintro failure t ⟨rfl, _⟩
    exact ⟨rfl, [], List.nil_prefix, (List.append_nil _).symm, (absurd rfl ·)⟩

structure RootEnsured (s : Session) (outcome : Except Failure Unit) (t : Session)
    (asked : List (String × Json)) : Prop where
  foldersAsked : t.foldersAsked = s.foldersAsked ++ asked
  found : ∀ id, s.drive.trail none s.layout.segments = .found id → s.schedule.Spares .list →
    asked = []
  ended : (∀ id, s.drive.trail none s.layout.segments ≠ .found id) →
    asked.head? = s.layout.segments.head?.map (·, .null) ∧ (outcome = .ok () → asked ≠ [])

theorem ensureRoot_asks (raising : s.schedule.Raising) :
    (ensureRoot true).Ends s fun outcome t => ∃ asked, RootEnsured s outcome t asked := by
  rw [ensureRoot]
  refine (targetExists_ends raising).bind ?_ ?_
  · rintro positive t ⟨_, same, probed⟩
    obtain rfl := Except.ok.inj same
    cases positive with
    | true =>
      obtain ⟨id, leads, _⟩ := probed.sound rfl
      refine ends_pure.mpr ⟨[], ?_, fun _ _ _ => rfl, fun ended => absurd leads (ended id)⟩
      rw [probed.foldersAsked, List.append_nil]
    | false =>
      have path : FolderPath.segments t.layout.rootPath = s.layout.segments :=
        congrArg FolderPath.segments probed.rootPath
      have found (id : String) (leads : s.drive.trail none s.layout.segments = .found id)
          (spared : s.schedule.Spares .list) : False :=
        Bool.false_ne_true ((probed.spared spared).2.mpr ⟨id, leads⟩)
      have ensured {outcome : Except Failure Unit} {u : Session} {asked : List (String × Json)}
          (ordered : u.foldersAsked = t.foldersAsked ++ asked)
          (first : asked.head? = s.layout.segments.head?.map (·, .null))
          (some_asked : outcome = .ok () → asked ≠ []) : RootEnsured s outcome u asked :=
        ⟨ordered.trans (by rw [probed.foldersAsked]),
          fun id leads spared => (found id leads spared).elim, fun _ => ⟨first, some_asked⟩⟩
      change createRoot.Ends t _
      rw [createRoot, ends_layout_bind, path]
      refine (Folders.makePath_asks .null s.layout.segments t).bind ?_ ?_
      · rintro rootId u ⟨some_title, asked, ordered, _, first⟩
        rw [ends_layout_bind]
        have some_asked : asked ≠ [] := by
          rintro rfl
          have empty : s.layout.segments = [] :=
            List.head?_eq_none_iff.mp (Option.map_eq_none_iff.mp first.symm)
          exact some_title empty rootId rfl
        exact ⟨asked, ensured ordered.foldersAsked first fun _ => some_asked⟩
      · rintro failure u ⟨_, asked, ordered, _, first⟩
        exact ⟨asked, ensured ordered.foldersAsked first (by simp)⟩
  · rintro failure t ⟨_, same, _⟩
    cases same

structure FoldersOrdered (s t : Session) (asked : List (String × Json)) : Prop where
  foldersAsked : t.foldersAsked = s.foldersAsked ++ asked
  found : ∀ id, s.drive.trail none s.layout.segments = .found id → s.schedule.Spares .list →
    ∃ done, done <+: Slot.all ∧ asked = done.map (fun slot => (slot.title, t.layout.rootId)) ∧
      ∀ folder ∈ asked, folder.2 ≠ .null
  ended : (∀ id, s.drive.trail none s.layout.segments ≠ .found id) →
    asked.head? = s.layout.segments.head?.map (·, .null)

theorem orders_ends (raising : s.schedule.Raising) :
    Ends (do ensureRoot true; requireRoot; createSlots) s fun _ t =>
      ∃ asked, FoldersOrdered s t asked := by
  refine (ensureRoot_asks raising).bind ?_ ?_
  · rintro ⟨⟩ t ⟨asked, ensured⟩
    apply (provide_asks t).mono
    rintro _ u ⟨rootId, done, part, provided, known⟩
    refine ⟨asked ++ done.map fun slot => (slot.title, t.layout.rootId), ?_, ?_, ?_⟩
    · rw [provided, ensured.foldersAsked, List.append_assoc]
    · intro id leads spared
      rw [ensured.found id leads spared, List.nil_append]
      refine ⟨done, part, by rw [rootId], fun folder member => ?_⟩
      obtain ⟨slot, among, rfl⟩ := List.mem_map.mp member
      exact known (List.ne_nil_of_mem among)
    · intro ended
      obtain ⟨first, some_asked⟩ := ensured.ended ended
      rw [List.head?_append_of_ne_nil _ (some_asked rfl), first]
  · rintro failure t ⟨asked, ensured⟩
    refine ⟨asked, ensured.foldersAsked, fun id leads spared => ?_, fun ended =>
      (ensured.ended ended).1⟩
    rw [ensured.found id leads spared]
    exact ⟨[], List.nil_prefix, rfl, by simp⟩

/-- Under any faults that raise, a preparation that connects asks for the folders of the root path,
beginning with the outermost, unless the path leads to a folder; if it does and no fault concerns
listings, only category folders are asked for. A path that leads to a folder is spelt by folders of
the drive, and one of which a title is missing is not, as far as pages tell. -/
theorem prepare_root_folders (raising : s.schedule.Raising) :
    (prepare true).Ends s fun _ t => ∃ asked, t.foldersAsked = s.foldersAsked ++ asked ∧
      match (runOn connect s).1 with
      | .error _ => asked = []
      | .ok _ => match s.drive.trail none s.layout.segments with
        | .found id => s.drive.Spells id none s.layout.segments ∧
            (s.schedule.Spares .list → ∃ done, done <+: Slot.all ∧
              asked = done.map (fun slot => (slot.title, t.layout.rootId)) ∧
                ∀ folder ∈ asked, folder.2 ≠ .null)
        | .missing =>
            (s.drive.WidePages → ∀ id, ¬ s.drive.Spells id none s.layout.segments) ∧
              asked.head? = s.layout.segments.head?.map (·, .null)
        | .several | .refused => asked.head? = s.layout.segments.head?.map (·, .null) := by
  apply prepare_ends
  · refine ((connect_ends s).and (Ends.run connect s)).bind ?_ ?_
    · rintro ⟨⟩ t ⟨⟨browsed, _⟩, run⟩
      apply (orders_ends (browsed.raising raising)).mono
      rintro _ u ⟨asked, ordered⟩
      have found := ordered.found
      have ended := ordered.ended
      rw [browsed.drive, browsed.layout] at found ended
      refine ⟨asked, ordered.foldersAsked.trans (by rw [browsed.foldersAsked]), ?_⟩
      rw [run]
      cases leads : s.drive.trail none s.layout.segments with
      | found id => exact ⟨Drive.spells_of_trail leads, found id leads ∘ browsed.spares⟩
      | missing =>
        exact ⟨fun wide _ => Drive.not_spells_of_missing wide leads, ended fun _ => by simp [leads]⟩
      | several | refused => exact ended fun id => by simp [leads]
    · rintro failure t ⟨⟨browsed, _⟩, run⟩
      refine ⟨[], browsed.foldersAsked.trans (List.append_nil _).symm, ?_⟩
      rw [run]
  · exact fun failure t journal h => h

end

/-- A repository that is ready, on a drive with an account. -/
def readySession (faults : List Fault) : Session :=
  { smallSession [] faults .empty with drive := { smallDrive [] with account := .object [] } }

/-- A fault hits the third category folder. -/
def withoutActions : Session :=
  readySession [⟨.insert, some 3, false, .raises (.provider (.http 500 "boom"))⟩]

theorem prepare_root_folders_withoutActions :
    withoutActions.schedule.Raising ∧ (prepare true).Ends withoutActions fun _ t =>
      ∃ done, done <+: Slot.all ∧ t.foldersAsked = withoutActions.foldersAsked ++
        done.map fun slot => (slot.title, t.layout.rootId) := by
  have raising : withoutActions.schedule.Raising := .of_reasons [] (by decide)
  have connected : (runOn connect withoutActions).1 = .ok () := by decide +kernel
  have leads : withoutActions.drive.trail none withoutActions.layout.segments = .found "repo" := by
    decide +kernel
  have spared : withoutActions.schedule.Spares .list := by decide
  have ordered := prepare_root_folders raising
  rw [connected, leads] at ordered
  refine ⟨raising, ordered.mono ?_⟩
  rintro _ t ⟨asked, foldersAsked, _, slots⟩
  obtain ⟨done, part, rfl, _⟩ := slots spared
  exact ⟨done, part, foldersAsked⟩

/-- A fault hits the listing that looks for the root folder. -/
def unlisted : Session :=
  readySession [⟨.list, some 1, false, .raises (.provider (.http 500 "boom"))⟩]

/-- The preparation takes the root folder for missing, and makes another one. -/
theorem prepare_splits_repository :
    unlisted.schedule.Raising ∧ unlisted.drive.Spells "repo" none unlisted.layout.segments ∧
      (runOn (prepare true) unlisted).1 = .ok () ∧
        ((runOn (prepare true) unlisted).2.foldersAsked.any fun folder =>
          folder.1 == "repo" && folder.2 matches .null) = true ∧
          ((runOn (prepare true) unlisted).2.drive.folders "repo" none).map (·.id) =
            ["repo", "new1"] := by
  have leads : unlisted.drive.trail none unlisted.layout.segments = .found "repo" := by
    decide +kernel
  refine ⟨.of_reasons [] (by decide), Drive.spells_of_trail leads, ?_, ?_, ?_⟩ <;> decide +kernel

end DriveDepot.Repository
