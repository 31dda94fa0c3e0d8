import DriveDepot.Proofs.Lifecycle
import DriveDepot.Proofs.Preparation.Building

namespace DriveDepot

open Operation

/-- The id is that of a folder of the title in the root folder. -/
def Drive.Lodges (drive : Drive) (root title : String) (id : Json) : Prop :=
  ∃ folder ∈ drive.folders title (some root), id = .string folder.id

namespace Session

/-- No file that there was is gone. -/
structure Grows (s t : Session) : Prop where
  faults : t.schedule.faults = s.schedule.faults
  files : s.drive.files ⊆ t.drive.files

variable {s t u : Session}

theorem Grows.refl (s : Session) : s.Grows s := ⟨rfl, List.Subset.refl _⟩

theorem Grows.trans (h : s.Grows t) (k : t.Grows u) : s.Grows u :=
  ⟨k.faults.trans h.faults, List.Subset.trans h.files k.files⟩

theorem Grows.lodges (h : s.Grows t) {root title : String} {id : Json}
    (lodged : s.drive.Lodges root title id) : t.drive.Lodges root title id := by
  obtain ⟨folder, member, same⟩ := lodged
  obtain ⟨there, sought⟩ := Drive.mem_folders.mp member
  exact ⟨folder, Drive.mem_folders.mpr ⟨h.files there, sought⟩, same⟩

theorem SameState.grows (h : s.SameState t) : s.Grows t :=
  ⟨h.faults, by rw [h.drive]; exact List.Subset.refl _⟩

theorem Observed.grows (h : s.Observed t) : s.Grows t :=
  ⟨h.faults, by rw [h.drive]; exact List.Subset.refl _⟩

end Session

section
variable {s : Session}

theorem Session.Gains.grows {t : Session} {new : List StoredFile} (h : s.Gains new t) :
    s.Grows t := ⟨h.faults, h.drive ▸ List.subset_append_left _ _⟩

namespace Repository

/-- Making the root folder records its id, or nothing. -/
theorem createRoot_roots (raising : s.schedule.Raising) :
    createRoot.Ends s fun _ t => s.Grows t ∧
      (t.layout = s.layout ∨ ∃ root, t.layout = s.layout.rooted root) := by
  by_cases named : s.layout.segments = []
  · have path : (FolderPath.segments s.layout.rootPath).isEmpty = true := List.isEmpty_iff.mpr named
    rw [createRoot, ends_layout_bind, Folders.makePath, if_pos path]
    exact ⟨.refl s, .inl rfl⟩
  · apply (createRoot_builds raising named).mono
    rintro outcome t ⟨_, _, gains, ended⟩
    refine ⟨gains.grows, ?_⟩
    cases outcome with
    | ok => exact .inr ⟨_, ended.2.2.trans (if_neg named)⟩
    | error => exact .inl ended.2

/-- The ids of the category folders that were recorded are those of folders in the root folder. -/
theorem Ranged.furnishes {slots : List Slot} {outcome : Except Failure Unit} {t : Session}
    (h : Ranged slots s outcome t) : s.Grows t ∧ ∃ ids rest, slots = ids.map Prod.fst ++ rest ∧
      t.layout = s.layout.fill ids ∧ (∀ pair ∈ ids, ∀ root, s.layout.rootId = .string root →
        t.drive.Lodges root pair.1.title pair.2) ∧
      match outcome with
      | .ok () => rest = []
      | .error _ => rest ≠ [] := by
  obtain ⟨made, told, root, first, part, _, inside, gains, layout, ended⟩ := h
  obtain ⟨rest, split⟩ := part.trans first
  refine ⟨gains.grows, Slot.issued s.drive.created told, rest, ?_, layout, ?_, ?_⟩
  · rw [Slot.map_fst_issued, split]
  · intro pair member other rooted
    have among := (Slot.issued_prefix s.drive.created part).subset member
    have some : made ≠ [] := by
      rintro rfl
      cases among
    obtain rfl := Json.string.inj ((inside some).symm.trans rooted)
    obtain ⟨folder, there, sought, same⟩ := exists_of_mem_issued among root
    refine ⟨folder, Drive.mem_folders.mpr ⟨?_, sought⟩, same⟩
    rw [gains.drive]
    exact List.mem_append_right _ there
  · have lengths := congrArg List.length split
    rw [List.length_append] at lengths
    cases outcome with
    | ok => exact List.length_eq_zero_iff.mp (by rw [ended.1] at lengths; omega)
    | error =>
      rintro rfl
      have short := ended.1
      simp at lengths
      omega

theorem createSlots_furnishes (raising : s.schedule.Raising) (known : s.layout.rootId ≠ .null) :
    createSlots.Ends s fun outcome t => s.Grows t ∧ ∃ ids rest,
      Slot.all = ids.map Prod.fst ++ rest ∧ (∀ pair ∈ ids, ∀ root, s.layout.rootId = .string root →
        t.drive.Lodges root pair.1.title pair.2) ∧
      match outcome with
      | .ok () => rest = [] ∧ t.layout = { s.layout.fill ids with complete := true }
      | .error _ => rest ≠ [] ∧ t.layout = s.layout.fill ids := by
  rw [createSlots]
  refine (forM_createSlot_ranges raising known Slot.all).bind ?_ ?_
  · intro _ t ranged
    obtain ⟨grows, ids, rest, split, layout, lodged, none⟩ := ranged.furnishes
    rw [ends_layout_bind, layout]
    exact ⟨⟨grows.faults, grows.files⟩, ids, rest, split, lodged, none, rfl⟩
  · intro failure t ranged
    obtain ⟨grows, ids, rest, split, layout, lodged, more⟩ := ranged.furnishes
    exact ⟨grows, ids, rest, split, lodged, more, layout⟩

/-- The layout after the root folder was looked for and, if it was not found, made: it is as it was,
or it was not complete and its folders were recorded, or it has got the id of a new root folder. -/
inductive Founded (drive : Drive) (layout : Layout) : Layout → Prop
  | kept : Founded drive layout layout
  | recorded {root : String} {after : Layout} (incomplete : layout.complete = false)
      (recorded : Recorded drive root layout after) : Founded drive layout after
  | made (root : String) : Founded drive layout (layout.rooted root)

theorem attach_completes (raising : s.schedule.Raising) (root : String) :
    (attach (.string root)).Ends s fun outcome t =>
      outcome = .ok () ∨ t.layout.complete = s.layout.complete := by
  rw [attach, ends_layout_bind]
  split
  · rw [ends_layout_bind, setLayout, ends_modify_bind]
    let rooted : Session := { s with layout := s.layout.rooted root }
    have discovers := @discover_ends rooted raising root rfl
    refine discovers.handleIf (fun _ _ _ => .inl rfl) ?_ ?_
    · exact fun failure t _ _ => Ends.log fun journal => .inl rfl
    · intro failure t _ discovered
      obtain ⟨_, _, same⟩ | ⟨ended, _⟩ := discovered.layout
      · exact .inr (by rw [same]; rfl)
      · cases ended
  · exact ends_pure.mpr (.inl rfl)

/-- A probe that says no completes no layout. -/
theorem targetExists_completes (raising : s.schedule.Raising) :
    targetExists.Ends s fun outcome t =>
      outcome = .ok true ∨ t.layout.complete = s.layout.complete := by
  refine Ends.onAnyError (P := fun outcome t => outcome = .ok true ∨
    t.layout.complete = s.layout.complete) ?_ (fun _ _ h => h) ?_ fun _ h => h
  · rw [ends_layout_bind, Folders.follow]
    refine (Folders.followFrom_ends raising none s.layout.segments).bind ?_ ?_
    · rintro value t ⟨browsed, followed⟩
      obtain rfl | ⟨id, rfl, _⟩ := followed.sound value rfl
      · exact Ends.log_bind fun journal => ends_pure.mpr (.inr (by rw [browsed.layout]))
      · refine (attach_completes (browsed.raising raising) id).bind ?_ ?_
        · exact fun _ u _ => Ends.log_bind fun journal => ends_pure.mpr (.inl rfl)
        · intro failure u attached
          obtain ended | same := attached
          · cases ended
          · exact .inr (same.trans (by rw [browsed.layout]))
    · rintro failure t ⟨browsed, _⟩
      exact .inr (by rw [browsed.layout])
  · intro failure t h
    obtain ended | same := h
    · cases ended
    · exact Ends.log_bind fun journal => ends_pure.mpr (.inr same)

theorem Probed.founded {t : Session} {positive : Bool} (h : Probed s positive t) :
    Founded s.drive s.layout t.layout := by
  obtain same | ⟨incomplete, root, _, recorded⟩ := h.layout
  · exact same ▸ .kept
  · exact .recorded incomplete recorded

theorem ensureRoot_founds (raising : s.schedule.Raising) (wanted : Bool) :
    (ensureRoot wanted).Ends s fun _ t => s.Grows t ∧ Founded s.drive s.layout t.layout := by
  rw [ensureRoot]
  refine ((targetExists_ends raising).and (targetExists_completes raising)).bind ?_ ?_
  · rintro positive t ⟨⟨_, told, probed⟩, completes⟩
    obtain rfl := Except.ok.inj told
    have grows := probed.toObserved.grows
    split
    · rename_i wanting
      refine (createRoot_roots (raising.of_faults probed.faults)).mono ?_
      rintro outcome u ⟨grows', same | ⟨root, rooted⟩⟩
      · exact ⟨grows.trans grows', same ▸ probed.founded⟩
      · refine ⟨grows.trans grows', ?_⟩
        have before : t.layout = s.layout ∨ ∃ first, t.layout = s.layout.rooted first := by
          obtain same | ⟨incomplete, first, _, recorded⟩ := probed.layout
          · exact .inl same
          · have no : positive = false := by simpa using (Bool.and_eq_true_iff.mp wanting).1
            have still : t.layout.complete = false := by
              rw [← incomplete]
              exact completes.resolve_left (by simp [no])
            generalize t.layout = after at recorded still
            cases recorded with
            | rootOnly => exact .inr ⟨first, rfl⟩
            | all => cases still
        have rerooted : u.layout = s.layout.rooted root := by
          obtain same | ⟨first, same⟩ := before
          · rw [rooted, same]
          · rw [rooted, same]
            rfl
        exact rerooted ▸ .made root
    · exact ends_pure.mpr ⟨grows, probed.founded⟩
  · rintro failure t ⟨⟨_, told, _⟩, _⟩
    cases told

structure Prepared (s : Session) (outcome : Except Failure Unit) (t : Session) : Prop where
  grows : s.Grows t
  layout : ∃ base ids rest, Founded s.drive s.layout base ∧ Slot.all = ids.map Prod.fst ++ rest ∧
    (∀ pair ∈ ids, ∀ root, base.rootId = .string root →
      t.drive.Lodges root pair.1.title pair.2) ∧
    match outcome with
    | .ok () => rest = [] ∧ base.rootId.isNothing = false ∧
        t.layout = { base.fill ids with complete := true }
    | .error _ => rest ≠ [] ∧ t.layout = base.fill ids

theorem Prepared.failed {t : Session} {base : Layout} {failure : Failure} (grows : s.Grows t)
    (founded : Founded s.drive s.layout base) (same : t.layout = base) :
    Prepared s (.error failure) t :=
  ⟨grows, base, [], Slot.all, founded, rfl, by simp, by decide, same⟩

theorem prepare_founds (raising : s.schedule.Raising) (wanted : Bool) :
    (prepare wanted).Ends s (Prepared s) := by
  apply prepare_ends
  · refine (connect_ends s).bind ?_ ?_
    · rintro ⟨⟩ t ⟨browsed, _⟩
      have opened : s.Grows t := browsed.toSameState.grows
      have raising := browsed.raising raising
      refine (ensureRoot_founds raising wanted).bind ?_ ?_
      · rintro ⟨⟩ u ⟨grows, founded⟩
        rw [browsed.drive, browsed.layout] at founded
        have raising := raising.of_faults grows.faults
        refine (requireRoot_ends u).bind ?_ ?_
        · rintro ⟨⟩ v ⟨rfl, required⟩
          have known := ne_null_of_known (required.mp rfl)
          apply (createSlots_furnishes raising known).mono
          rintro outcome w ⟨grows', ids, rest, split, lodged, filled⟩
          refine ⟨opened.trans (grows.trans grows'), v.layout, ids, rest, founded, split, lodged, ?_⟩
          cases outcome with
          | ok => exact ⟨filled.1, required.mp rfl, filled.2⟩
          | error => exact filled
        · rintro failure v ⟨rfl, _⟩
          exact .failed (opened.trans grows) founded rfl
      · rintro failure u ⟨grows, founded⟩
        rw [browsed.drive, browsed.layout] at founded
        exact .failed (opened.trans grows) founded rfl
    · rintro failure t ⟨browsed, _⟩
      exact .failed browsed.toSameState.grows .kept browsed.layout
  · rintro failure t journal ⟨grows, founded⟩
    exact ⟨⟨grows.faults, grows.files⟩, founded⟩

end Repository
end
end DriveDepot
