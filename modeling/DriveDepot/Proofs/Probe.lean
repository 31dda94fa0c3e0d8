import DriveDepot.Proofs.Browsing
import DriveDepot.Proofs.Terminates

namespace DriveDepot

namespace Layout

/-- The titles of the root path. -/
def segments (layout : Layout) : List String := FolderPath.segments layout.rootPath

/-- The layout with the id of the root folder. -/
def rooted (layout : Layout) (root : String) : Layout := { layout with rootId := .string root }

/-- The layout with the ids of some category folders. -/
def fill (layout : Layout) (ids : List (Slot × Json)) : Layout :=
  ids.foldl (fun layout (slot, id) => layout.setSlot slot id) layout

theorem fill_cons (layout : Layout) (slot : Slot) (id : Json) (rest : List (Slot × Json)) :
    layout.fill ((slot, id) :: rest) = (layout.setSlot slot id).fill rest := rfl

@[simp] theorem rootId_setSlot (layout : Layout) (slot : Slot) (id : Json) :
    (layout.setSlot slot id).rootId = layout.rootId := by cases slot <;> rfl

@[simp] theorem rootPath_setSlot (layout : Layout) (slot : Slot) (id : Json) :
    (layout.setSlot slot id).rootPath = layout.rootPath := by cases slot <;> rfl

@[simp] theorem rootId_fill (layout : Layout) (ids : List (Slot × Json)) :
    (layout.fill ids).rootId = layout.rootId := by
  induction ids generalizing layout with
  | nil => rfl
  | cons pair rest ih => rw [fill_cons, ih, rootId_setSlot]

@[simp] theorem rootPath_fill (layout : Layout) (ids : List (Slot × Json)) :
    (layout.fill ids).rootPath = layout.rootPath := by
  induction ids generalizing layout with
  | nil => rfl
  | cons pair rest ih => rw [fill_cons, ih, rootPath_setSlot]

theorem slotId_fill_of_not_mem {layout : Layout} {ids : List (Slot × Json)} {slot : Slot}
    (absent : slot ∉ ids.map Prod.fst) : (layout.fill ids).slotId slot = layout.slotId slot := by
  induction ids generalizing layout with
  | nil => rfl
  | cons pair rest ih =>
    obtain ⟨other, later⟩ := not_or.mp fun member => absent (List.mem_cons.mpr member)
    rw [fill_cons, ih later, slotId_setSlot_of_ne _ other]

/-- The id of a slot that was filled is one of those that it was filled with. -/
theorem exists_of_slotId_fill (layout : Layout) {ids : List (Slot × Json)} {slot : Slot}
    (member : slot ∈ ids.map Prod.fst) :
    ∃ pair ∈ ids, pair.1 = slot ∧ (layout.fill ids).slotId slot = pair.2 := by
  induction ids generalizing layout with
  | nil => cases member
  | cons pair rest ih =>
    by_cases again : slot ∈ rest.map Prod.fst
    · obtain ⟨later, there, same, filled⟩ := @ih (layout.setSlot pair.1 pair.2) again
      exact ⟨later, List.mem_cons_of_mem _ there, same, filled⟩
    · obtain rfl := (List.mem_cons.mp member).resolve_right again
      refine ⟨pair, List.mem_cons_self, rfl, ?_⟩
      rw [fill_cons, slotId_fill_of_not_mem again, slotId_setSlot]

end Layout

namespace Drive

/-- The ids of the category folders inside a root folder, if each is the only one of its title. -/
def slotIds (drive : Drive) (root : String) (slots : List Slot) : Option (List (Slot × Json)) :=
  slots.mapM fun slot => match drive.lookup slot.title (some root) with
    | .found id => some (slot, .string id)
    | _ => none

section
variable {drive : Drive} {root : String} {slot : Slot}

theorem slotIds_cons_of_found {id : String}
    (found : drive.lookup slot.title (some root) = .found id) (rest : List Slot) :
    drive.slotIds root (slot :: rest) =
      (drive.slotIds root rest).map ((slot, .string id) :: ·) := by
  rw [slotIds, List.mapM_cons, found, ← slotIds]
  cases drive.slotIds root rest <;> rfl

theorem slotIds_cons_of_ended (ended : ∀ id, drive.lookup slot.title (some root) ≠ .found id)
    (rest : List Slot) : drive.slotIds root (slot :: rest) = none := by
  rw [slotIds, List.mapM_cons]
  split
  · rename_i found
    exact absurd found (ended _)
  · rfl

end

/-- The ids that are found are those of folders in the root folder. -/
theorem exists_of_slotIds {drive : Drive} {root : String} {slots : List Slot}
    {ids : List (Slot × Json)} (found : drive.slotIds root slots = some ids) :
    ids.map Prod.fst = slots ∧ ∀ pair ∈ ids,
      ∃ folder ∈ drive.folders pair.1.title (some root), pair.2 = .string folder.id := by
  induction slots generalizing ids with
  | nil =>
    obtain rfl := Option.some.inj found
    exact ⟨rfl, by simp⟩
  | cons slot rest ih =>
    cases first : drive.lookup slot.title (some root) with
    | found id =>
      rw [slotIds_cons_of_found first] at found
      obtain ⟨others, later, rfl⟩ := Option.map_eq_some_iff.mp found
      obtain ⟨every, lodged⟩ := ih later
      refine ⟨by rw [List.map_cons, every], ?_⟩
      obtain ⟨folder, member, rfl⟩ := exists_of_lookup first
      rintro pair (_ | ⟨_, later⟩)
      · exact ⟨folder, member, rfl⟩
      · exact lodged pair later
    | missing | several | refused =>
      rw [slotIds_cons_of_ended (by simp [first])] at found
      cases found

/-- The layout after the category folders inside a root folder were looked for. -/
def discover (drive : Drive) (root : String) (layout : Layout) : Layout :=
  match drive.slotIds root Slot.all with
  | some ids => { layout.fill ids with complete := true }
  | none => layout

/-- The layout after its folders were looked for. -/
def attach (drive : Drive) (layout : Layout) : Layout :=
  match drive.trail none layout.segments with
  | .found root =>
    if layout.complete then layout
    else drive.discover root (layout.rooted root)
  | _ => layout

theorem attach_of_ended {drive : Drive} {layout : Layout}
    (ended : ∀ id, drive.trail none layout.segments ≠ .found id) :
    drive.attach layout = layout := by
  rw [attach]
  split
  · rename_i found
    exact absurd found (ended _)
  · rfl

end Drive

namespace Session

structure Observed (s t : Session) : Prop where
  drive : t.drive = s.drive
  faults : t.schedule.faults = s.schedule.faults
  foldersAsked : t.foldersAsked = s.foldersAsked

section
variable {s t u : Session}

theorem Browsed.observed (h : s.Browsed t) : s.Observed t := ⟨h.drive, h.faults, h.foldersAsked⟩

theorem Observed.trans (h : s.Observed t) (k : t.Observed u) : s.Observed u :=
  ⟨k.drive.trans h.drive, k.faults.trans h.faults, k.foldersAsked.trans h.foldersAsked⟩

theorem Observed.relaid (h : s.Observed t) (layout : Layout) :
    s.Observed { t with layout := layout } := ⟨h.drive, h.faults, h.foldersAsked⟩

end

end Session

namespace Repository

open Operation

inductive SlotsFound (root : String) (slots : List Slot) (s : Session) :
    Except Failure (List (Slot × Json)) → Prop
  | all {ids : List (Slot × Json)} (found : s.drive.slotIds root slots = some ids) :
      SlotsFound root slots s (.ok ids)
  | failed {failure : Failure} (ended : s.schedule.Spares .list →
      s.drive.slotIds root slots = none ∧ failure.isStorage = true) :
      SlotsFound root slots s (.error failure)

theorem lookupSlots_ends {s : Session} (raising : s.schedule.Raising) (root : String)
    (slots : List Slot) :
    (slots.mapM fun slot => do
      return (slot, ← Folders.only slot.title (.string root)) : Operation _).Ends s
      fun outcome t => s.Browsed t ∧ SlotsFound root slots s outcome := by
  induction slots generalizing s with
  | nil => exact ends_pure.mpr ⟨.refl s, .all rfl⟩
  | cons slot rest ih =>
    rw [List.mapM_cons, bind_assoc]
    refine (Folders.only_ends raising slot.title (some root)).bind ?_ ?_
    · rintro id t ⟨browsed, found⟩
      cases found with
      | single first =>
        have split := Drive.slotIds_cons_of_found first rest
        rw [← browsed.drive] at split
        rw [pure_bind]
        refine (ih (browsed.raising raising)).bind ?_ ?_
        · rintro ids u ⟨browsed', others⟩
          refine ends_pure.mpr ⟨browsed.trans browsed', .all ?_⟩
          cases others with
          | all later =>
            rw [← browsed.drive, split, later]
            rfl
        · rintro failure u ⟨browsed', others⟩
          refine ⟨browsed.trans browsed', .failed fun spared => ?_⟩
          cases others with
          | failed ended =>
            obtain ⟨later, storage⟩ := ended (browsed.spares spared)
            exact ⟨by rw [← browsed.drive, split, later]; rfl, storage⟩
    · rintro failure t ⟨browsed, found⟩
      refine ⟨browsed, .failed fun spared => ?_⟩
      cases found with
      | failed ended =>
        obtain ⟨missing, storage⟩ := ended spared
        exact ⟨Drive.slotIds_cons_of_ended missing rest, storage⟩

/-- What recording the category folders comes to: all of them are recorded, or none. -/
structure Discovered (root : String) (s : Session) (outcome : Except Failure Unit) (t : Session) :
    Prop extends s.Observed t where
  layout : (∃ failure, outcome = .error failure ∧ t.layout = s.layout) ∨
    outcome = .ok () ∧ ∃ ids, s.drive.slotIds root Slot.all = some ids ∧
      t.layout = { s.layout.fill ids with complete := true }
  spared : s.schedule.Spares .list → t.layout = s.drive.discover root s.layout ∧
    ∀ failure, outcome = .error failure → failure.isStorage = true

theorem discover_ends {s : Session} (raising : s.schedule.Raising) {root : String}
    (rooted : s.layout.rootId = .string root) : discover.Ends s (Discovered root s) := by
  rw [discover, ends_layout_bind, lookupSlots, rooted]
  refine (lookupSlots_ends raising root Slot.all).bind ?_ ?_
  · rintro ids t ⟨browsed, found⟩
    rw [ends_layout_bind, browsed.layout]
    cases found with
    | all all =>
      refine ⟨browsed.observed.relaid _, .inr ⟨rfl, ids, all, rfl⟩, fun _ => ⟨?_, nofun⟩⟩
      rw [Drive.discover, all]
      rfl
  · rintro failure t ⟨browsed, found⟩
    refine ⟨browsed.observed, .inl ⟨failure, rfl, browsed.layout⟩, fun spared => ?_⟩
    cases found with
    | failed ended =>
      obtain ⟨missing, storage⟩ := ended spared
      rw [Drive.discover, missing]
      refine ⟨browsed.layout, ?_⟩
      rintro _ ⟨⟩
      exact storage

/-- What an incomplete layout becomes where its folders are recorded: it gets the root folder, and
the category folders as well if all of them were found. -/
inductive Recorded (drive : Drive) (root : String) (layout : Layout) : Layout → Prop
  | rootOnly : Recorded drive root layout (layout.rooted root)
  | all {ids : List (Slot × Json)} (found : drive.slotIds root Slot.all = some ids) :
      Recorded drive root layout { (layout.rooted root).fill ids with complete := true }

theorem Recorded.rootId {drive : Drive} {root : String} {layout after : Layout}
    (h : Recorded drive root layout after) : after.rootId = .string root := by
  cases h with
  | rootOnly => rfl
  | all => exact (layout.rooted root).rootId_fill _

theorem Recorded.rootPath {drive : Drive} {root : String} {layout after : Layout}
    (h : Recorded drive root layout after) : after.rootPath = layout.rootPath := by
  cases h with
  | rootOnly => rfl
  | all => exact (layout.rooted root).rootPath_fill _

structure Attached (root : String) (s : Session) (outcome : Except Failure Unit) (t : Session) :
    Prop extends s.Observed t where
  layout : if s.layout.complete then t.layout = s.layout
    else Recorded s.drive root s.layout t.layout
  spared : s.schedule.Spares .list → s.drive.trail none s.layout.segments = .found root →
    outcome = .ok () ∧ t.layout = s.drive.attach s.layout

theorem Attached.journal {root : String} {s t : Session} {outcome : Except Failure Unit}
    (h : Attached root s outcome t) (journal : List Record) :
    Attached root s outcome { t with journal := journal } :=
  ⟨⟨h.drive, h.faults, h.foldersAsked⟩, h.layout, h.spared⟩

theorem attach_ends {s : Session} (raising : s.schedule.Raising) (root : String) :
    (attach (.string root)).Ends s (Attached root s) := by
  rw [attach, ends_layout_bind]
  cases complete : s.layout.complete with
  | true =>
    refine ends_pure.mpr ⟨⟨rfl, rfl, rfl⟩, by rw [if_pos complete], fun _ found => ⟨rfl, ?_⟩⟩
    simp only [Drive.attach, found, complete, ↓reduceIte]
  | false =>
    let rooted : Session := { s with layout := s.layout.rooted root }
    have attached {outcome : Except Failure Unit} {t : Session}
        (h : Discovered root rooted outcome t) (result : Except Failure Unit)
        (told : s.schedule.Spares .list → result = .ok ()) : Attached root s result t := by
      refine ⟨⟨h.drive, h.faults, h.foldersAsked⟩, ?_, fun spared found => ?_⟩
      · rw [if_neg (by simp [complete])]
        obtain ⟨_, _, same⟩ | ⟨_, ids, found, filled⟩ := h.layout
        · rw [same]
          exact .rootOnly
        · rw [filled]
          exact .all found
      · simp only [Drive.attach, found, complete, Bool.false_eq_true, ↓reduceIte]
        rw [(h.spared spared).1]
        simp only [rooted, told spared, and_self]
    simp only [Bool.not_false, ↓reduceIte]
    rw [ends_layout_bind, setLayout, ends_modify_bind]
    have faulty : rooted.schedule.Raising := raising
    have known : rooted.layout.rootId = .string root := rfl
    refine (discover_ends faulty known).handleIf ?_ ?_ ?_
    · exact fun _ t h => attached h _ fun _ => rfl
    · intro failure t _ h
      exact Ends.log fun journal => (attached h _ fun _ => rfl).journal journal
    · intro failure t other h
      refine attached h _ fun spared => ?_
      cases ((h.spared spared).2 failure rfl).symm.trans other

structure Probed (s : Session) (positive : Bool) (t : Session) : Prop extends s.Observed t where
  layout : t.layout = s.layout ∨ s.layout.complete = false ∧
    ∃ root, s.drive.trail none s.layout.segments = .found root ∧
      Recorded s.drive root s.layout t.layout
  sound : positive = true → ∃ id, s.drive.trail none s.layout.segments = .found id ∧
    t.layout.rootId = if s.layout.complete then s.layout.rootId else .string id
  spared : s.schedule.Spares .list → t.layout = s.drive.attach s.layout ∧
    (positive = true ↔ ∃ id, s.drive.trail none s.layout.segments = .found id)

theorem Probed.rootPath {s t : Session} {positive : Bool} (h : Probed s positive t) :
    t.layout.rootPath = s.layout.rootPath := by
  obtain same | ⟨_, root, _, recorded⟩ := h.layout
  · rw [same]
  · exact recorded.rootPath

theorem Probed.journal {s t : Session} {positive : Bool} (h : Probed s positive t)
    (journal : List Record) : Probed s positive { t with journal := journal } :=
  ⟨⟨h.drive, h.faults, h.foldersAsked⟩, h.layout, h.sound, h.spared⟩

/-- The walk ended before a folder was found. -/
theorem Probed.ended {s t : Session} (browsed : s.Browsed t)
    (ended : s.schedule.Spares .list → ∀ id, s.drive.trail none s.layout.segments ≠ .found id) :
    Probed s false t := by
  refine ⟨browsed.observed, .inl browsed.layout, nofun, fun spared => ⟨?_, ?_⟩⟩
  · rw [browsed.layout, Drive.attach_of_ended (ended spared)]
  · exact iff_of_false nofun fun ⟨id, found⟩ => ended spared id found

/-- The walk led to the root folder. -/
theorem Probed.attached {s t u : Session} {root : String} {outcome : Except Failure Unit}
    (browsed : s.Browsed t) (found : s.drive.trail none s.layout.segments = .found root)
    (attached : Attached root t outcome u) : Probed s (outcome matches .ok _) u := by
  obtain ⟨observed, layout, spared⟩ := attached
  rw [browsed.layout, browsed.drive] at layout spared
  refine ⟨browsed.observed.trans observed, ?_, fun _ => ⟨root, found, ?_⟩, fun spared' => ?_⟩
  · split at layout
    · exact .inl layout
    · exact .inr ⟨by simpa using ‹¬ s.layout.complete = true›, root, found, layout⟩
  · split at layout
    · rename_i complete
      rw [layout, if_pos complete]
    · rename_i incomplete
      rw [layout.rootId, if_neg incomplete]
  · obtain ⟨rfl, recorded⟩ := spared (browsed.spares spared') found
    exact ⟨recorded, iff_of_true rfl ⟨root, found⟩⟩

/-- The probe never fails. -/
theorem targetExists_ends {s : Session} (raising : s.schedule.Raising) :
    targetExists.Ends s fun outcome t =>
      ∃ positive, outcome = .ok positive ∧ Probed s positive t := by
  let P (outcome : Except Failure Bool) (t : Session) : Prop :=
    match outcome with
    | .ok positive => Probed s positive t
    | .error _ => Probed s false t
  have probed : targetExists.Ends s P := by
    refine Ends.onAnyError (P := P) ?_ (fun _ _ h => h) ?_ fun _ h => h
    · rw [ends_layout_bind, Folders.follow]
      refine (Folders.followFrom_ends raising none s.layout.segments).bind ?_ ?_
      · rintro value t ⟨browsed, followed⟩
        obtain rfl | ⟨id, rfl, found⟩ := followed.sound value rfl
        · refine Ends.log_bind fun journal => ends_pure.mpr ?_
          refine Probed.ended (browsed.trans (.journal t journal)) fun spared id found => ?_
          cases followed.found spared id found
        · refine (attach_ends (browsed.raising raising) id).bind ?_ ?_
          · exact fun _ u attached => Ends.log_bind fun journal =>
              ends_pure.mpr ((Probed.attached browsed found attached).journal journal)
          · exact fun failure u attached => Probed.attached browsed found attached
      · rintro failure t ⟨browsed, followed⟩
        refine Probed.ended browsed fun spared id found => ?_
        cases followed.found spared id found
    · exact fun failure t probed => Ends.log_bind fun journal => probed.journal journal
  apply (probed.and (succeeds_targetExists s)).mono
  rintro _ t ⟨probed, positive, rfl⟩
  exact ⟨positive, rfl, probed⟩

/-- Without faults the probe says what the drive says. -/
theorem targetExists_calm {s : Session} (calm : s.schedule.Calm) :
    targetExists.Ends s fun outcome t => t.layout = s.drive.attach s.layout ∧
      (outcome = .ok true ↔ ∃ id, s.drive.trail none s.layout.segments = .found id) := by
  apply (targetExists_ends calm.raising).mono
  rintro _ t ⟨positive, rfl, probed⟩
  rw [Except.ok.injEq]
  exact probed.spared (calm.spares _)

end Repository

end DriveDepot
