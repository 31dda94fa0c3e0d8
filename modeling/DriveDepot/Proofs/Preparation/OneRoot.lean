import DriveDepot.Proofs.Preparation.Furnishing

/-!
The root folder of a layout. A preparation records a new root folder before it makes the category
folders in it, one after the other, and a layout that was complete is called so all the while. So
only a preparation that gives a complete layout another root folder and then fails leaves category
folders of two root folders side by side. The next one that succeeds sets that right.
-/

namespace DriveDepot

open Operation

namespace Layout

/-- The category ids are those of folders which one of the drives had in the root folder. -/
def Coherent (layout : Layout) (drives : List Drive) : Prop :=
  ∃ root, layout.rootId = .string root ∧
    ∀ slot, ∃ drive ∈ drives, drive.Lodges root slot.title (layout.slotId slot)

variable {layout : Layout}

@[simp] theorem complete_fill (ids : List (Slot × Json)) :
    (layout.fill ids).complete = layout.complete := by
  induction ids generalizing layout with
  | nil => rfl
  | cons pair rest ih => rw [fill_cons, ih, complete_setSlot]

end Layout

namespace Layout.Coherent

variable {layout : Layout} {drives : List Drive} {drive : Drive}

theorem mono (h : layout.Coherent drives) (drive : Drive) : layout.Coherent (drive :: drives) := by
  obtain ⟨root, rooted, lodged⟩ := h
  refine ⟨root, rooted, fun slot => ?_⟩
  obtain ⟨old, member, lodges⟩ := lodged slot
  exact ⟨old, List.mem_cons_of_mem _ member, lodges⟩

/-- Folders that lie in the root folder take the place of others that do. -/
theorem fill (h : layout.Coherent drives) {ids : List (Slot × Json)}
    (lodged : ∀ pair ∈ ids, ∀ root, layout.rootId = .string root →
      drive.Lodges root pair.1.title pair.2) :
    (layout.fill ids).Coherent (drive :: drives) := by
  obtain ⟨root, rooted, old⟩ := h
  refine ⟨root, (layout.rootId_fill ids).trans rooted, fun slot => ?_⟩
  by_cases filled : slot ∈ ids.map Prod.fst
  · obtain ⟨pair, member, rfl, same⟩ := exists_of_slotId_fill layout filled
    exact ⟨drive, List.mem_cons_self, same ▸ lodged pair member root rooted⟩
  · obtain ⟨before, member, lodges⟩ := old slot
    refine ⟨before, List.mem_cons_of_mem _ member, ?_⟩
    rw [slotId_fill_of_not_mem filled]
    exact lodges

/-- All category folders lie in the root folder of one drive. -/
theorem of_all {ids : List (Slot × Json)} (every : ids.map Prod.fst = Slot.all) {root : String}
    (rooted : layout.rootId = .string root)
    (lodged : ∀ pair ∈ ids, drive.Lodges root pair.1.title pair.2) (complete : Bool) :
    Coherent { layout.fill ids with complete := complete } [drive] := by
  refine ⟨root, (layout.rootId_fill ids).trans rooted, fun slot => ?_⟩
  obtain ⟨pair, member, rfl, same⟩ :=
    exists_of_slotId_fill layout (every ▸ slot.mem_all)
  refine ⟨drive, List.mem_cons_self, ?_⟩
  have lodges := lodged pair member
  rw [← same] at lodges
  exact lodges

theorem of_mem (h : layout.Coherent [drive]) (member : drive ∈ drives) :
    layout.Coherent drives := by
  obtain ⟨root, rooted, lodged⟩ := h
  refine ⟨root, rooted, fun slot => ?_⟩
  obtain ⟨there, only, lodges⟩ := lodged slot
  exact ⟨drive, member, List.mem_singleton.mp only ▸ lodges⟩

end Layout.Coherent

namespace Repository

theorem Recorded.coherent {drive : Drive} {root : String} {layout after : Layout}
    (recorded : Recorded drive root layout after) (incomplete : layout.complete = false)
    (complete : after.complete = true) : after.Coherent [drive] := by
  cases recorded with
  | rootOnly => cases incomplete.symm.trans complete
  | all found =>
    obtain ⟨every, lodged⟩ := Drive.exists_of_slotIds found
    exact .of_all every rfl lodged true

/-- A preparation that succeeds has made all category folders in one root folder. -/
theorem Prepared.coherent {s t : Session} (h : Prepared s (.ok ()) t)
    (named : s.layout.rootId = .null ∨ ∃ root, s.layout.rootId = .string root) :
    t.layout.Coherent [t.drive] := by
  obtain ⟨base, ids, _, founded, split, lodged, rfl, some_root, layout⟩ := h.layout
  have named' : base.rootId = .null ∨ ∃ root, base.rootId = .string root := by
    cases founded with
    | kept => exact named
    | recorded _ recorded => exact .inr ⟨_, recorded.rootId⟩
    | made root => exact .inr ⟨root, rfl⟩
  obtain unknown | ⟨root, rooted⟩ := named'
  · rw [unknown] at some_root
    cases some_root
  · rw [layout]
    refine .of_all ?_ rooted (fun pair member => lodged pair member root rooted) true
    rw [split, List.append_nil]

/-- A preparation that fails leaves a complete layout coherent, unless it gave it another root
folder. -/
theorem Prepared.coherent_of_failed {s t : Session} {failure : Failure} {drives : List Drive}
    (h : Prepared s (.error failure) t) (met : s.drive ∈ drives)
    (before : s.layout.complete = true → s.layout.Coherent drives)
    (same : s.layout.complete = true → s.layout.rootId.text? = t.layout.rootId.text?)
    (complete : t.layout.complete = true) : t.layout.Coherent (t.drive :: drives) := by
  obtain ⟨base, ids, _, founded, _, lodged, _, layout⟩ := h.layout
  rw [layout, Layout.complete_fill] at complete
  rw [layout, Layout.rootId_fill] at same
  rw [layout]
  refine Layout.Coherent.fill ?_ lodged
  cases founded with
  | kept => exact before complete
  | recorded incomplete recorded => exact (recorded.coherent incomplete complete).of_mem met
  | made root =>
    obtain ⟨old, rooted, lodged'⟩ := before complete
    have same := same complete
    rw [rooted] at same
    exact ⟨old, congrArg Json.string (Option.some.inj same).symm, lodged'⟩

/-- What a failed preparation leaves that has given a complete layout another root folder: the
layout is called complete, and some of its category folders are those that it had before. -/
theorem Prepared.mixed {s t : Session} {failure : Failure} (h : Prepared s (.error failure) t)
    (complete : s.layout.complete = true)
    (moved : s.layout.rootId.text? ≠ t.layout.rootId.text?) :
    ∃ root made rest, Slot.all = made ++ rest ∧ rest ≠ [] ∧ t.layout.complete = true ∧
      t.layout.rootId = .string root ∧ s.layout.rootId ≠ .string root ∧
      (∀ slot ∈ made, t.drive.Lodges root slot.title (t.layout.slotId slot)) ∧
      ∀ slot ∈ rest, t.layout.slotId slot = s.layout.slotId slot := by
  obtain ⟨base, ids, rest, founded, split, lodged, some_left, layout⟩ := h.layout
  rw [layout, Layout.rootId_fill] at moved
  cases founded with
  | kept => exact absurd rfl moved
  | recorded incomplete => cases complete.symm.trans incomplete
  | made root =>
    have apart : ∀ slot ∈ rest, slot ∉ ids.map Prod.fst := by
      have distinct : Slot.all.Nodup := by decide
      rw [split, List.nodup_append] at distinct
      exact fun slot left made => distinct.2.2 slot made slot left rfl
    refine ⟨root, ids.map Prod.fst, rest, split, some_left, ?_, ?_, ?_, ?_, ?_⟩
    · rw [layout, Layout.complete_fill]
      exact complete
    · rw [layout, Layout.rootId_fill]
      rfl
    · intro same
      rw [same] at moved
      exact moved rfl
    · intro slot made
      obtain ⟨pair, member, rfl, filled⟩ :=
        Layout.exists_of_slotId_fill (s.layout.rooted root) made
      rw [layout, filled]
      exact lodged pair member root rfl
    · intro slot left
      rw [layout, Layout.slotId_fill_of_not_mem (apart slot left)]
      cases slot <;> rfl

end Repository

/-- Whether the layout is astray after an undertaking: a preparation that gives a complete layout
another root folder and fails leads it astray, and one that succeeds brings it back. -/
def Undertaking.straysAfter (undertaking : Undertaking) (outcome : Except Failure Unit)
    (before after : Layout) (astray : Bool) : Bool :=
  match undertaking, outcome with
  | .prepare _, .ok () => false
  | .prepare _, .error _ =>
    astray || before.complete && before.rootId.text? != after.rootId.text?
  | _, _ => astray

/-- The course of a client: the session that it has come to, the drives that it has met, the last
one first, and whether its layout is astray. -/
structure Course where
  session : Session
  drives : List Drive
  astray : Bool

namespace Course

def start (s : Session) : Course := ⟨s, [s.drive], false⟩

def next (course : Course) (undertaking : Undertaking) : Course :=
  let (outcome, after) := undertaking.operation.runOn course.session
  ⟨after, after.drive :: course.drives,
    undertaking.straysAfter outcome course.session.layout after.layout course.astray⟩

/-- What holds all along a course: faults only raise, the root folder is not known or has a text as
its id, and a complete layout that is not astray has all its category folders in its root folder. -/
structure Sound (course : Course) : Prop where
  raising : course.session.schedule.Raising
  met : course.session.drive ∈ course.drives
  root : course.session.layout.rootId = .null ∨ ∃ root, course.session.layout.rootId = .string root
  coherent : course.session.layout.complete = true → course.astray = false →
    course.session.layout.Coherent course.drives

variable {course : Course}

theorem next_eq {undertaking : Undertaking} {outcome : Except Failure Unit} {t : Session}
    (run : runOn undertaking.operation course.session = (outcome, t)) :
    course.next undertaking = ⟨t, t.drive :: course.drives,
      undertaking.straysAfter outcome course.session.layout t.layout course.astray⟩ := by
  rw [next, run]

theorem straysAfter_of_ne {undertaking : Undertaking}
    (other : ∀ wanted, undertaking ≠ .prepare wanted) (outcome : Except Failure Unit)
    (before after : Layout) (astray : Bool) :
    undertaking.straysAfter outcome before after astray = astray := by
  cases undertaking with
  | prepare wanted => exact absurd rfl (other wanted)
  | _ => rfl

theorem Sound.next_of_ne (h : course.Sound) {undertaking : Undertaking}
    (other : ∀ wanted, undertaking ≠ .prepare wanted) : (course.next undertaking).Sound := by
  have attaches := Undertaking.attaches h.raising other
  rcases run : runOn undertaking.operation course.session with ⟨outcome, t⟩
  have attaches := attaches.of_eq run
  rw [next_eq run, straysAfter_of_ne other]
  refine ⟨h.raising.of_faults attaches.faults, List.mem_cons_self, ?_, ?_⟩
  · obtain same | ⟨_, root, _, recorded⟩ := attaches.layout
    · exact same ▸ h.root
    · exact .inr ⟨root, recorded.rootId⟩
  · intro complete straight
    obtain same | ⟨incomplete, root, _, recorded⟩ := attaches.layout
    · rw [same] at complete ⊢
      exact (h.coherent complete straight).mono _
    · exact ((recorded.coherent incomplete complete).of_mem h.met).mono _

theorem Sound.next_prepare (h : course.Sound) (wanted : Bool) :
    (course.next (.prepare wanted)).Sound := by
  have prepares := Repository.prepare_founds h.raising wanted
  rcases run : runOn (Repository.prepare wanted) course.session with ⟨outcome, t⟩
  have prepared := prepares.of_eq run
  have next : course.next (.prepare wanted) = _ := next_eq run
  rw [next]
  have named : t.layout.rootId = .null ∨ ∃ root, t.layout.rootId = .string root := by
    obtain ⟨base, ids, rest, founded, _, _, layout⟩ := prepared.layout
    have rootId : t.layout.rootId = base.rootId := by
      cases outcome with
      | ok => exact (congrArg Layout.rootId layout.2.2).trans (base.rootId_fill ids)
      | error => exact (congrArg Layout.rootId layout.2).trans (base.rootId_fill ids)
    rw [rootId]
    cases founded with
    | kept => exact h.root
    | recorded _ recorded => exact .inr ⟨_, recorded.rootId⟩
    | made root => exact .inr ⟨root, rfl⟩
  refine ⟨h.raising.of_faults prepared.grows.faults, List.mem_cons_self, named, ?_⟩
  intro complete straight
  cases outcome with
  | ok => exact (prepared.coherent h.root).of_mem List.mem_cons_self
  | error failure =>
    obtain ⟨straight, kept⟩ := Bool.or_eq_false_iff.mp straight
    refine prepared.coherent_of_failed h.met (fun known => h.coherent known straight) ?_ complete
    intro known
    rw [known] at kept
    simpa using kept

theorem Sound.next (h : course.Sound) (undertaking : Undertaking) :
    (course.next undertaking).Sound := by
  by_cases preparation : ∃ wanted, undertaking = .prepare wanted
  · obtain ⟨wanted, rfl⟩ := preparation
    exact h.next_prepare wanted
  · exact h.next_of_ne (not_exists.mp preparation)

theorem Sound.foldl (h : course.Sound) (undertakings : List Undertaking) :
    (undertakings.foldl Course.next course).Sound := by
  induction undertakings generalizing course with
  | nil => exact h
  | cons undertaking rest ih => exact ih (h.next undertaking)

theorem sound_start {s : Session} {path : String} (fresh : s.layout = .fresh path)
    (raising : s.schedule.Raising) : (start s).Sound := by
  refine ⟨raising, List.mem_cons_self, .inl ?_, ?_⟩
  · rw [start, fresh]
    rfl
  · rw [start, fresh]
    exact nofun

/-- Along every course that begins with the root path alone, a complete layout that is not astray
has all its category folders in its root folder, and so has every layout when a preparation has just
succeeded. A layout goes astray only when a preparation gives a complete one another root folder and
fails; it is called complete then, with the last of its category folders those of before. -/
theorem complete_layout_one_root {s : Session} {path : String} (fresh : s.layout = .fresh path)
    (raising : s.schedule.Raising) (undertakings : List Undertaking) :
    let course := undertakings.foldl Course.next (.start s)
    (course.session.layout.complete = true → course.astray = false →
      course.session.layout.Coherent course.drives) ∧
    ∀ wanted, (Repository.prepare wanted).Ends course.session fun outcome t =>
      (outcome = .ok () → t.layout.Coherent [t.drive]) ∧
      ∀ failure, outcome = .error failure → course.session.layout.complete = true →
        course.session.layout.rootId.text? ≠ t.layout.rootId.text? →
          ∃ root made rest, Slot.all = made ++ rest ∧ rest ≠ [] ∧ t.layout.complete = true ∧
            t.layout.rootId = .string root ∧ course.session.layout.rootId ≠ .string root ∧
            (∀ slot ∈ made, t.drive.Lodges root slot.title (t.layout.slotId slot)) ∧
            ∀ slot ∈ rest, t.layout.slotId slot = course.session.layout.slotId slot := by
  intro course
  have sound : course.Sound := (sound_start fresh raising).foldl undertakings
  refine ⟨sound.coherent, fun wanted => ?_⟩
  apply (Repository.prepare_founds sound.raising wanted).mono
  intro outcome t prepared
  constructor
  · rintro rfl
    exact prepared.coherent sound.root
  · rintro failure rfl complete moved
    exact prepared.mixed complete moved

/-- An empty drive with an account. Faults hit the second search and the ninth folder made. -/
def tenant : Session :=
  ⟨⟨[], 0, none, 2, .object []⟩,
    .ofFaults [⟨.list, some 2, false, .raises (.provider (.http 500 "boom"))⟩,
      ⟨.insert, some 9, false, .raises (.provider (.http 500 "boom"))⟩],
    .empty, .fresh "repo", ⟨"", none⟩, none, [], [], 0, ""⟩

/-- The client after two preparations, and after a third. -/
def twicePrepared : Course := [.prepare true, .prepare true].foldl Course.next (.start tenant)
def thricePrepared : Course :=
  [.prepare true, .prepare true, .prepare true].foldl Course.next (.start tenant)

/-- The third preparation sets right what the second has left. -/
theorem complete_layout_one_root_thricePrepared :
    tenant.layout = .fresh "repo" ∧ tenant.schedule.Raising ∧
      thricePrepared.session.layout.complete = true ∧ thricePrepared.astray = false ∧
        thricePrepared.session.layout.Coherent thricePrepared.drives := by
  have raising : tenant.schedule.Raising := .of_reasons [] (by decide)
  have complete : thricePrepared.session.layout.complete = true := by decide +kernel
  have straight : thricePrepared.astray = false := by decide +kernel
  have ⟨coherent, _⟩ := complete_layout_one_root (s := tenant) rfl raising
    [.prepare true, .prepare true, .prepare true]
  rw [thricePrepared] at complete straight ⊢
  exact ⟨rfl, raising, complete, straight, coherent complete straight⟩

/-- The second preparation takes the search that fails for a missing root folder, makes another, and
fails at the second category folder in it. -/
theorem preparation_mixes_root_folders :
    tenant.layout = .fresh "repo" ∧ tenant.schedule.Raising ∧
      twicePrepared.session.layout.complete = true ∧
        ¬ twicePrepared.session.layout.Coherent twicePrepared.drives := by
  refine ⟨rfl, .of_reasons [] (by decide), by decide +kernel, ?_⟩
  rintro ⟨root, rooted, lodged⟩
  have second : twicePrepared.session.layout.rootId.text? = some "new7" := by decide +kernel
  rw [rooted] at second
  obtain rfl := Option.some.inj second
  obtain ⟨drive, member, folder, found, _⟩ := lodged .temporary
  have none_there : ∀ drive ∈ twicePrepared.drives,
      (drive.folders "temporary" (some "new7")).isEmpty = true := by decide +kernel
  exact List.ne_nil_of_mem found (List.isEmpty_iff.mp (none_there drive member))

end Course

end DriveDepot
