import DriveDepot.Proofs.Folder
import DriveDepot.Proofs.Preparation

namespace DriveDepot

open Operation

namespace Session

structure Gains (s : Session) (new : List StoredFile) (t : Session) : Prop where
  faults : t.schedule.faults = s.schedule.faults
  drive : t.drive = s.drive.grown new
  insertions : s.executions .insert ≤ t.executions .insert
  asked : s.foldersAsked <+: t.foldersAsked

/-- The drive has supplied every folder that it was asked for between the two sessions: no request
for one met a fault, and it has the folder in which the new one was to lie. -/
def Supplied (s t : Session) : Prop :=
  s.Undisturbed t .insert ∧
    ∀ folder ∈ t.foldersAsked.drop s.foldersAsked.length, folder.2 ≠ .null →
      t.drive.holds folder.2 = true

variable {s t u : Session} {new more : List StoredFile}

theorem Gains.refl (s : Session) : s.Gains [] s :=
  ⟨rfl, (Drive.grown_nil _).symm, Nat.le_refl _, List.prefix_rfl⟩

theorem Gains.trans (h : s.Gains new t) (k : t.Gains more u) : s.Gains (new ++ more) u :=
  ⟨k.faults.trans h.faults, by rw [k.drive, h.drive, Drive.grown_grown],
    Nat.le_trans h.insertions k.insertions, h.asked.trans k.asked⟩

theorem Gains.relaid (h : s.Gains new t) (layout : Layout) :
    s.Gains new { t with layout := layout } := ⟨h.faults, h.drive, h.insertions, h.asked⟩

theorem Gains.journal (h : s.Gains new t) (journal : List Record) :
    s.Gains new { t with journal := journal } := ⟨h.faults, h.drive, h.insertions, h.asked⟩

theorem Gains.raising (h : s.Gains new t) (raising : s.schedule.Raising) : t.schedule.Raising :=
  raising.of_faults h.faults

theorem Gains.created (h : s.Gains new t) : t.drive.created = s.drive.created + new.length := by
  rw [h.drive]
  rfl

theorem Supplied.refl (s : Session) : s.Supplied s := by
  refine ⟨fun n after upto => by omega, ?_⟩
  simp

theorem Supplied.trans (h : s.Supplied t) (gains : s.Gains new t) (k : t.Supplied u)
    (gains' : t.Gains more u) : s.Supplied u := by
  refine ⟨h.1.trans gains.faults k.1, fun folder member inside => ?_⟩
  obtain ⟨later, split⟩ := gains'.asked
  rw [← split, List.drop_append_of_le_length gains.asked.length_le] at member
  obtain before | after := List.mem_append.mp member
  · have held := h.2 folder before inside
    obtain ⟨text, same⟩ := Drive.exists_of_holds held
    rw [same] at held ⊢
    rw [gains'.drive]
    exact Drive.holds_grown held _
  · refine k.2 folder ?_ inside
    rw [← split, List.drop_left]
    exact after

theorem Supplied.later (k : s.Supplied u) (gains : s.Gains new t) : t.Supplied u := by
  refine ⟨k.1.later gains.faults gains.insertions, fun folder member => k.2 folder ?_⟩
  exact (List.drop_sublist_drop_left _ gains.asked.length_le).subset member

end Session

variable {s t u : Session}

/-! ## Folders one inside the other -/

/-- The id of the innermost of the folders once they are all made. -/
def Drive.innermost (drive : Drive) (parent : Json) (titles : List String) : Json :=
  if titles = [] then parent else .string (issuedId (drive.created + titles.length))

namespace Folders

structure Nested (titles : List String) (parent : Json) (s : Session)
    (outcome : Except Failure Json) (t : Session) : Prop where
  layout : t.layout = s.layout
  made : ∃ made folder, made <+: titles ∧ (made ≠ [] → parent = within folder) ∧
    s.Gains (Drive.chain s.drive.created folder made) t ∧
    match outcome with
    | .ok id => made = titles ∧ id = s.drive.innermost parent titles ∧ s.Supplied t
    | .error _ => ¬ s.Supplied t

theorem Nested.failed {titles : List String} {parent : Json} {failure : Failure}
    (h : Nested titles parent s (.error failure) t) (other : Failure) (journal : List Record) :
    Nested titles parent s (.error other) { t with journal := journal } := by
  obtain ⟨layout, made, folder, first, placed, gains, ended⟩ := h
  exact ⟨layout, made, folder, first, placed, gains.journal journal, ended⟩

/-- More folders inside the one that was made. -/
theorem Nested.cons {title : String} {rest : List String} {parent id : Json}
    {outcome : Except Failure Json} (h : Nested [title] parent s (.ok id) t)
    (k : Nested rest id t outcome u) : Nested (title :: rest) parent s outcome u := by
  obtain ⟨layout, _, folder, _, placed, gains, rfl, rfl, supplied⟩ := h
  obtain ⟨layout', made, folder', first, placed', gains', ended⟩ := k
  have created : t.drive.created = s.drive.created + 1 := gains.created
  have inner : s.drive.innermost parent [title] =
      .string (Drive.issuedId (s.drive.created + 1)) := rfl
  have chained : Drive.chain s.drive.created folder [title] ++
      Drive.chain t.drive.created folder' made =
        Drive.chain s.drive.created folder (title :: made) := by
    cases made with
    | nil => rfl
    | cons next more =>
      have inside := placed' (List.cons_ne_nil _ _)
      cases folder' with
      | none => cases inside
      | some name =>
        obtain rfl := Json.string.inj inside
        rw [created]
        rfl
  refine ⟨layout'.trans layout, title :: made, folder, List.cons_prefix_cons.mpr ⟨rfl, first⟩,
    fun _ => placed (List.cons_ne_nil _ _), chained ▸ gains.trans gains', ?_⟩
  cases outcome with
  | ok last =>
    obtain ⟨rfl, rfl, supplied'⟩ := ended
    refine ⟨rfl, ?_, supplied.trans gains supplied' gains'⟩
    cases made with
    | nil => rfl
    | cons next more =>
      simp only [Drive.innermost, List.cons_ne_nil, ↓reduceIte, created, List.length_cons]
      rw [Nat.add_right_comm, Nat.add_assoc]
  | error => exact fun all => ended (all.later gains)

theorem make_nests (raising : s.schedule.Raising) (title : String) (parent : Json) :
    (make title parent).Ends s (Nested [title] parent s) := by
  apply (make_ends raising title parent).mono
  rintro outcome t ⟨asked, making⟩
  have requested : t.foldersAsked = s.foldersAsked ++ [(title, parent)] := asked.foldersAsked
  have gains {new : List StoredFile} (drive : t.drive = s.drive.grown new) : s.Gains new t :=
    ⟨asked.faults, drive, asked.executions_self ▸ Nat.le_succ _, requested ▸ List.prefix_append _ _⟩
  have unsupplied (lost : s.schedule.next? .insert ≠ none) : ¬ s.Supplied t :=
    fun supplied => lost (asked.undisturbed_iff.mp supplied.1)
  generalize drive : t.drive = after at making
  cases making with
  | @made folder placed held spared =>
    refine ⟨asked.layout, [title], folder, List.prefix_rfl, fun _ => placed, gains drive, rfl, rfl,
      asked.undisturbed_iff.mpr spared, ?_⟩
    rw [requested, List.drop_left]
    rintro _ (_ | ⟨_, ⟨⟩⟩) inside
    cases folder with
    | none => exact absurd placed inside
    | some name =>
      rw [placed, drive]
      exact Drive.holds_grown (held name rfl) _
  | refused named missing =>
    refine ⟨asked.layout, [], none, List.nil_prefix, by simp,
      gains (drive.trans (Drive.grown_nil _).symm), fun supplied => ?_⟩
    have there := supplied.2 (title, parent) (by rw [requested, List.drop_left]; simp) named
    rw [drive, missing] at there
    cases there
  | raised raises =>
    obtain ⟨fault, met, _⟩ := raises
    exact ⟨asked.layout, [], none, List.nil_prefix, by simp,
      gains (drive.trans (Drive.grown_nil _).symm), unsupplied (by simp [met])⟩
  | @raisedLate _ folder placed held raises =>
    obtain ⟨fault, met, _⟩ := raises
    exact ⟨asked.layout, [title], folder, List.prefix_rfl, fun _ => placed, gains drive,
      unsupplied (by simp [met])⟩

theorem makeEach_nests (raising : s.schedule.Raising) (parent : Json) (titles : List String) :
    (makeEach parent titles).Ends s (Nested titles parent s) := by
  induction titles generalizing s parent with
  | nil =>
    exact ends_pure.mpr ⟨rfl, [], none, List.prefix_rfl, by simp, .refl s, rfl, rfl, .refl s⟩
  | cons title rest ih =>
    rw [makeEach]
    refine Ends.bind (P := Nested [title] parent s) ?_ ?_ ?_
    · refine (make_nests raising title parent).handleIf (fun _ _ h => h) ?_ fun _ _ _ h => h
      exact fun failure t _ h => Ends.log_bind fun journal => ends_throw.mpr (h.failed _ journal)
    · intro id t first
      obtain ⟨_, _, _, _, gains, _⟩ := first.made
      exact (ih (gains.raising raising) id).mono fun outcome u rest => first.cons rest
    · rintro failure t ⟨layout, made, folder, first, placed, gains, ended⟩
      exact ⟨layout, made, folder, first.trans (List.cons_prefix_cons.mpr ⟨rfl, List.nil_prefix⟩),
        placed, gains, ended⟩

end Folders

/-- One folder inside another is the first of those that are made side by side in it. -/
theorem Session.Gains.siblings (known : s.layout.rootId ≠ .null) {title : String}
    {made : List String} {folder : Option String} (first : made <+: [title])
    (placed : made ≠ [] → s.layout.rootId = Folders.within folder)
    (gains : s.Gains (Drive.chain s.drive.created folder made) t) :
    ∃ root, (made ≠ [] → s.layout.rootId = .string root) ∧
      s.Gains (Drive.siblings s.drive.created root made) t := by
  rcases List.prefix_cons_iff.mp first with rfl | ⟨rest, rfl, none⟩
  · exact ⟨"", by simp, gains⟩
  · obtain rfl := List.prefix_nil.mp none
    have inside := placed (List.cons_ne_nil _ _)
    cases folder with
    | none => exact absurd inside known
    | some root => exact ⟨root, fun _ => inside, gains⟩

namespace Repository

/-- The layout once the folders of a path are made, the innermost being the root folder. -/
def foundedBy (path : List String) (layout : Layout) (created : Nat) : Layout :=
  if path = [] then layout else layout.rooted (Drive.issuedId (created + path.length))

structure Founding (path : List String) (s : Session) (outcome : Except Failure Unit) (t : Session) :
    Prop where
  made : ∃ made, made <+: path ∧ s.Gains (Drive.chain s.drive.created none made) t ∧
    match outcome with
    | .ok () => made = path ∧ s.Supplied t ∧ t.layout = foundedBy path s.layout s.drive.created
    | .error _ => ¬ s.Supplied t ∧ t.layout = s.layout

theorem createRoot_builds (raising : s.schedule.Raising) (named : s.layout.segments ≠ []) :
    createRoot.Ends s (Founding s.layout.segments s) := by
  have outermost {made : List String} {folder : Option String}
      (placed : made ≠ [] → Json.null = Folders.within folder) :
      Drive.chain s.drive.created folder made = Drive.chain s.drive.created none made := by
    cases made with
    | nil => rfl
    | cons =>
      cases folder with
      | none => rfl
      | some name => cases placed (List.cons_ne_nil _ _)
  rw [createRoot, ends_layout_bind, Folders.makePath, if_neg (by simpa [Layout.segments] using named)]
  refine (Folders.makeEach_nests raising .null _).bind ?_ ?_
  · rintro id t ⟨layout, _, folder, _, placed, gains, rfl, rfl, supplied⟩
    rw [ends_layout_bind, layout]
    rw [outermost placed] at gains
    refine ⟨s.layout.segments, List.prefix_rfl, gains.relaid _, rfl, supplied, ?_⟩
    rw [foundedBy, if_neg named, Drive.innermost]
    exact congrArg (fun id => { s.layout with rootId := id }) (if_neg named)
  · rintro failure t ⟨layout, made, folder, first, placed, gains, unsupplied⟩
    exact ⟨made, first, outermost placed ▸ gains, unsupplied, layout⟩

/-! ## Category folders side by side -/

/-- What making some category folders comes to: the first of them are made in the root folder, and
their ids are recorded. The last one that is made may go unrecorded. -/
structure Ranged (slots : List Slot) (s : Session) (outcome : Except Failure Unit) (t : Session) :
    Prop where
  made : ∃ made told root, made <+: slots ∧ told <+: made ∧ made.length ≤ told.length + 1 ∧
    (made ≠ [] → s.layout.rootId = .string root) ∧
    s.Gains (Drive.siblings s.drive.created root (made.map Slot.title)) t ∧
    t.layout = s.layout.fill (Slot.issued s.drive.created told) ∧
    match outcome with
    | .ok () => told = slots ∧ s.Supplied t
    | .error _ => told.length < slots.length ∧ ¬ s.Supplied t

theorem createSlot_ranges (raising : s.schedule.Raising) (known : s.layout.rootId ≠ .null)
    (slot : Slot) : (createSlot slot).Ends s (Ranged [slot] s) := by
  rw [createSlot, ends_layout_bind]
  refine Ends.bind (Folders.makeEach_nests raising s.layout.rootId [slot.title]) ?_ ?_
  · rintro id t ⟨layout, _, folder, first, placed, gains, rfl, rfl, supplied⟩
    obtain ⟨root, inside, gains⟩ := gains.siblings known first placed
    rw [ends_layout_bind, layout]
    exact ⟨[slot], [slot], root, List.prefix_rfl, List.prefix_rfl, Nat.le_succ _,
      fun _ => inside (List.cons_ne_nil _ _), gains.relaid _, rfl, rfl, supplied⟩
  · rintro failure t ⟨layout, made, folder, first, placed, gains, unsupplied⟩
    obtain ⟨root, inside, gains⟩ := gains.siblings known first placed
    rcases List.prefix_cons_iff.mp first with rfl | ⟨rest, rfl, none⟩
    · exact ⟨[], [], root, List.nil_prefix, List.nil_prefix, Nat.le_succ _, by simp, gains, layout,
        Nat.succ_pos _, unsupplied⟩
    · obtain rfl := List.prefix_nil.mp none
      exact ⟨[slot], [], root, List.prefix_rfl, List.nil_prefix, Nat.le_refl _,
        fun _ => inside (List.cons_ne_nil _ _), gains, layout, Nat.succ_pos _, unsupplied⟩

/-- The folders that are made next stand beside the one that was made. -/
theorem Ranged.cons {slot : Slot} {rest : List Slot} {outcome : Except Failure Unit}
    (h : Ranged [slot] s (.ok ()) t) (k : Ranged rest t outcome u) :
    Ranged (slot :: rest) s outcome u := by
  obtain ⟨made, _, root, first, part, _, inside, gains, layout, rfl, supplied⟩ := h
  obtain ⟨made', told, root', first', part', fewer, inside', gains', layout', ended⟩ := k
  obtain rfl : made = [slot] :=
    first.eq_of_length (Nat.le_antisymm first.length_le part.length_le)
  have rooted := inside (List.cons_ne_nil _ _)
  have created : t.drive.created = s.drive.created + 1 := gains.created
  have beside : Drive.siblings s.drive.created root [slot.title] ++
      Drive.siblings t.drive.created root' (made'.map Slot.title) =
        Drive.siblings s.drive.created root ((slot :: made').map Slot.title) := by
    cases made' with
    | nil => rfl
    | cons next more =>
      have same := inside' (List.cons_ne_nil _ _)
      rw [layout, Layout.rootId_fill, rooted] at same
      obtain rfl := Json.string.inj same
      rw [created]
      rfl
  refine ⟨slot :: made', slot :: told, root, List.cons_prefix_cons.mpr ⟨rfl, first'⟩,
    List.cons_prefix_cons.mpr ⟨rfl, part'⟩, Nat.succ_le_succ fewer, fun _ => rooted,
    beside ▸ gains.trans gains', ?_, ?_⟩
  · rw [layout', layout, created]
    rfl
  · cases outcome with
    | ok => exact ⟨congrArg (slot :: ·) ended.1, supplied.trans gains ended.2 gains'⟩
    | error => exact ⟨Nat.succ_lt_succ ended.1, fun all => ended.2 (all.later gains)⟩

theorem forM_createSlot_ranges (raising : s.schedule.Raising) (known : s.layout.rootId ≠ .null)
    (slots : List Slot) : (slots.forM createSlot).Ends s (Ranged slots s) := by
  induction slots generalizing s with
  | nil =>
    exact ends_pure.mpr ⟨[], [], "", List.prefix_rfl, List.prefix_rfl, Nat.le_succ _, by simp,
      .refl s, rfl, rfl, .refl s⟩
  | cons slot rest ih =>
    rw [List.forM]
    refine (createSlot_ranges raising known slot).bind ?_ ?_
    · rintro ⟨⟩ t first
      obtain ⟨_, _, _, _, _, _, _, gains, layout, _⟩ := first.made
      have known : t.layout.rootId ≠ .null := by rwa [layout, Layout.rootId_fill]
      exact (ih (gains.raising raising) known).mono fun outcome u later => first.cons later
    · rintro failure t ⟨made, told, root, first, part, fewer, inside, gains, layout, short, lost⟩
      exact ⟨made, told, root, first.trans (List.cons_prefix_cons.mpr ⟨rfl, List.nil_prefix⟩),
        part, fewer, inside, gains, layout, Nat.lt_of_lt_of_le short (by simp), lost⟩

/-! ## The whole of a preparation -/

structure Providing (s : Session) (outcome : Except Failure Unit) (t : Session) : Prop where
  rootId : t.layout.rootId = s.layout.rootId
  made : ∃ made told root, made <+: Slot.all ∧ told <+: made ∧ made.length ≤ told.length + 1 ∧
    (made ≠ [] → s.layout.rootId = .string root) ∧
    s.Gains (Drive.siblings s.drive.created root (made.map Slot.title)) t ∧
    match outcome with
    | .ok () => told = Slot.all ∧ t.layout = provided s.layout s.drive.created
    | .error _ => told.length < Slot.all.length ∧
        t.layout = s.layout.fill (Slot.issued s.drive.created told)
  succeeds : outcome = .ok () ↔ s.layout.rootId.isNothing = false ∧ s.Supplied t

theorem provide_builds (raising : s.schedule.Raising) :
    Ends (do requireRoot; createSlots) s (Providing s) := by
  refine (requireRoot_ends s).bind ?_ ?_
  · rintro ⟨⟩ t ⟨rfl, required⟩
    have rooted := required.mp rfl
    rw [createSlots]
    refine (forM_createSlot_ranges raising (ne_null_of_known rooted) Slot.all).bind ?_ ?_
    · rintro ⟨⟩ u ⟨made, _, root, first, part, fewer, inside, gains, layout, rfl, supplied⟩
      rw [ends_layout_bind, layout]
      exact ⟨Layout.rootId_fill .., ⟨made, Slot.all, root, first, part, fewer, inside,
        gains.relaid _, rfl, rfl⟩, iff_of_true rfl ⟨rooted, supplied⟩⟩
    · rintro failure u ⟨made, told, root, first, part, fewer, inside, gains, layout, short, lost⟩
      exact ⟨layout ▸ Layout.rootId_fill .., ⟨made, told, root, first, part, fewer, inside, gains,
        short, layout⟩, iff_of_false (by simp) fun all => lost all.2⟩
  · rintro failure t ⟨rfl, required⟩
    have unknown : ¬ t.layout.rootId.isNothing = false := by
      intro known
      cases required.mpr known
    exact ⟨rfl, ⟨[], [], "", List.nil_prefix, List.nil_prefix, Nat.le_succ _, by simp, .refl t,
      by decide, rfl⟩, iff_of_false (by simp) fun all => unknown all.1⟩

/-- The folders for a path and the category folders. -/
def folders (created : Nat) (path : List String) (root : String) (slots : List Slot) :
    List StoredFile :=
  Drive.chain created none path ++
    Drive.siblings (created + path.length) root (slots.map Slot.title)

/-- The titles of the folders are those of the path and then those of the category folders. -/
theorem titles_folders {made path : List String} {slots : List Slot} (first : made <+: path)
    (part : slots <+: Slot.all) (whole : slots ≠ [] → made = path) (created : Nat) (root : String) :
    (folders created made root slots).map (·.title) <+: path ++ Slot.titles := by
  rw [folders, List.map_append, Drive.titles_chain, Drive.titles_siblings]
  by_cases none : slots = []
  · rw [none, List.map_nil, List.append_nil]
    exact first.trans (List.prefix_append _ _)
  · rw [whole none, Slot.titles]
    exact (List.prefix_append_right_inj _).mpr (part.map _)

/-- The ids that are recorded for category folders are those of folders in the root folder. -/
theorem exists_of_mem_issued {created : Nat} {slots : List Slot} {pair : Slot × Json}
    (member : pair ∈ Slot.issued created slots) (root : String) :
    ∃ folder ∈ Drive.siblings created root (slots.map Slot.title),
      folder.IsSought pair.1.title (some root) ∧ pair.2 = .string folder.id := by
  induction slots generalizing created with
  | nil => cases member
  | cons slot rest ih =>
    obtain rfl | later := List.mem_cons.mp member
    · exact ⟨_, List.mem_cons_self, Drive.isSought_newFolder.mpr ⟨rfl, fun _ same => same⟩, rfl⟩
    · obtain ⟨folder, there, same⟩ := ih later
      exact ⟨folder, List.mem_cons_of_mem _ there, same⟩

/-- A complete layout has the ids of the new category folders. -/
theorem exists_of_provided (layout : Layout) (created : Nat) (root : String) (slot : Slot) :
    ∃ folder ∈ Drive.siblings created root Slot.titles,
      folder.title = slot.title ∧ (provided layout created).slotId slot = .string folder.id := by
  have among : slot ∈ (Slot.issued created Slot.all).map Prod.fst := by
    rw [Slot.map_fst_issued]
    exact slot.mem_all
  obtain ⟨pair, member, rfl, filled⟩ := layout.exists_of_slotId_fill among
  obtain ⟨folder, there, sought, same⟩ := exists_of_mem_issued member root
  exact ⟨folder, there, (StoredFile.isSought_iff.mp sought).2.2.1, same ▸ filled⟩

structure Built (path : List String) (s : Session) (outcome : Except Failure Unit) (t : Session) :
    Prop where
  made : ∃ made slots root, made <+: path ∧ slots <+: Slot.all ∧
    (slots ≠ [] → made = path ∧ t.layout.rootId = .string root) ∧
    let new := folders s.drive.created made root slots
    let founded := foundedBy path s.layout s.drive.created
    let created := s.drive.created + path.length
    t.drive = s.drive.grown new ∧ new.map (·.title) <+: path ++ Slot.titles ∧
    match outcome with
    | .ok () => made = path ∧ slots = Slot.all ∧ t.layout = provided founded created ∧
        t.layout.complete = true ∧ ∀ slot : Slot, ∃ folder ∈ new,
          folder.title = slot.title ∧ t.layout.slotId slot = .string folder.id
    | .error _ => slots = [] ∧ t.layout = s.layout ∨
        made = path ∧ ∃ told, told <+: slots ∧ slots.length ≤ told.length + 1 ∧
          told.length < Slot.all.length ∧ t.layout = founded.fill (Slot.issued created told)
  succeeds : outcome = .ok () ↔ t.layout.rootId.isNothing = false ∧ s.Supplied t

theorem Founding.failed {path : List String} {failure : Failure}
    (h : Founding path s (.error failure) t) : Built path s (.error failure) t := by
  obtain ⟨made, first, gains, unsupplied, layout⟩ := h
  refine ⟨⟨made, [], "", first, List.nil_prefix, by simp, ?_,
    titles_folders first List.nil_prefix (by simp) _ _, .inl ⟨rfl, layout⟩⟩,
    iff_of_false nofun fun all => unsupplied all.2⟩
  rw [gains.drive, folders, List.map_nil, Drive.siblings, List.append_nil]

theorem Founding.provided {path : List String} {outcome : Except Failure Unit}
    (h : Founding path s (.ok ()) t) (k : Providing t outcome u) : Built path s outcome u := by
  obtain ⟨_, _, gains, same, supplied, layout⟩ := h
  rw [same] at gains
  obtain ⟨rootId, ⟨made, told, root, first, part, fewer, inside, gains', ended⟩, succeeds⟩ := k
  have created : t.drive.created = s.drive.created + path.length := by
    rw [gains.created, Drive.length_chain]
  refine ⟨⟨path, made, root, List.prefix_rfl, first, fun some => ⟨rfl, rootId ▸ inside some⟩,
    ?_, titles_folders List.prefix_rfl first (fun _ => rfl) _ _, ?_⟩, ?_⟩
  · rw [gains'.drive, gains.drive, Drive.grown_grown, folders, ← created, gains.drive]
  · cases outcome with
    | ok =>
      obtain ⟨rfl, whole⟩ := ended
      obtain rfl := first.eq_of_length (Nat.le_antisymm first.length_le part.length_le)
      rw [layout, created] at whole
      refine ⟨rfl, rfl, whole, whole ▸ rfl, fun slot => ?_⟩
      obtain ⟨folder, member, told⟩ := exists_of_provided
        (foundedBy path s.layout s.drive.created) (s.drive.created + path.length) root slot
      exact ⟨folder, List.mem_append_right _ member, whole ▸ told⟩
    | error =>
      exact .inr ⟨rfl, told, part, fewer, ended.1, by rw [ended.2, layout, created]⟩
  · rw [succeeds, rootId]
    exact and_congr_right fun _ =>
      ⟨fun more => supplied.trans gains more gains', fun all => all.later gains⟩

theorem ensureRoot_builds (raising : s.schedule.Raising) {found : Bool} {probed : Session}
    (probe : runOn targetExists s = (.ok found, probed)) (named : s.layout.segments ≠ [])
    (wanted : Bool) :
    (ensureRoot wanted).Ends s
      (Founding (if !found && wanted then s.layout.segments else []) probed) := by
  rw [ensureRoot]
  refine ((targetExists_ends raising).and (.run _ s)).bind ?_ ?_
  · rintro positive t ⟨⟨_, same, observed⟩, run⟩
    obtain rfl := Except.ok.inj same
    obtain ⟨told, rfl⟩ := Prod.mk.inj (run.symm.trans probe)
    obtain rfl := Except.ok.inj told
    have segments : t.layout.segments = s.layout.segments := by
      rw [Layout.segments, observed.rootPath, Layout.segments]
    split
    · rw [← segments] at named ⊢
      exact createRoot_builds (raising.of_faults observed.faults) named
    · exact ends_pure.mpr ⟨[], List.prefix_rfl, .refl t, rfl, .refl t, rfl⟩
  · rintro failure t ⟨⟨_, failed, _⟩, _⟩
    cases failed

/-- A preparation that cannot connect does nothing else. Otherwise the probe decides whether the
folders of the root path are to be made, and what is built from then on are the first of those and
of the category folders. It succeeds exactly if there is a root folder by then and the drive has
supplied all folders that it was asked for. -/
theorem prepare_builds (raising : s.schedule.Raising) (named : s.layout.segments ≠ [])
    (wanted : Bool) :
    (prepare wanted).Ends s fun outcome t =>
      (∀ failure, (runOn connect s).1 = .error failure → outcome = .error failure ∧ s.Browsed t) ∧
      ((runOn connect s).1 = .ok () → ∃ found probed,
        runOn targetExists (runOn connect s).2 = (.ok found, probed) ∧ s.Observed probed ∧
          Built (if !found && wanted then s.layout.segments else []) probed outcome t) := by
  apply prepare_ends
  · refine ((connect_ends s).and (.run _ s)).bind ?_ ?_
    · rintro ⟨⟩ t ⟨⟨browsed, _⟩, run⟩
      rw [run]
      have raising := browsed.raising raising
      obtain ⟨found, probe, observed⟩ := targetExists_ends raising
      have probe : runOn targetExists t = (.ok found, (runOn targetExists t).2) :=
        Prod.ext probe rfl
      have founds := ensureRoot_builds raising probe (browsed.layout ▸ named) wanted
      generalize (runOn targetExists t).2 = probed at probe observed founds
      rw [browsed.layout] at founds
      have seen : s.Observed probed := browsed.observed.trans observed.toObserved
      refine founds.bind ?_ ?_
      · rintro ⟨⟩ u founding
        obtain ⟨_, _, gains, _⟩ := founding.made
        have raising := gains.raising (raising.of_faults observed.faults)
        exact (provide_builds raising).mono fun outcome v provides =>
          ⟨nofun, fun _ => ⟨found, probed, probe, seen, founding.provided provides⟩⟩
      · exact fun failure u founding =>
          ⟨nofun, fun _ => ⟨found, probed, probe, seen, founding.failed⟩⟩
    · rintro failure t ⟨⟨browsed, _⟩, run⟩
      rw [run]
      exact ⟨fun other same => ⟨congrArg _ (Except.error.inj same), browsed⟩, nofun⟩
  · rintro failure t journal ⟨unconnected, connected⟩
    refine ⟨fun other same => ?_, fun same => ?_⟩
    · obtain ⟨failed, browsed⟩ := unconnected other same
      exact ⟨failed, browsed.trans (.journal t journal)⟩
    · obtain ⟨found, probed, probe, observed, made, succeeds⟩ := connected same
      exact ⟨found, probed, probe, observed, made, succeeds⟩

/-- An empty drive, where the fourth folder is made although a fault hits the request for it. -/
def settler : Session :=
  { smallSession [] [⟨.insert, some 4, true, .raises (.provider (.http 500 "boom"))⟩] .empty with
    drive := ⟨[], 0, some 1, 2, .object []⟩
    layout := .fresh "backup/repo" }

theorem prepare_builds_settler :
    settler.schedule.Raising ∧ settler.layout.segments ≠ [] ∧
      (runOn connect settler).1 = .ok () ∧
      (runOn (prepare true) settler).2.drive.files.map (·.title) =
        ["backup", "repo", "multichunks", "databases"] ∧
      ∃ probed, settler.Observed probed ∧
        (prepare true).Ends settler (Built ["backup", "repo"] probed) := by
  have raising : settler.schedule.Raising := .of_reasons [] (by decide)
  have segments : settler.layout.segments = ["backup", "repo"] := by decide +kernel
  have named : settler.layout.segments ≠ [] := segments ▸ List.cons_ne_nil _ _
  have connected : (runOn connect settler).1 = .ok () := by decide +kernel
  have missing : (runOn targetExists (runOn connect settler).2).1 = .ok false := by decide +kernel
  obtain ⟨found, probed, probe, observed, built⟩ :=
    (prepare_builds raising named true).2 connected
  rw [probe] at missing
  obtain rfl := Except.ok.inj missing
  rw [segments] at built
  exact ⟨raising, named, connected, by decide +kernel, probed, observed, built⟩

end Repository

end DriveDepot
