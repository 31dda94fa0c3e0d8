import DriveDepot.Proofs.Changes
import DriveDepot.Proofs.Probe
import DriveDepot.Proofs.Provision
import DriveDepot.Repository.Preparation

namespace DriveDepot

open Operation

/-! ## What is asked for under any faults -/

structure Session.Ordered (s : Session) (asked : List (String × Json)) (t : Session) : Prop where
  layout : t.layout = s.layout
  foldersAsked : t.foldersAsked = s.foldersAsked ++ asked

namespace Folders

theorem make_asks (title : String) (parent : Json) (s : Session) :
    (make title parent).Ends s fun _ t => s.Ordered [(title, parent)] t := by
  rw [make]
  refine (request_asks (.insertFolder title parent) s).bind ?_ ?_
  · intro value t asked
    have ordered : s.Ordered [(title, parent)] t := ⟨asked.layout, asked.foldersAsked⟩
    refine Ends.ofExcept_bind (fun id _ => ?_) fun _ _ => ordered
    exact Ends.log_bind fun journal => ends_pure.mpr ⟨ordered.layout, ordered.foldersAsked⟩
  · exact fun failure t asked => ⟨asked.layout, asked.foldersAsked⟩

theorem makeEach_asks (parent : Json) (titles : List String) (s : Session) :
    (makeEach parent titles).Ends s fun _ t => ∃ asked, s.Ordered asked t ∧
      asked.map Prod.fst <+: titles ∧ asked.head? = titles.head?.map (·, parent) := by
  induction titles generalizing parent s with
  | nil => exact ends_pure.mpr ⟨[], ⟨rfl, (List.append_nil _).symm⟩, List.nil_prefix, rfl⟩
  | cons title rest ih =>
    rw [makeEach]
    refine Ends.bind (P := fun _ t => s.Ordered [(title, parent)] t) ?_ ?_ ?_
    · refine (make_asks title parent s).handleIf (fun _ _ h => h) ?_ fun _ _ _ h => h
      intro failure t _ ordered
      exact Ends.log_bind fun journal => ends_throw.mpr ⟨ordered.layout, ordered.foldersAsked⟩
    · intro id t first
      apply (ih id t).mono
      rintro _ u ⟨asked, later, part, _⟩
      refine ⟨(title, parent) :: asked, ⟨later.layout.trans first.layout, ?_⟩, ?_, rfl⟩
      · rw [later.foldersAsked, first.foldersAsked, List.append_assoc]
        rfl
      · exact List.cons_prefix_cons.mpr ⟨rfl, part⟩
    · intro failure t first
      exact ⟨_, first, List.cons_prefix_cons.mpr ⟨rfl, List.nil_prefix⟩, rfl⟩

theorem makePath_asks (parent : Json) (titles : List String) (s : Session) :
    (makePath titles parent).Ends s fun outcome t => (titles = [] → ∀ id, outcome ≠ .ok id) ∧
      ∃ asked, s.Ordered asked t ∧
        asked.map Prod.fst <+: titles ∧ asked.head? = titles.head?.map (·, parent) := by
  rw [makePath]
  cases titles with
  | nil =>
    exact ends_throw.mpr ⟨fun _ => nofun, [], ⟨rfl, (List.append_nil _).symm⟩, List.nil_prefix, rfl⟩
  | cons title rest =>
    exact (makeEach_asks parent (title :: rest) s).mono fun _ _ h => ⟨nofun, h⟩

end Folders

namespace Repository

theorem createSlot_asks (slot : Slot) (s : Session) :
    (createSlot slot).Ends s fun _ t => t.layout.rootId = s.layout.rootId ∧
      t.foldersAsked = s.foldersAsked ++ [(slot.title, s.layout.rootId)] := by
  have only {asked : List (String × Json)} (part : asked.map Prod.fst <+: [slot.title])
      (first : asked.head? = some (slot.title, s.layout.rootId)) :
      asked = [(slot.title, s.layout.rootId)] := by
    rcases asked with _ | ⟨pair, _ | ⟨_, _⟩⟩
    · cases first
    · exact congrArg (fun pair => [pair]) (Option.some.inj first)
    · have := part.length_le
      simp at this
  rw [createSlot, ends_layout_bind]
  refine (Folders.makePath_asks s.layout.rootId [slot.title] s).bind ?_ ?_
  · rintro id t ⟨_, asked, ordered, part, first⟩
    obtain rfl := only part first
    rw [ends_layout_bind]
    refine ⟨?_, ordered.foldersAsked⟩
    rw [← ordered.layout]
    exact Layout.rootId_setSlot ..
  · rintro failure t ⟨_, asked, ordered, part, first⟩
    obtain rfl := only part first
    exact ⟨by rw [ordered.layout], ordered.foldersAsked⟩

/-- The category folders are asked for in their order, all of them in the root folder. -/
theorem forM_createSlot_asks (slots : List Slot) (s : Session) :
    (slots.forM createSlot).Ends s fun _ t => t.layout.rootId = s.layout.rootId ∧
      ∃ done, done <+: slots ∧ t.foldersAsked =
        s.foldersAsked ++ done.map fun slot => (slot.title, s.layout.rootId) := by
  induction slots generalizing s with
  | nil => exact ends_pure.mpr ⟨rfl, [], List.nil_prefix, (List.append_nil _).symm⟩
  | cons slot rest ih =>
    rw [List.forM]
    refine (createSlot_asks slot s).bind ?_ ?_
    · rintro ⟨⟩ t ⟨rootId, first⟩
      apply (ih t).mono
      rintro _ u ⟨rootId', done, part, later⟩
      refine ⟨rootId'.trans rootId, slot :: done, List.cons_prefix_cons.mpr ⟨rfl, part⟩, ?_⟩
      rw [later, first, rootId, List.append_assoc]
      rfl
    · rintro failure t ⟨rootId, first⟩
      exact ⟨rootId, [slot], List.cons_prefix_cons.mpr ⟨rfl, List.nil_prefix⟩, first⟩

theorem createSlots_asks (s : Session) :
    createSlots.Ends s fun _ t => t.layout.rootId = s.layout.rootId ∧
      ∃ done, done <+: Slot.all ∧ t.foldersAsked =
        s.foldersAsked ++ done.map fun slot => (slot.title, s.layout.rootId) := by
  rw [createSlots]
  refine (forM_createSlot_asks Slot.all s).bind ?_ fun _ _ h => h
  intro _ t h
  rw [ends_layout_bind]
  exact h

end Repository

/-! ## What is made without faults -/

namespace Drive

section
variable {drive : Drive}

theorem holds_grown {id : String} (held : drive.holds (.string id) = true)
    (new : List StoredFile) : (drive.grown new).holds (.string id) = true := by
  obtain ⟨addressed, file, there, same⟩ := holds_string.mp held
  exact holds_string.mpr ⟨addressed, file, List.mem_append_left _ there, same⟩

theorem holds_grown_of_mem {new : List StoredFile} {title : String} {parent : Option String}
    {n : Nat} (member : newFolder (issuedId n) title parent ∈ new) :
    (drive.grown new).holds (.string (issuedId n)) = true := by
  exact holds_string.mpr ⟨issuedId_ne_empty n, _, List.mem_append_right _ member, rfl⟩

/-- What the drive answers to the request for a folder, if it has the parent. -/
theorem insertFolder_eq_ok {parent : Option String}
    (held : ∀ folder, parent = some folder → drive.holds (.string folder) = true)
    (title : String) :
    drive.answer (.insertFolder title (Folders.within parent)) =
      .ok (.object [("id", .string (issuedId (drive.created + 1)))],
        drive.grown [newFolder (issuedId (drive.created + 1)) title parent]) := by
  cases parent with
  | none => rfl
  | some folder =>
    have there : drive.holds (.string folder) = true := held folder rfl
    simp only [answer, insert, Folders.within, Request.parentOf?, Option.toList_some,
      List.all_cons, there, List.all_nil, Bool.and_self, ↓reduceIte]
    rfl

theorem insertFolder_eq_error {parent : Json} (some_parent : parent ≠ .null)
    (missing : drive.holds parent = false) (title : String) :
    drive.answer (.insertFolder title parent) = .error .notFound := by
  have named : Request.parentOf? parent = some parent := by
    cases parent <;> first | rfl | exact absurd rfl some_parent
  simp [answer, insert, named, missing]

end

/-- A parent that is not null is unknown to the drive, or its id is a text. -/
theorem within_or_missing (drive : Drive) (parent : Json) :
    (∃ folder, parent = Folders.within folder ∧
      ∀ id, folder = some id → drive.holds (.string id) = true) ∨
      parent ≠ .null ∧ drive.holds parent = false := by
  by_cases null : parent = .null
  · exact .inl ⟨none, null, nofun⟩
  · cases held : drive.holds parent with
    | false => exact .inr ⟨null, rfl⟩
    | true =>
      obtain ⟨id, rfl⟩ := exists_of_holds held
      exact .inl ⟨some id, rfl, fun _ same => Option.some.inj same ▸ held⟩

/-- Where a chain that starts in a parent ends. -/
def chainEnd (created : Nat) (parent : Option String) : List String → Option String
  | [] => parent
  | _ :: rest => chainEnd (created + 1) (some (issuedId (created + 1))) rest

theorem chainEnd_issued (created : Nat) (titles : List String) :
    chainEnd created (some (issuedId created)) titles =
      some (issuedId (created + titles.length)) := by
  induction titles generalizing created with
  | nil => rfl
  | cons title rest ih =>
    rw [chainEnd, ih, List.length_cons, Nat.add_comm rest.length, ← Nat.add_assoc]

theorem chainEnd_cons (created : Nat) (parent : Option String) (first : String)
    (rest : List String) : chainEnd created parent (first :: rest) =
      some (issuedId (created + (first :: rest).length)) := by
  rw [chainEnd, chainEnd_issued, List.length_cons, Nat.add_comm rest.length, ← Nat.add_assoc]

/-- The folder at the end of a chain is one of its folders. -/
theorem exists_mem_chain (created : Nat) (parent : Option String) (first : String)
    (rest : List String) : ∃ title inside,
      newFolder (issuedId (created + (first :: rest).length)) title inside ∈
        chain created parent (first :: rest) := by
  induction rest generalizing created parent first with
  | nil => exact ⟨first, parent, List.mem_cons_self⟩
  | cons next rest ih =>
    obtain ⟨title, inside, member⟩ := ih (created + 1) (some (issuedId (created + 1))) next
    refine ⟨title, inside, List.mem_cons_of_mem _ ?_⟩
    rw [List.length_cons, Nat.add_comm (next :: rest).length, ← Nat.add_assoc]
    exact member

end Drive

namespace Folders

/-- The drive with one more folder. -/
def madeIn (drive : Drive) (title : String) (parent : Option String) : Drive :=
  drive.grown [Drive.newFolder (Drive.issuedId (drive.created + 1)) title parent]

inductive Making (title : String) (parent : Json) (s : Session) : Except Failure Json → Drive → Prop
  | made {folder : Option String} (placed : parent = within folder)
      (held : ∀ id, folder = some id → s.drive.holds (.string id) = true)
      (spared : s.schedule.next? .insert = none) :
      Making title parent s (.ok (.string (Drive.issuedId (s.drive.created + 1))))
        (madeIn s.drive title folder)
  | refused (named : parent ≠ .null) (missing : s.drive.holds parent = false) :
      Making title parent s (.error (.ofProvider .notFound)) s.drive
  | raised {failure : Failure} (raises : s.schedule.RaisesNext .insert failure) :
      Making title parent s (.error failure) s.drive
  | raisedLate {failure : Failure} {folder : Option String} (placed : parent = within folder)
      (held : ∀ id, folder = some id → s.drive.holds (.string id) = true)
      (raises : s.schedule.RaisesNext .insert failure) :
      Making title parent s (.error failure) (madeIn s.drive title folder)

theorem make_ends {s : Session} (raising : s.schedule.Raising) (title : String) (parent : Json) :
    (make title parent).Ends s fun outcome t =>
      s.Asked (.insertFolder title parent) t ∧ Making title parent s outcome t.drive := by
  rw [make]
  obtain ⟨folder, rfl, held⟩ | ⟨named, missing⟩ := s.drive.within_or_missing parent
  · refine (request_granted (Drive.insertFolder_eq_ok held title)).bind ?_ ?_
    · rintro value t ⟨asked, granted⟩
      obtain ⟨spared, rfl, drive⟩ := granted.of_ok raising
      rw [idOf_object, ofMishap, ofExcept_ok, pure_bind]
      exact Ends.log_bind fun journal => ends_pure.mpr
        ⟨asked.journal journal, drive ▸ .made rfl held spared⟩
    · rintro failure t ⟨asked, granted⟩
      obtain ⟨raises, drive | drive⟩ := granted.of_error
      · exact ⟨asked, drive ▸ .raised raises⟩
      · exact ⟨asked, drive ▸ .raisedLate rfl held raises⟩
  · refine (request_denied (Drive.insertFolder_eq_error named missing title)).bind ?_ ?_
    · rintro value t ⟨_, _, denied⟩
      exact absurd denied (Denied.not_ok raising)
    · rintro failure t ⟨asked, drive, denied⟩
      obtain rfl | raises := denied.of_error
      · exact ⟨asked, drive ▸ .refused named missing⟩
      · exact ⟨asked, drive ▸ .raised raises⟩

end Folders

structure Session.Grown (s : Session) (new : List StoredFile) (t : Session) : Prop
    extends s.SameAround t where
  drive : t.drive = s.drive.grown new

theorem Session.Grown.trans {s t u : Session} {new more : List StoredFile} (h : s.Grown new t)
    (k : t.Grown more u) : s.Grown (new ++ more) u :=
  ⟨h.toSameAround.trans k.toSameAround, by rw [k.drive, h.drive, Drive.grown_grown]⟩

namespace Folders

section
variable {s : Session} {parent : Option String}

theorem make_calm (calm : s.schedule.Calm)
    (held : ∀ folder, parent = some folder → s.drive.holds (.string folder) = true)
    (title : String) :
    (make title (within parent)).Ends s fun outcome t =>
      outcome = .ok (.string (Drive.issuedId (s.drive.created + 1))) ∧
        s.Grown [Drive.newFolder (Drive.issuedId (s.drive.created + 1)) title parent] t := by
  rw [make]
  refine (request_calm calm (Drive.insertFolder_eq_ok held title)).bind ?_ ?_
  · rintro value t ⟨same, around, drive⟩
    obtain rfl := Except.ok.inj same
    rw [idOf_object, ofMishap, ofExcept_ok, pure_bind]
    refine Ends.log_bind fun journal => ends_pure.mpr ⟨rfl, ?_, drive⟩
    exact around.trans (Session.SameState.journal t journal).toSameAround
  · rintro failure t ⟨failed, _⟩
    cases failed

theorem makeEach_calm (calm : s.schedule.Calm)
    (held : ∀ folder, parent = some folder → s.drive.holds (.string folder) = true)
    (titles : List String) :
    (makeEach (within parent) titles).Ends s fun outcome t =>
      outcome = .ok (within (Drive.chainEnd s.drive.created parent titles)) ∧
        s.Grown (Drive.chain s.drive.created parent titles) t := by
  induction titles generalizing s parent with
  | nil => exact ends_pure.mpr ⟨rfl, (Session.SameState.refl s).toSameAround,
      (Drive.grown_nil s.drive).symm⟩
  | cons title rest ih =>
    rw [makeEach]
    refine Ends.bind (P := fun outcome t =>
      outcome = .ok (.string (Drive.issuedId (s.drive.created + 1))) ∧
        s.Grown [Drive.newFolder (Drive.issuedId (s.drive.created + 1)) title parent] t) ?_ ?_ ?_
    · refine (make_calm calm held title).handleIf (fun _ _ h => h) ?_ fun _ _ _ h => h
      rintro failure t _ ⟨failed, _⟩
      cases failed
    · rintro id t ⟨same, grown⟩
      obtain rfl := Except.ok.inj same
      have made : ∀ folder, some (Drive.issuedId (s.drive.created + 1)) = some folder →
          t.drive.holds (.string folder) = true := by
        rintro _ ⟨⟩
        rw [grown.drive]
        exact Drive.holds_grown_of_mem List.mem_cons_self
      have created : t.drive.created = s.drive.created + 1 := by
        rw [grown.drive]
        rfl
      have rest := ih (grown.calm calm) made
      rw [created] at rest
      apply rest.mono
      rintro outcome u ⟨ended, later⟩
      exact ⟨ended, grown.trans later⟩
    · rintro failure t ⟨failed, _⟩
      cases failed

theorem makePath_refused (calm : s.schedule.Calm) {parent : Json} (some_parent : parent ≠ .null)
    (missing : s.drive.holds parent = false) (title : String) (rest : List String) :
    (makePath (title :: rest) parent).Ends s fun outcome _ => ∀ id, outcome ≠ .ok id := by
  have refused : (make title parent).Ends s fun outcome _ => ∀ id, outcome ≠ .ok id := by
    rw [make]
    refine (request_denied (Drive.insertFolder_eq_error some_parent missing title)).bind ?_ ?_
    · rintro value t ⟨_, _, denied⟩
      cases denied with
      | replaced met => cases (calm.spares _).next?.symm.trans met
    · exact fun failure t _ => nofun
  rw [makePath, if_neg (by simp), makeEach]
  refine Ends.bind (P := fun outcome _ => ∀ id, outcome ≠ .ok id) ?_
    (fun id t impossible => absurd rfl (impossible id)) fun failure t _ => nofun
  refine refused.handleIf (fun _ _ h => h) (fun failure t _ _ => ?_) fun _ _ _ h => h
  exact Ends.log_bind fun journal => ends_throw.mpr nofun

end

end Folders

/-- The ids of category folders that are made one after the other. -/
def Slot.issued (created : Nat) : List Slot → List (Slot × Json)
  | [] => []
  | slot :: rest =>
    (slot, .string (Drive.issuedId (created + 1))) :: issued (created + 1) rest

theorem Slot.map_fst_issued (created : Nat) (slots : List Slot) :
    (issued created slots).map Prod.fst = slots := by
  induction slots generalizing created with
  | nil => rfl
  | cons slot rest ih => exact congrArg (slot :: ·) (ih (created + 1))

theorem Slot.issued_prefix (created : Nat) {told made : List Slot} (part : told <+: made) :
    issued created told <+: issued created made := by
  obtain ⟨rest, rfl⟩ := part
  induction told generalizing created with
  | nil => exact List.nil_prefix
  | cons slot more ih => exact List.cons_prefix_cons.mpr ⟨rfl, ih (created + 1)⟩

structure Session.Provided (s : Session) (new : List StoredFile) (layout : Layout) (t : Session) :
    Prop where
  faults : t.schedule.faults = s.schedule.faults
  drive : t.drive = s.drive.grown new
  layout : t.layout = layout

theorem Session.Provided.created {s t : Session} {new : List StoredFile} {layout : Layout}
    (h : s.Provided new layout t) : t.drive.created = s.drive.created + new.length := by
  rw [h.drive]
  rfl

theorem Session.Provided.calm {s t : Session} {new : List StoredFile} {layout : Layout}
    (h : s.Provided new layout t) (calm : s.schedule.Calm) : t.schedule.Calm := h.faults.trans calm

theorem Session.Provided.trans {s t u : Session} {new more : List StoredFile}
    {layout layout' : Layout} (h : s.Provided new layout t) (k : t.Provided more layout' u) :
    s.Provided (new ++ more) layout' u :=
  ⟨k.faults.trans h.faults, by rw [k.drive, h.drive, Drive.grown_grown], k.layout⟩

theorem Session.Observed.provided {s t : Session} (h : s.Observed t) :
    s.Provided [] t.layout t := ⟨h.faults, h.drive.trans (Drive.grown_nil _).symm, rfl⟩

namespace Repository

section
variable {s : Session} {root : String}

theorem createRoot_calm (calm : s.schedule.Calm) {first : String} {rest : List String}
    (segments : s.layout.segments = first :: rest) :
    createRoot.Ends s fun outcome t => outcome = .ok () ∧
      s.Provided (Drive.chain s.drive.created none (first :: rest))
        (s.layout.rooted (Drive.issuedId (s.drive.created + (first :: rest).length))) t := by
  have path : FolderPath.segments s.layout.rootPath = first :: rest := segments
  have nowhere : ∀ folder, none = some folder → s.drive.holds (.string folder) = true := nofun
  have made := Folders.makeEach_calm calm nowhere (first :: rest)
  rw [Drive.chainEnd_cons] at made
  rw [createRoot, ends_layout_bind, path]
  refine Ends.bind made ?_ ?_
  · rintro id t ⟨same, grown⟩
    obtain rfl := Except.ok.inj same
    rw [ends_layout_bind, grown.layout]
    exact ⟨rfl, grown.faults, grown.drive, rfl⟩
  · rintro failure t ⟨failed, _⟩
    cases failed

theorem createSlot_calm (calm : s.schedule.Calm) (rooted : s.layout.rootId = .string root)
    (held : s.drive.holds (.string root) = true) (slot : Slot) :
    (createSlot slot).Ends s fun outcome t => outcome = .ok () ∧
      s.Provided [Drive.newFolder (Drive.issuedId (s.drive.created + 1)) slot.title (some root)]
        (s.layout.setSlot slot (.string (Drive.issuedId (s.drive.created + 1)))) t := by
  have inside : ∀ folder, some root = some folder → s.drive.holds (.string folder) = true := by
    rintro _ ⟨⟩
    exact held
  rw [createSlot, ends_layout_bind, rooted]
  refine Ends.bind (Folders.makeEach_calm calm inside [slot.title]) ?_ ?_
  · rintro id t ⟨same, grown⟩
    obtain rfl := Except.ok.inj same
    rw [ends_layout_bind, grown.layout]
    exact ⟨rfl, grown.faults, grown.drive, rfl⟩
  · rintro failure t ⟨failed, _⟩
    cases failed

theorem forM_createSlot_calm (calm : s.schedule.Calm) (rooted : s.layout.rootId = .string root)
    (held : s.drive.holds (.string root) = true) (slots : List Slot) :
    (slots.forM createSlot).Ends s fun outcome t => outcome = .ok () ∧
      s.Provided (Drive.siblings s.drive.created root (slots.map Slot.title))
        (s.layout.fill (Slot.issued s.drive.created slots)) t := by
  induction slots generalizing s with
  | nil => exact ends_pure.mpr ⟨rfl, rfl, (Drive.grown_nil s.drive).symm, rfl⟩
  | cons slot rest ih =>
    rw [List.forM]
    refine (createSlot_calm calm rooted held slot).bind ?_ ?_
    · rintro ⟨⟩ t ⟨_, first⟩
      have rooted' : t.layout.rootId = .string root := by
        rw [first.layout, Layout.rootId_setSlot, rooted]
      have held' : t.drive.holds (.string root) = true := by
        rw [first.drive]
        exact Drive.holds_grown held _
      apply (ih (first.faults.trans calm) rooted' held').mono
      rintro outcome u ⟨ended, later⟩
      rw [first.created, first.layout] at later
      exact ⟨ended, first.trans later⟩
    · rintro failure t ⟨failed, _⟩
      cases failed

theorem createSlots_calm (calm : s.schedule.Calm) (rooted : s.layout.rootId = .string root)
    (held : s.drive.holds (.string root) = true) :
    createSlots.Ends s fun outcome t => outcome = .ok () ∧
      s.Provided (Drive.siblings s.drive.created root Slot.titles)
        { s.layout.fill (Slot.issued s.drive.created Slot.all) with complete := true } t := by
  rw [createSlots]
  refine (forM_createSlot_calm calm rooted held Slot.all).bind ?_ ?_
  · rintro ⟨⟩ t ⟨_, provided⟩
    rw [ends_layout_bind, provided.layout]
    exact ⟨rfl, provided.faults, provided.drive, rfl⟩
  · rintro failure t ⟨failed, _⟩
    cases failed

/-- Without its root folder no category folder can be made. -/
theorem createSlots_refused (calm : s.schedule.Calm) (known : s.layout.rootId ≠ .null)
    (missing : s.drive.holds s.layout.rootId = false) :
    createSlots.Ends s fun outcome _ => outcome ≠ .ok () := by
  have slot (slot : Slot) : (createSlot slot).Ends s fun outcome _ => outcome ≠ .ok () := by
    rw [createSlot, ends_layout_bind]
    exact Ends.bind (Folders.makePath_refused calm known missing slot.title [])
      (fun id t impossible => absurd rfl (impossible id)) fun failure t _ => nofun
  rw [createSlots]
  refine Ends.bind (P := fun outcome _ => outcome ≠ .ok ()) ?_
    (fun _ t impossible => absurd rfl impossible) fun failure t _ => nofun
  rw [Slot.all, List.forM]
  exact (slot .content).bind (fun _ t impossible => absurd rfl impossible) fun failure t _ => nofun

end

end Repository

end DriveDepot
