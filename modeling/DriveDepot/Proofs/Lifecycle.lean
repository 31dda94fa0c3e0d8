import DriveDepot.Proofs.Preparation.Building
import DriveDepot.Proofs.Steady
import DriveDepot.Proofs.Store

namespace DriveDepot

open Operation

/-- The value is the id of a file: a text, and not an empty one. -/
def Json.IsId (value : Json) : Prop := ∃ id, value = .string id ∧ id ≠ ""

namespace Layout

/-- The id of a folder of the layout is known. -/
def Knows (layout : Layout) (place : Option Slot) : Prop := (layout.idAt place).IsId

variable {layout : Layout} {place : Option Slot}

theorem idAt_setSlot (layout : Layout) (slot : Slot) (id : Json) (place : Option Slot) :
    (layout.setSlot slot id).idAt place = if place = some slot then id else layout.idAt place := by
  cases place with
  | none => exact layout.rootId_setSlot slot id
  | some other =>
    by_cases same : other = slot
    · rw [same, if_pos rfl]
      exact layout.slotId_setSlot slot id
    · rw [if_neg (by simpa using same)]
      exact layout.slotId_setSlot_of_ne same id

@[simp] theorem complete_setSlot (layout : Layout) (slot : Slot) (id : Json) :
    (layout.setSlot slot id).complete = layout.complete := by cases slot <;> rfl

theorem knows_setSlot {slot : Slot} {id : Json} (named : id.IsId)
    (known : place ≠ some slot → layout.Knows place) : (layout.setSlot slot id).Knows place := by
  rw [Knows, idAt_setSlot]
  split
  · exact named
  · exact known ‹_›

theorem knows_fill {ids : List (Slot × Json)} (named : ∀ pair ∈ ids, pair.2.IsId)
    (known : place ∉ ids.map (some ·.1) → layout.Knows place) : (layout.fill ids).Knows place := by
  induction ids generalizing layout with
  | nil => exact known (by simp)
  | cons pair rest ih =>
    obtain ⟨slot, id⟩ := pair
    rw [fill_cons]
    apply ih fun pair member => named pair (List.mem_cons_of_mem _ member)
    intro later
    apply knows_setSlot (named (slot, id) List.mem_cons_self)
    intro other
    apply known
    rw [List.map_cons, List.mem_cons]
    exact not_or.mpr ⟨other, later⟩

end Layout

namespace Drive.Addressed

variable {drive : Drive} (addressed : drive.Addressed)
include addressed

theorem of_lookup {title id : String} {parent : Option String}
    (found : drive.lookup title parent = .found id) : id ≠ "" := by
  obtain ⟨folder, member, rfl⟩ := exists_of_lookup found
  exact addressed folder (mem_folders.mp member).1

theorem of_trail {parent : Option String} (start : ∀ id, parent = some id → id ≠ "")
    {titles : List String} {id : String} (found : drive.trail parent titles = .found id) :
    id ≠ "" := by
  induction titles generalizing parent with
  | nil =>
    cases parent with
    | none => cases found
    | some first => exact Lookup.found.inj found ▸ start first rfl
  | cons title rest ih =>
    obtain ⟨middle, first, later⟩ := trail_cons_eq_found.mp found
    have named : middle ≠ "" := addressed.of_lookup first
    exact ih (fun _ same => Option.some.inj same ▸ named) later

theorem of_slotIds {root : String} {slots : List Slot} {ids : List (Slot × Json)}
    (found : drive.slotIds root slots = some ids) :
    ids.map Prod.fst = slots ∧ ∀ pair ∈ ids, pair.2.IsId := by
  obtain ⟨every, lodged⟩ := exists_of_slotIds found
  refine ⟨every, fun pair member => ?_⟩
  obtain ⟨folder, there, same⟩ := lodged pair member
  exact ⟨folder.id, same, addressed folder (mem_folders.mp there).1⟩

end Drive.Addressed

/-- Recording the folders gives a complete layout only where all of them were found. -/
theorem Repository.Recorded.knows {drive : Drive} {root : String} {layout after : Layout}
    (recorded : Recorded drive root layout after) (addressed : drive.Addressed) (named : root ≠ "")
    (incomplete : layout.complete = false) :
    after.Knows none ∧ (after.complete = true → ∀ place, after.Knows place) := by
  have rooted : (layout.rooted root).Knows none := ⟨root, rfl, named⟩
  cases recorded with
  | rootOnly => exact ⟨rooted, fun complete => nomatch incomplete.symm.trans complete⟩
  | @all ids found =>
    obtain ⟨every, known⟩ := addressed.of_slotIds found
    have filled (place : Option Slot) : ((layout.rooted root).fill ids).Knows place := by
      apply Layout.knows_fill known
      intro other
      cases place with
      | none => exact rooted
      | some slot =>
        have member := slot.mem_all
        rw [← every] at member
        obtain ⟨pair, there, rfl⟩ := List.mem_map.mp member
        exact absurd (List.mem_map_of_mem there) other
    exact ⟨filled none, fun _ => filled⟩

/-! ## What holds at all times -/

/-- A session under raising faults on a drive without empty ids, whose layout is not called complete
before all ids are known. The id of the root folder is null as long as it is not known. -/
structure Session.Governed (s : Session) : Prop where
  raising : s.schedule.Raising
  addressed : s.drive.Addressed
  root : s.layout.rootId = .null ∨ s.layout.Knows none
  complete : s.layout.complete = true → ∀ place, s.layout.Knows place

/-- What a step may do: whatever holds at all times still does, and a complete layout stays so. -/
structure Session.Advances (s t : Session) : Prop where
  governed : s.Governed → t.Governed
  complete : s.layout.complete = true → t.layout.complete = true

/-- What all but a preparation may do to a session: the layout stays as it is, or it is not complete
yet and the folders are recorded to which the root path leads. -/
structure Session.Attaches (s t : Session) : Prop extends s.NoWorse t where
  layout : t.layout = s.layout ∨ s.layout.complete = false ∧
    ∃ root, s.drive.trail none s.layout.segments = .found root ∧
      Repository.Recorded s.drive root s.layout t.layout

/-- What making folders does to a session: each id stays as it is, or it is known afterwards. -/
structure Session.Fills (s t : Session) : Prop extends s.NoWorse t where
  complete : t.layout.complete = s.layout.complete
  ids : ∀ place, t.layout.idAt place = s.layout.idAt place ∨ t.layout.Knows place

namespace Session

variable {s t u : Session}

theorem Advances.trans (h : s.Advances t) (k : t.Advances u) : s.Advances u :=
  ⟨k.governed ∘ h.governed, k.complete ∘ h.complete⟩

theorem Steady.attaches (h : s.Steady t) : s.Attaches t := ⟨h.toNoWorse, .inl h.layout⟩

theorem Attaches.steady (h : s.Attaches t) (k : t.Steady u) : s.Attaches u :=
  ⟨h.toNoWorse.trans k.toNoWorse, k.layout ▸ h.layout⟩

theorem Attaches.layout_eq (h : s.Attaches t) (complete : s.layout.complete = true) :
    t.layout = s.layout := by
  obtain same | ⟨incomplete, _⟩ := h.layout
  · exact same
  · cases complete.symm.trans incomplete

theorem Attaches.advances (h : s.Attaches t) : s.Advances t := by
  constructor
  · intro governed
    have raising := governed.raising.of_faults h.faults
    have addressed := h.addressed governed.addressed
    obtain same | ⟨incomplete, root, leads, recorded⟩ := h.layout
    · exact ⟨raising, addressed, same ▸ governed.root, same ▸ governed.complete⟩
    · have named : root ≠ "" := governed.addressed.of_trail (by simp) leads
      obtain ⟨rooted, complete⟩ := recorded.knows governed.addressed named incomplete
      exact ⟨raising, addressed, .inr rooted, complete⟩
  · intro complete
    rw [h.layout_eq complete]
    exact complete

theorem Steady.advances (h : s.Steady t) : s.Advances t := h.attaches.advances

theorem Steady.fills (h : s.Steady t) : s.Fills t :=
  ⟨h.toNoWorse, h.layout ▸ rfl, fun _ => .inl (h.layout ▸ rfl)⟩

theorem fills_relaid {layout : Layout} (complete : layout.complete = s.layout.complete)
    (ids : ∀ place, layout.idAt place = s.layout.idAt place ∨ layout.Knows place) :
    s.Fills { s with layout := layout } := ⟨⟨rfl, id⟩, complete, ids⟩

theorem Fills.knows (h : s.Fills t) {place : Option Slot} (known : s.layout.Knows place) :
    t.layout.Knows place := by
  obtain same | known' := h.ids place
  · rw [Layout.Knows, same]
    exact known
  · exact known'

theorem Fills.trans (h : s.Fills t) (k : t.Fills u) : s.Fills u where
  toNoWorse := h.toNoWorse.trans k.toNoWorse
  complete := k.complete.trans h.complete
  ids := by
    intro place
    obtain same | known := k.ids place
    · rw [same, Layout.Knows, same]
      exact h.ids place
    · exact .inr known

theorem Fills.advances (h : s.Fills t) : s.Advances t := by
  constructor
  · intro governed
    constructor
    · exact governed.raising.of_faults h.faults
    · exact h.addressed governed.addressed
    · obtain unknown | known := governed.root
      · exact (h.ids none).imp_left fun same => same.trans unknown
      · exact .inr (h.knows known)
    · intro complete place
      rw [h.complete] at complete
      exact h.knows (governed.complete complete place)
  · exact h.complete.trans

end Session

section
variable {s : Session}

theorem Folders.makePath_tells (raising : s.schedule.Raising) (titles : List String)
    (parent : Json) :
    (makePath titles parent).Ends s fun outcome t =>
      s.Steady t ∧ ∀ id, outcome = .ok id → id.IsId := by
  apply (Repository.steady_makePath titles parent s).and
  rw [makePath]
  split
  · exact ends_throw.mpr (by simp)
  · rename_i some_titles
    have some : titles ≠ [] := fun none => some_titles (List.isEmpty_iff.mpr none)
    apply (makeEach_nests raising parent titles).mono
    rintro _ t nested id rfl
    obtain ⟨_, _, _, _, _, _, rfl, _⟩ := nested.made
    exact ⟨_, if_neg some, Drive.issuedId_ne_empty _⟩

end

namespace Repository

section
variable {s : Session}

theorem Probed.attaches {t : Session} {positive : Bool} (h : Probed s positive t) :
    s.Attaches t := ⟨⟨h.faults, fun addressed => h.drive ▸ addressed⟩, h.layout⟩

theorem createRoot_fills (raising : s.schedule.Raising) :
    createRoot.Ends s fun _ t => s.Fills t := by
  rw [createRoot, ends_layout_bind]
  refine (Folders.makePath_tells raising _ .null).bind ?_ fun _ _ h => h.1.fills
  rintro id t ⟨steady, told⟩
  rw [ends_layout_bind]
  refine steady.fills.trans (Session.fills_relaid rfl fun place => ?_)
  cases place with
  | none => exact .inr (told id rfl)
  | some slot => exact .inl rfl

theorem ensureRoot_advances (raising : s.schedule.Raising) (wanted : Bool) :
    (ensureRoot wanted).Ends s fun _ t => s.Advances t := by
  rw [ensureRoot]
  refine (targetExists_ends raising).bind ?_ ?_
  · rintro positive t ⟨_, _, probed⟩
    have advances := probed.attaches.advances
    split
    · have raising' := raising.of_faults probed.faults
      exact (createRoot_fills raising').mono fun _ _ filled => advances.trans filled.advances
    · exact advances
  · rintro failure t ⟨_, _, probed⟩
    exact probed.attaches.advances

theorem createSlot_fills (raising : s.schedule.Raising) (slot : Slot) :
    (createSlot slot).Ends s fun outcome t =>
      s.Fills t ∧ (outcome = .ok () → t.layout.Knows (some slot)) := by
  rw [createSlot, ends_layout_bind]
  refine (Folders.makePath_tells raising [slot.title] _).bind ?_ fun _ _ h => ⟨h.1.fills, by simp⟩
  rintro id t ⟨steady, told⟩
  rw [ends_layout_bind]
  have named := told id rfl
  refine ⟨steady.fills.trans (Session.fills_relaid (by simp) fun place => ?_), fun _ => ?_⟩
  · rw [Layout.Knows, Layout.idAt_setSlot]
    split
    · exact .inr named
    · exact .inl rfl
  · exact Layout.knows_setSlot named (absurd rfl)

theorem forM_createSlot_fills (raising : s.schedule.Raising) (slots : List Slot) :
    (slots.forM createSlot).Ends s fun outcome t =>
      s.Fills t ∧ (outcome = .ok () → ∀ slot ∈ slots, t.layout.Knows (some slot)) := by
  induction slots generalizing s with
  | nil => exact ends_pure.mpr ⟨(Session.Steady.refl s).fills, by simp⟩
  | cons slot rest ih =>
    rw [List.forM]
    refine (createSlot_fills raising slot).bind ?_ fun _ _ h => ⟨h.1, by simp⟩
    rintro ⟨⟩ t ⟨first, known⟩
    apply (ih (raising.of_faults first.faults)).mono
    rintro outcome u ⟨later, others⟩
    refine ⟨first.trans later, fun succeeded => ?_⟩
    rintro other (_ | ⟨_, member⟩)
    · exact later.knows (known rfl)
    · exact others succeeded other member

/-- The layout is called complete once the last of the category folders is made. -/
theorem createSlots_advances (raising : s.schedule.Raising) (rooted : s.layout.Knows none) :
    createSlots.Ends s fun _ t => s.Advances t := by
  rw [createSlots]
  refine (forM_createSlot_fills raising Slot.all).bind ?_ fun _ _ h => h.1.advances
  rintro ⟨⟩ t ⟨filled, known⟩
  rw [ends_layout_bind]
  have every (place : Option Slot) : t.layout.Knows place := by
    cases place with
    | none => exact filled.knows rooted
    | some slot => exact known rfl slot slot.mem_all
  -- All ids are known before the layout is called complete, and no call lies between.
  have relaid : t.Advances { t with layout := { t.layout with complete := true } } := by
    constructor
    · intro governed
      exact ⟨governed.raising, governed.addressed, .inr (every none), fun _ => every⟩
    · exact fun _ => rfl
  exact filled.advances.trans relaid

theorem prepare_advances (governed : s.Governed) (wanted : Bool) :
    (prepare wanted).Ends s fun _ t => s.Advances t := by
  apply prepare_ends
  · refine Ends.bind (steady_connect s) ?_ fun _ _ connected => connected.advances
    intro _ t connected
    have opened : s.Advances t := connected.advances
    have raising := (opened.governed governed).raising
    refine (ensureRoot_advances raising wanted).bind ?_ fun _ _ h => opened.trans h
    intro _ u found
    have ensured : s.Advances u := opened.trans found
    have governed' := ensured.governed governed
    refine (requireRoot_ends u).bind ?_ ?_
    · rintro ⟨⟩ v ⟨rfl, required⟩
      have rooted : v.layout.Knows none := by
        obtain unknown | known := governed'.root
        · rw [unknown] at required
          cases required.mp rfl
        · exact known
      exact (createSlots_advances governed'.raising rooted).mono fun _ _ h => ensured.trans h
    · rintro failure v ⟨rfl, _⟩
      exact ensured
  · exact fun failure t journal h => h.trans (Session.SameState.journal t journal).steady.advances

/-- Where one of the category folders is not found, none is recorded. -/
theorem discover_of_failed {failure : Failure}
    (failed : (runOn (lookupSlots s.layout.rootId) s).1 = .error failure) :
    discover.Ends s fun outcome t => outcome = .error failure ∧ t.layout = s.layout := by
  rw [discover, ends_layout_bind]
  have looked := (steady_lookupSlots s.layout.rootId s).and (Ends.run _ s)
  refine looked.bind ?_ ?_
  · rintro ids t ⟨_, run⟩
    rw [run] at failed
    cases failed
  · rintro other t ⟨steady, run⟩
    rw [run] at failed
    exact ⟨by simpa using failed, steady.layout⟩

theorem targetExists_bind_attaches (raising : s.schedule.Raising) {next : Bool → Operation α}
    (steady : ∀ positive, (next positive).Steady) :
    (targetExists >>= next).Ends s fun _ t => s.Attaches t := by
  refine (targetExists_ends raising).bind ?_ ?_
  · rintro positive t ⟨_, _, probed⟩
    exact (steady positive t).mono fun _ _ h => probed.attaches.steady h
  · rintro failure t ⟨_, _, probed⟩
    exact probed.attaches

theorem probe_attaches {operation : Operation Bool} {onFailure : Failure → Operation Unit}
    (attaches : operation.Ends s fun _ t => s.Attaches t)
    (steady : ∀ failure, (onFailure failure).Steady) :
    (probe operation onFailure).Ends s fun _ t => s.Attaches t := by
  refine attaches.onAnyError (fun _ _ h => h) (fun failure t h => ?_) fun _ h => h
  have told : (do onFailure failure; return false : Operation Bool).Steady :=
    (steady failure).bind fun _ => steady_pure _
  exact (told t).mono fun _ _ k => h.steady k

theorem targetCanWrite_attaches (raising : s.schedule.Raising) :
    targetCanWrite.Ends s fun _ t => s.Attaches t := by
  apply probe_attaches _ fun _ => steady_log _ _
  apply targetExists_bind_attaches raising
  intro positive
  refine (steady_log_pure _ _ _).ite (steady_disk.bind fun _ => (steady_setDisk _).bind fun _ => ?_)
  have discarded : (do setDisk (← disk).discard : Operation Unit).Steady :=
    steady_disk.bind fun _ => steady_setDisk _
  refine Steady.bind (Steady.ensuring ?_ discarded) fun created => ?_
  · exact steady_layout.bind fun _ => steady_disk.bind fun _ => steady_request _
  · exact (steady_ofExcept _ _).bind fun _ => (steady_delete _).bind fun _ => steady_log_pure _ _ _

theorem targetCanCreate_attaches (raising : s.schedule.Raising) :
    targetCanCreate.Ends s fun _ t => s.Attaches t := by
  apply probe_attaches _ fun _ => steady_log _ _
  apply targetExists_bind_attaches raising
  intro positive
  refine (steady_pure _).ite (steady_layout.bind fun _ => (steady_make _ _).bind fun _ => ?_)
  exact (steady_delete _).bind fun _ => steady_layout.bind fun _ => steady_log_pure _ _ _

end

end Repository

/-! ## Whole histories -/

inductive Undertaking
  | connect
  | prepare (wanted : Bool)
  | targetExists
  | targetCanWrite
  | targetCanCreate
  | markerExists
  | act (action : Action)

def Undertaking.operation : Undertaking → Operation Unit
  | connect => Repository.connect
  | prepare wanted => Repository.prepare wanted
  | targetExists => do let _ ← Repository.targetExists
  | targetCanWrite => do let _ ← Repository.targetCanWrite
  | targetCanCreate => do let _ ← Repository.targetCanCreate
  | markerExists => do let _ ← Repository.markerExists
  | act action => do let _ ← action.operation

/-- What a client can come to that starts with the root path alone, under faults that raise and on a
drive without empty ids. -/
inductive Session.Reachable : Session → Prop
  | start {s : Session} {path : String} (fresh : s.layout = .fresh path)
      (raising : s.schedule.Raising) (addressed : s.drive.Addressed) : Reachable s
  | next {s : Session} (reached : Reachable s) (undertaking : Undertaking) :
      Reachable (undertaking.operation.runOn s).2

theorem Action.steady (action : Action) : action.operation.Steady := by
  cases action with
  | upload => exact (Repository.steady_upload _ _).bind fun _ => steady_pure _
  | download => exact (Repository.steady_download _ _).bind fun _ => steady_pure _
  | delete => exact (Repository.steady_remove _).bind fun _ => steady_pure _
  | move => exact (Repository.steady_move _ _).bind fun _ => steady_pure _
  | list category => exact Repository.steady_list category

namespace Undertaking

variable {s : Session}

theorem attaches (raising : s.schedule.Raising) {undertaking : Undertaking}
    (other : ∀ wanted, undertaking ≠ .prepare wanted) :
    undertaking.operation.Ends s fun _ t => s.Attaches t := by
  have unread {α : Type} {operation : Operation α} (h : operation.Ends s fun _ t => s.Attaches t) :
      (do let _ ← operation : Operation Unit).Ends s fun _ t => s.Attaches t :=
    h.bind (fun _ _ k => k) fun _ _ k => k
  have steady {operation : Operation Unit} (h : operation.Steady) :
      operation.Ends s fun _ t => s.Attaches t := (h s).mono fun _ _ k => k.attaches
  cases undertaking with
  | connect => exact steady Repository.steady_connect
  | prepare wanted => exact absurd rfl (other wanted)
  | targetExists =>
    exact unread ((Repository.targetExists_ends raising).mono fun _ _ ⟨_, _, h⟩ => h.attaches)
  | targetCanWrite => exact unread (Repository.targetCanWrite_attaches raising)
  | targetCanCreate => exact unread (Repository.targetCanCreate_attaches raising)
  | markerExists => exact steady (Repository.steady_markerExists.bind fun _ => steady_pure _)
  | act action => exact steady (action.steady.bind fun _ => steady_pure _)

theorem advances (governed : s.Governed) (undertaking : Undertaking) :
    undertaking.operation.Ends s fun _ t => s.Advances t := by
  by_cases preparation : ∃ wanted, undertaking = .prepare wanted
  · obtain ⟨wanted, rfl⟩ := preparation
    exact Repository.prepare_advances governed wanted
  · have other := not_exists.mp preparation
    exact (attaches governed.raising other).mono fun _ _ h => h.advances

end Undertaking

theorem Session.Reachable.governed {s : Session} (reached : s.Reachable) : s.Governed := by
  induction reached with
  | start fresh raising addressed =>
    exact ⟨raising, addressed, .inl (by rw [fresh]; rfl), by rw [fresh]; exact nofun⟩
  | next _ undertaking ih => exact (undertaking.advances ih).governed ih

/-- However a client came to a layout that is called complete, the ids of all its folders are known.
It remains complete, and only a preparation changes an id in it. The probe for the target leaves the
layout as it is, or records the root folder alone, or records all folders, and then all of them were
found; where the search for the category folders fails it records none of them. -/
theorem Session.layout_lifecycle {s : Session} (reached : s.Reachable) :
    (s.layout.complete = true → ∀ place, s.layout.Knows place) ∧
    (s.layout.complete = true → ∀ undertaking : Undertaking,
      undertaking.operation.Ends s fun _ t => t.layout.complete = true ∧
        ((∀ wanted, undertaking ≠ .prepare wanted) → t.layout = s.layout)) ∧
    (Repository.targetExists.Ends s fun _ t => t.layout = s.layout ∨
      s.layout.complete = false ∧ ∃ root, s.drive.trail none s.layout.segments = .found root ∧
        (t.layout = s.layout.rooted root ∨
          (∀ place, t.layout.Knows place) ∧ ∃ ids, s.drive.slotIds root Slot.all = some ids ∧
            t.layout = { (s.layout.rooted root).fill ids with complete := true })) ∧
    ∀ (u : Session) (failure : Failure),
      (runOn (Repository.lookupSlots u.layout.rootId) u).1 = .error failure →
        Repository.discover.Ends u fun outcome t => outcome = .error failure ∧
          t.layout = u.layout := by
  have governed := reached.governed
  refine ⟨governed.complete, ?_, ?_, fun u failure => Repository.discover_of_failed⟩
  · intro complete undertaking
    refine ((undertaking.advances governed).and (Ends.run _ s)).mono ?_
    rintro outcome t ⟨advances, run⟩
    refine ⟨advances.complete complete, fun other => ?_⟩
    exact ((Undertaking.attaches governed.raising other).of_eq run).layout_eq complete
  · apply (Repository.targetExists_ends governed.raising).mono
    rintro _ t ⟨_, _, probed⟩
    have governed' := probed.attaches.advances.governed governed
    refine probed.layout.imp_right fun ⟨incomplete, root, leads, recorded⟩ => ?_
    refine ⟨incomplete, root, leads, ?_⟩
    have known := governed'.complete
    generalize t.layout = after at recorded known
    cases recorded with
    | rootOnly => exact .inl rfl
    | all found => exact .inr ⟨known rfl, _, found, rfl⟩

namespace Repository

/-- An empty drive with an account. Faults hit the first search and the third folder made. -/
def newcomer : Session :=
  ⟨⟨[], 0, none, 2, .object []⟩,
    .ofFaults [⟨.list, some 1, false, .raises (.provider (.http 500 "boom"))⟩,
      ⟨.insert, some 3, false, .raises (.provider (.http 500 "boom"))⟩],
    .empty, .fresh "repo", ⟨"", none⟩, none, [], [], 0, ""⟩

/-- The client after a preparation that is interrupted, and after another one. -/
def preparedInPart : Session := ((Undertaking.prepare true).operation.runOn newcomer).2
def preparedAgain : Session := ((Undertaking.prepare true).operation.runOn preparedInPart).2

theorem layout_lifecycle_preparedAgain :
    preparedAgain.Reachable ∧ preparedInPart.layout.complete = false ∧
      preparedAgain.layout.complete = true ∧ (∀ place, preparedAgain.layout.Knows place) ∧
        (Undertaking.act (.delete .marker)).operation.Ends preparedAgain fun _ t =>
          t.layout = preparedAgain.layout := by
  have started : newcomer.Reachable := .start rfl (.of_reasons [] (by decide)) (by decide)
  have reached : preparedAgain.Reachable := (started.next (.prepare true)).next (.prepare true)
  have complete : preparedAgain.layout.complete = true := by decide +kernel
  obtain ⟨known, kept, _⟩ := Session.layout_lifecycle reached
  refine ⟨reached, by decide +kernel, complete, known complete, ?_⟩
  exact (kept complete _).mono fun _ _ h => h.2 fun _ => nofun

end Repository

end DriveDepot
