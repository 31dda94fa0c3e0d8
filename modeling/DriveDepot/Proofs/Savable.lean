import DriveDepot.Command.Run
import DriveDepot.Proofs.LayoutFile
import DriveDepot.Proofs.Lifecycle

namespace DriveDepot

open Operation

namespace Layout

variable {layout : Layout}

theorem Plain.setSlot (plain : layout.Plain) (slot : Slot) {id : Json}
    (named : ∃ text, id = .string text) : (layout.setSlot slot id).Plain := by
  intro place
  rw [idAt_setSlot]
  split
  · exact .inr named
  · exact plain place

theorem Plain.rooted (plain : layout.Plain) (root : String) : (layout.rooted root).Plain := by
  rintro (_ | slot)
  · exact .inr ⟨root, rfl⟩
  · exact plain (some slot)

theorem Plain.fill (plain : layout.Plain) {ids : List (Slot × Json)}
    (named : ∀ pair ∈ ids, ∃ text, pair.2 = .string text) : (layout.fill ids).Plain := by
  induction ids generalizing layout with
  | nil => exact plain
  | cons pair rest ih =>
    rw [fill_cons]
    apply ih (plain.setSlot pair.1 (named pair List.mem_cons_self))
    exact fun pair member => named pair (List.mem_cons_of_mem _ member)

end Layout

theorem Repository.Recorded.plain {drive : Drive} {root : String} {layout after : Layout}
    (recorded : Recorded drive root layout after) (plain : layout.Plain) : after.Plain := by
  cases recorded with
  | rootOnly => exact plain.rooted root
  | all found =>
    refine (plain.rooted root).fill fun pair member => ?_
    obtain ⟨folder, _, same⟩ := (Drive.exists_of_slotIds found).2 pair member
    exact ⟨folder.id, same⟩

structure Session.Savable (rootPath : String) (faults : List Fault) (s : Session) : Prop where
  faults : s.schedule.faults = faults
  raising : s.schedule.Raising
  plain : s.layout.Plain
  rootPath : s.layout.rootPath = rootPath

namespace Session.Savable

variable {rootPath : String} {faults : List Fault} {s t : Session}
variable (savable : s.Savable rootPath faults)
include savable

theorem of_same (same : t.schedule.faults = s.schedule.faults) (layout : t.layout = s.layout) :
    t.Savable rootPath faults :=
  ⟨same.trans savable.faults, savable.raising.of_faults same, layout ▸ savable.plain,
    layout ▸ savable.rootPath⟩

theorem relaid {layout : Layout} (plain : layout.Plain) (same : layout.rootPath = rootPath) :
    { s with layout : Session }.Savable rootPath faults :=
  ⟨savable.faults, savable.raising, plain, same⟩

theorem attaches (h : s.Attaches t) : t.Savable rootPath faults := by
  obtain same | ⟨_, root, _, recorded⟩ := h.layout
  · exact savable.of_same h.faults same
  · exact ⟨h.faults.trans savable.faults, savable.raising.of_faults h.faults,
      recorded.plain savable.plain, recorded.rootPath.trans savable.rootPath⟩

end Session.Savable

namespace Operation

/-- Wherever the operation begins, what holds there holds where it ends. -/
def Keeps (P : Session → Prop) (operation : Operation α) : Prop :=
  ∀ s, P s → operation.Ends s fun _ t => P t

section
variable {P : Session → Prop}

instance : IsPreorder Session fun s t => P s → P t where
  refl _ := id
  trans _ _ _ h k := k ∘ h

theorem keeps_iff_along {operation : Operation α} :
    operation.Keeps P ↔ operation.Along fun s t => P s → P t := Iff.rfl

theorem Keeps.bind {operation : Operation α} {next : α → Operation β}
    (first : operation.Keeps P) (rest : ∀ a, (next a).Keeps P) : (operation >>= next).Keeps P :=
  (keeps_iff_along.mp first).bind rest

theorem Keeps.forM {list : List α} {f : α → Operation PUnit} (each : ∀ a, (f a).Keeps P) :
    (list.forM f).Keeps P := keeps_iff_along.mpr (.forM each)

end

variable {rootPath : String} {faults : List Fault}

theorem Steady.keeps {operation : Operation α} (steady : operation.Steady) :
    operation.Keeps (·.Savable rootPath faults) :=
  fun s savable => (steady s).mono fun _ _ h => savable.of_same h.faults h.layout

theorem keeps_of_attaches {operation : Operation α}
    (attaches : ∀ s : Session, s.schedule.Raising → operation.Ends s fun _ t => s.Attaches t) :
    operation.Keeps (·.Savable rootPath faults) :=
  fun s savable => (attaches s savable.raising).mono fun _ _ h => savable.attaches h

theorem keeps_print (text : String) : (print text).Keeps (·.Savable rootPath faults) :=
  fun _ savable => savable.of_same rfl rfl

end Operation

namespace Repository

variable {rootPath : String} {faults : List Fault}

theorem keeps_targetExists : targetExists.Keeps (·.Savable rootPath faults) :=
  keeps_of_attaches fun _ raising =>
    (targetExists_ends raising).mono fun _ _ ⟨_, _, probed⟩ => probed.attaches

/-- The id of a folder that is made is a text. -/
theorem keeps_recording (titles : List String) (parent : Json) {record : Json → Layout → Layout}
    (plain : ∀ id layout, layout.Plain → (record (.string id) layout).Plain)
    (same : ∀ id layout, (record id layout).rootPath = layout.rootPath) :
    Keeps (·.Savable rootPath faults)
      (do let id ← Folders.makePath titles parent; setLayout (record id (← layout))) := by
  intro s savable
  refine (Folders.makePath_tells savable.raising titles parent).bind ?_ ?_
  · rintro id t ⟨steady, told⟩
    have after := savable.of_same steady.faults steady.layout
    obtain ⟨text, rfl, _⟩ := told id rfl
    rw [ends_layout_bind]
    exact after.relaid (plain text _ after.plain) ((same _ _).trans after.rootPath)
  · exact fun _ t h => savable.of_same h.1.faults h.1.layout

theorem keeps_createRoot : createRoot.Keeps (·.Savable rootPath faults) :=
  (steady_layout.keeps).bind fun _ =>
    keeps_recording _ _ (fun id _ plain => plain.rooted id) fun _ _ => rfl

theorem keeps_createSlots : createSlots.Keeps (·.Savable rootPath faults) := by
  have slot (slot : Slot) : (createSlot slot).Keeps (·.Savable rootPath faults) :=
    (steady_layout.keeps).bind fun _ =>
      keeps_recording [slot.title] _ (fun id _ plain => plain.setSlot slot ⟨id, rfl⟩)
        fun id layout => layout.rootPath_setSlot slot id
  refine (Keeps.forM slot).bind fun _ s savable => ?_
  rw [ends_layout_bind]
  exact savable.relaid savable.plain savable.rootPath

theorem keeps_prepare (wanted : Bool) : (prepare wanted).Keeps (·.Savable rootPath faults) := by
  have ensured : (ensureRoot wanted).Keeps (·.Savable rootPath faults) := by
    refine keeps_targetExists.bind fun found => ?_
    split
    · exact keeps_createRoot
    · exact (steady_pure ()).keeps
  have required : requireRoot.Keeps (·.Savable rootPath faults) :=
    Steady.keeps (steady_layout.bind fun _ => (steady_throw _).ite (steady_pure ()))
  have steps := steady_connect.keeps.bind fun _ => ensured.bind fun _ => required.bind fun _ =>
    keeps_createSlots
  exact fun s savable => prepare_ends (steps s savable) fun _ _ _ h => h.of_same rfl rfl

end Repository

namespace Command

variable {rootPath : String} {faults : List Fault}

theorem keeps_operate (command : Command) : command.operate.Keeps (·.Savable rootPath faults) := by
  have named (file : FileArgument) : (remoteFile file).Steady := steady_ofExcept _ _
  cases command with
  | auth => exact (steady_pure ()).keeps
  | init wanted =>
    exact (Repository.keeps_prepare wanted).bind fun _ =>
      Steady.keeps (steady_layout.bind fun _ => steady_log _ _)
  | test =>
    refine Repository.keeps_targetExists.bind fun _ => (keeps_print _).bind fun _ => ?_
    refine (keeps_of_attaches fun _ => Repository.targetCanWrite_attaches).bind fun _ => ?_
    refine (keeps_print _).bind fun _ => ?_
    refine (keeps_of_attaches fun _ => Repository.targetCanCreate_attaches).bind fun _ => ?_
    refine (keeps_print _).bind fun _ => Repository.steady_markerExists.keeps.bind fun _ => ?_
    exact keeps_print _
  | list category =>
    exact (Repository.steady_list category).keeps.bind fun _ => Keeps.forM fun _ => keeps_print _
  | upload source file =>
    exact Steady.keeps ((named file).bind fun _ => Repository.steady_upload _ _)
  | download file target =>
    cases target with
    | none => exact Steady.keeps ((named file).bind fun _ => (steady_pure _).ite (steady_throw _))
    | some target =>
      exact Steady.keeps ((named file).bind fun _ => Repository.steady_download _ _)
  | move source target =>
    exact Steady.keeps ((named source).bind fun _ => (named target).bind fun _ =>
      Repository.steady_move _ _)
  | remove file => exact Steady.keeps ((named file).bind fun _ => Repository.steady_remove _)

end Command

end DriveDepot
