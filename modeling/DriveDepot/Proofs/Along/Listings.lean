import DriveDepot.Proofs.Search.Requests
import DriveDepot.Repository.Probe

namespace DriveDepot

open Operation

/-- A listing tells of the drive and does not change it. -/
theorem Drive.answer_listing_same {drive after : Drive} {request : Request} {value : Json}
    (listing : request.kind = .list) (answer : drive.answer request = .ok (value, after)) :
    after = drive := by
  have listed {query : String} {token : Json}
      (answer : drive.answer (.listFiles query token) = .ok (value, after)) : after = drive := by
    rw [Search.answer_listFiles] at answer
    cases read : drive.list query token with
    | error => simp [read, Except.map] at answer
    | ok response =>
      simp only [read, Except.map, Except.ok.injEq, Prod.mk.injEq] at answer
      exact answer.2.symm
  cases request with
  | listFiles => exact listed answer
  | listFolders query => exact @listed query .null answer
  | _ => cases listing

structure Listable (R : Session → Session → Prop) : Prop where
  logs : ∀ level message, (log level message).Along R
  lists : ∀ {request : Request}, request.kind = .list → (Operation.request request).Along R

/-- Two sessions of which one and the same thing is told. -/
def Session.Keeps (f : Session → α) (s t : Session) : Prop := f t = f s

instance (f : Session → α) : IsPreorder Session (Session.Keeps f) where
  refl _ := rfl
  trans _ _ _ first later := later.trans first

/-- What neither a journal nor a listing that was asked for changes is kept. -/
theorem Listable.keeps {f : Session → α}
    (told : ∀ s journal, f { s with journal := journal } = f s)
    (asked : ∀ s t request, s.Asked request t → request.kind = .list → f t = f s) :
    Listable (Session.Keeps f) where
  logs _ _ s := Ends.log (told s)
  lists listing s := (request_asks _ s).mono fun _ t h => asked s t _ h listing

theorem listable_drive : Listable (Session.Keeps (·.drive)) where
  logs _ _ _ := Ends.log fun _ => rfl
  lists {request} listing s := by
    cases answer : s.drive.answer request with
    | error e => exact (request_denied answer).mono fun _ _ h => h.2.1
    | ok result =>
      obtain ⟨value, after⟩ := result
      obtain rfl := Drive.answer_listing_same listing answer
      apply (request_granted answer).mono
      rintro outcome t ⟨_, granted⟩
      generalize drive : t.drive = after at granted
      cases granted <;> exact drive

variable {R : Session → Session → Prop} [IsPreorder Session R]

theorem Repository.along_delete (requests : ∀ request, (Operation.request request).Along R)
    (id : Json) : (delete id).Along R := (requests _).bind fun _ => along_pure _

variable (listable : Listable R)
include listable

namespace Search

theorem along_files (folder name : Option String) : (files folder name).Along R :=
  along_get.bind fun _ => along_collect listable.logs (fun _ => listable.lists rfl) _ _ _

theorem along_oneFile (folder : Option String) (name : String) : (oneFile folder name).Along R := by
  refine (along_files listable _ _).bind fun found => ?_
  split
  · exact along_pure _
  · exact (listable.logs _ _).bind fun _ => along_throw _
  · exact (listable.logs _ _).bind fun _ => along_throw _

end Search

namespace Folders

theorem along_matching (title : String) (parent : Json) : (matching title parent).Along R :=
  (along_ofExcept _ _).bind fun _ => (listable.lists rfl).bind fun _ =>
    (along_ofExcept _ _).bind fun _ => along_pure _

theorem along_only (title : String) (parent : Json) : (only title parent).Along R := by
  refine Along.bind ((along_matching listable title parent).handleIf fun _ => ?_) fun folders => ?_
  · exact (listable.logs _ _).bind fun _ => along_throw _
  · refine (along_throw _).ite ((along_ofExcept _ _).bind fun count => ?_)
    exact (along_throw _).ite (along_ofExcept _ _)

theorem along_followFrom (parent : Json) (titles : List String) :
    (followFrom parent titles).Along R := by
  induction titles generalizing parent with
  | nil => exact along_pure parent
  | cons title rest ih =>
    refine (along_matching listable title parent).bind fun folders => Along.ite ?_ ?_
    · exact (listable.logs _ _).bind fun _ => along_pure _
    · refine (along_ofExcept _ _).bind fun count => Along.ite ?_ ?_
      · exact (listable.logs _ _).bind fun _ => along_pure _
      · exact (along_ofExcept _ _).bind fun id => ih id

end Folders

namespace Repository

theorem along_filesIn (folder : Json) (name : Option String) : (filesIn folder name).Along R :=
  (along_ofExcept _ _).bind fun _ => Search.along_files listable _ _

theorem along_oneFileIn (folder : Json) (name : String) : (oneFileIn folder name).Along R :=
  (along_ofExcept _ _).bind fun _ => Search.along_oneFile listable _ _

theorem along_lookupSlots (rootId : Json) : (lookupSlots rootId).Along R :=
  Along.mapM fun _ => (Folders.along_only listable _ _).bind fun _ => along_pure _

theorem along_markerExists : markerExists.Along R := by
  refine Along.bind (along_layout.bind fun _ => along_pure _) fun folder => Along.onAnyError ?_ ?_
  · refine (along_filesIn listable _ _).bind fun found => ?_
    split <;> exact (listable.logs _ _).bind fun _ => along_pure _
  · exact fun failure => (listable.logs _ _).bind fun _ => along_pure _

variable (layouts : ∀ layout, (setLayout layout).Along R)
include layouts

theorem along_targetExists : targetExists.Along R := by
  have discovers : discover.Along R :=
    along_layout.bind fun _ => (along_lookupSlots listable _).bind fun found =>
      along_layout.bind fun _ => layouts _
  have attaches (rootId : Json) : (attach rootId).Along R := by
    refine along_layout.bind fun _ => Along.ite ?_ (along_pure _)
    refine along_layout.bind fun _ => (layouts _).bind fun _ => ?_
    exact discovers.handleIf fun _ => listable.logs _ _
  refine Along.onAnyError ?_ fun _ => (listable.logs _ _).bind fun _ => along_pure _
  refine along_layout.bind fun _ => (Folders.along_followFrom listable _ _).bind fun rootId => ?_
  refine Along.ite ((listable.logs _ _).bind fun _ => along_pure _) ?_
  exact (attaches rootId).bind fun _ => (listable.logs _ _).bind fun _ => along_pure _

variable (requests : ∀ request, (Operation.request request).Along R)
include requests

theorem along_targetCanCreate : targetCanCreate.Along R := by
  have made (title : String) : (Folders.make title .null).Along R :=
    (requests _).bind fun _ => (along_ofExcept _ _).bind fun _ =>
      (listable.logs _ _).bind fun _ => along_pure _
  refine Along.onAnyError ?_ fun _ => (listable.logs _ _).bind fun _ => along_pure _
  refine (along_targetExists listable layouts).bind fun _ => (along_pure _).ite ?_
  refine along_layout.bind fun _ => (made _).bind fun id => ?_
  refine (along_delete requests id).bind fun _ => ?_
  exact along_layout.bind fun _ => (listable.logs _ _).bind fun _ => along_pure _

theorem along_targetCanWrite (disks : ∀ disk, (setDisk disk).Along R) :
    targetCanWrite.Along R := by
  refine Along.onAnyError ?_ fun _ => (listable.logs _ _).bind fun _ => along_pure _
  refine (along_targetExists listable layouts).bind fun _ => Along.ite ?_ ?_
  · exact (listable.logs _ _).bind fun _ => along_pure _
  refine along_disk.bind fun _ => (disks _).bind fun _ => ?_
  refine Along.bind (Along.ensuring ?_ (along_disk.bind fun _ => disks _)) fun created => ?_
  · exact along_layout.bind fun _ => along_disk.bind fun _ => requests _
  · exact (along_ofExcept _ _).bind fun _ => (along_delete requests _).bind fun _ =>
      (listable.logs _ _).bind fun _ => along_pure _

end Repository

end DriveDepot
