import DriveDepot.Proofs.Along.Listings
import DriveDepot.Proofs.Changes
import DriveDepot.Proofs.Folder
import DriveDepot.Repository.Transfer

/-!
Most of what is done to a repository does not touch the layout, whatever the drive answers and
whatever faults there are. This follows from how operations are put together: those that are made of
steady ones are steady.
-/

namespace DriveDepot

namespace Drive

namespace Addressed

variable {drive : Drive} (addressed : drive.Addressed)
include addressed

theorem filter (kept : StoredFile → Bool) :
    Addressed { drive with files := drive.files.filter kept } :=
  fun file held => addressed file (List.mem_filter.mp held).1

theorem change (id : String) {f : StoredFile → StoredFile} (same : ∀ file, (f file).id = file.id) :
    (drive.change id f).Addressed := by
  intro file held
  obtain ⟨before, there, rfl⟩ := List.mem_map.mp held
  split
  · rw [same]
    exact addressed before there
  · exact addressed before there

theorem insert {title mimeType : String} {parents : List Json} {content : Bytes} {value : Json}
    {after : Drive} (answer : drive.insert title mimeType parents content = .ok (value, after)) :
    after.Addressed := by
  rw [Drive.insert] at answer
  split at answer
  · obtain ⟨_, rfl⟩ := Prod.mk.inj (Except.ok.inj answer)
    exact addressed.append _ drive.newId_ne_empty _
  · cases answer

/-- Whatever the drive does, it gives no file an empty id. -/
theorem answer {request : Request} {value : Json} {after : Drive}
    (answer : drive.answer request = .ok (value, after)) : after.Addressed := by
  cases request with
  | account =>
    obtain ⟨_, rfl⟩ := Prod.mk.inj (Except.ok.inj answer)
    exact addressed
  | listFiles | listFolders => exact answer_listing_same rfl answer ▸ addressed
  | insertFolder | insertFile => exact addressed.insert answer
  | rename file title =>
    rw [Drive.answer, Drive.rename] at answer
    split at answer
    · cases answer
    · obtain ⟨_, rfl⟩ := Prod.mk.inj (Except.ok.inj answer)
      exact addressed.change _ fun _ => rfl
  | delete file =>
    rw [Drive.answer, Drive.delete] at answer
    split at answer
    · cases answer
    · obtain ⟨_, rfl⟩ := Prod.mk.inj (Except.ok.inj answer)
      exact addressed.filter _
  | removeParent file parent =>
    rw [Drive.answer, Drive.removeParent] at answer
    split at answer
    · cases answer
    · split at answer
      · obtain ⟨_, rfl⟩ := Prod.mk.inj (Except.ok.inj answer)
        exact addressed.change _ fun _ => rfl
      · cases answer
  | addParent file parent =>
    rw [Drive.answer, Drive.addParent] at answer
    split at answer
    · obtain ⟨_, rfl⟩ := Prod.mk.inj (Except.ok.inj answer)
      exact addressed.change _ fun _ => rfl
    · cases answer

end Addressed

end Drive

/-- Two sessions under one set of faults. Only a drive that had a file with an empty id can have one
afterwards. -/
structure Session.NoWorse (s t : Session) : Prop where
  faults : t.schedule.faults = s.schedule.faults
  addressed : s.drive.Addressed → t.drive.Addressed

structure Session.Steady (s t : Session) : Prop extends s.NoWorse t where
  layout : t.layout = s.layout

namespace Session

variable {s t u : Session}

theorem NoWorse.refl (s : Session) : s.NoWorse s := ⟨rfl, id⟩

theorem NoWorse.trans (h : s.NoWorse t) (k : t.NoWorse u) : s.NoWorse u :=
  ⟨k.faults.trans h.faults, k.addressed ∘ h.addressed⟩

theorem Steady.refl (s : Session) : s.Steady s := ⟨.refl s, rfl⟩

theorem Steady.trans (h : s.Steady t) (k : t.Steady u) : s.Steady u :=
  ⟨h.toNoWorse.trans k.toNoWorse, k.layout.trans h.layout⟩

instance : IsPreorder Session Session.Steady where
  refl := .refl
  trans _ _ _ := .trans

theorem SameState.steady (same : s.SameState t) : s.Steady t :=
  ⟨⟨same.faults, fun addressed => same.drive ▸ addressed⟩, same.layout⟩

end Session

namespace Operation

/-- Wherever the operation is run, it leaves the layout, the faults and the ids in order. -/
def Steady (operation : Operation α) : Prop := ∀ s, operation.Ends s fun _ t => s.Steady t

theorem steady_pure (a : α) : (pure a : Operation α).Steady := along_pure a

theorem steady_throw (failure : Failure) : (throw failure : Operation α).Steady :=
  along_throw failure

theorem steady_ofExcept (failure : ε → Failure) (result : Except ε α) :
    (ofExcept failure result).Steady := along_ofExcept failure result

section
variable {operation other : Operation α} (first : operation.Steady)
include first

theorem Steady.bind {next : α → Operation β} (rest : ∀ a, (next a).Steady) :
    (operation >>= next).Steady := Along.bind first rest

theorem Steady.handleIf {p : Failure → Bool} {handler : Failure → Operation α}
    (handled : ∀ failure, (handler failure).Steady) : (operation.handleIf p handler).Steady :=
  Along.handleIf first handled

theorem Steady.ensuring {cleanup : Operation Unit} (cleaned : cleanup.Steady) :
    (operation.ensuring cleanup).Steady := Along.ensuring first cleaned

theorem Steady.ite {c : Prop} [Decidable c] (second : other.Steady) :
    (if c then operation else other).Steady := Along.ite first second

theorem Steady.discard : (discard operation : Operation PUnit).Steady := Along.discard first

end

theorem Steady.forM {list : List α} {f : α → Operation PUnit} (each : ∀ a, (f a).Steady) :
    (list.forM f).Steady := Along.forM each

theorem steady_get : (get : Operation Session).Steady := along_get

theorem steady_layout : layout.Steady := along_layout

theorem steady_disk : disk.Steady := along_disk

theorem steady_setDisk (disk : Disk) : (setDisk disk).Steady :=
  fun _ => ⟨⟨rfl, id⟩, rfl⟩

theorem steady_record (call : Call) : (record call).Steady :=
  fun _ => ⟨⟨rfl, id⟩, rfl⟩

theorem steady_log (level : Level) (message : String) : (log level message).Steady :=
  fun s => Ends.log fun journal => (Session.SameState.journal s journal).steady

theorem steady_log_pure (level : Level) (message : String) (a : α) :
    (do log level message; return a : Operation α).Steady :=
  (steady_log level message).bind fun _ => steady_pure a

theorem steady_log_throw (level : Level) (message : String) (failure : Failure) :
    (do log level message; throw failure : Operation α).Steady :=
  (steady_log level message).bind fun _ => steady_throw failure

theorem Steady.perform {effect : Operation Json} (effective : effect.Steady) (call : Call) :
    (perform call effect).Steady := by
  rw [Operation.perform]
  refine (steady_record call).bind fun _ => Steady.bind ?_ fun _ => steady_get.bind fun s => ?_
  · exact fun _ => ⟨⟨rfl, id⟩, rfl⟩
  -- A fault can keep the effect from happening, and it can hide that it has happened.
  · split
    · exact effective
    · split
      · exact steady_pure _
      · split
        · exact effective.discard.bind fun _ => steady_throw _
        · exact steady_throw _

theorem steady_answer (request : Request) : (answer request).Steady := by
  intro s
  apply (answer_ends request s).mono
  intro outcome t answered
  cases answered with
  | done answer => exact ⟨⟨rfl, fun addressed => addressed.answer answer⟩, rfl⟩
  | refused => exact .refl _

theorem steady_request (request : Request) : (Operation.request request).Steady :=
  (steady_answer request).perform _

end Operation

namespace Repository

open Operation

theorem listable_steady : Listable Session.Steady := ⟨steady_log, fun _ => steady_request _⟩

theorem steady_folderFor (category : Category) : (folderFor category).Steady :=
  steady_layout.bind fun _ => steady_pure _

theorem steady_filesIn (folder : Json) (name : Option String) : (filesIn folder name).Steady :=
  along_filesIn listable_steady folder name

theorem steady_oneFileIn (folder : Json) (name : String) : (oneFileIn folder name).Steady :=
  along_oneFileIn listable_steady folder name

theorem steady_lookupSlots (rootId : Json) : (lookupSlots rootId).Steady :=
  along_lookupSlots listable_steady rootId

theorem steady_markerExists : markerExists.Steady := along_markerExists listable_steady

theorem steady_make (title : String) (parent : Json) : (Folders.make title parent).Steady :=
  (steady_request _).bind fun _ => (steady_ofExcept _ _).bind fun _ =>
    steady_log_pure _ _ _

theorem steady_makeEach (parent : Json) (titles : List String) :
    (Folders.makeEach parent titles).Steady := by
  induction titles generalizing parent with
  | nil => exact steady_pure parent
  | cons title rest ih =>
    refine Steady.bind ((steady_make title parent).handleIf ?_) fun id => ih id
    exact fun _ => steady_log_throw _ _ _

theorem steady_makePath (titles : List String) (parent : Json) :
    (Folders.makePath titles parent).Steady :=
  (steady_throw _).ite (steady_makeEach parent titles)

theorem steady_rename (file : Json) (title : String) : (rename file title).Steady :=
  (steady_request _).bind fun _ => steady_pure _

theorem steady_delete (file : Json) : (delete file).Steady :=
  (steady_request _).bind fun _ => steady_pure _

theorem steady_upload (source : LocalPath) (file : RemoteFile) : (upload source file).Steady := by
  rw [upload]
  refine (steady_folderFor _).bind fun folder => Steady.bind (Steady.handleIf ?_ ?_) ?_
  · refine (steady_log _ _).bind fun _ => steady_disk.bind fun disk => ?_
    refine (steady_ofExcept _ _).bind fun content => (steady_request _).bind fun inserted => ?_
    refine (steady_log _ _).bind fun _ => (steady_ofExcept _ _).bind fun id => ?_
    exact steady_rename _ _
  · exact fun failure => steady_log_throw _ _ _
  · exact fun confirmed =>
      (steady_log_throw _ _ _).ite (steady_pure _)

theorem steady_fetchChunks (content : Bytes) (bound : Nat) :
    (fetchChunks content bound).Steady := by
  induction bound with
  | zero => exact steady_throw _
  | succ bound ih =>
    have chunk : (writeChunk content).Steady :=
      steady_get.bind fun _ => (steady_setDisk _).bind fun _ => steady_pure _
    refine (chunk.perform _).bind fun answer => (steady_ofExcept _ _).bind fun last => ?_
    exact ih.ite (steady_pure _)

theorem steady_fetch (id : String) : (fetch id).Steady := by
  refine (steady_record _).bind fun _ => steady_get.bind fun s => ?_
  split
  · exact steady_throw _
  · exact steady_fetchChunks _ _

theorem steady_stage (target : LocalPath) : (stage target).Steady :=
  Steady.handleIf (steady_disk.bind fun _ => (steady_ofExcept _ _).bind fun _ => steady_setDisk _)
    fun _ => steady_throw _

theorem steady_unstage (target : LocalPath) : (unstage target).Steady :=
  steady_disk.bind fun _ => (steady_ofExcept _ _).bind fun _ => steady_setDisk _

theorem steady_fetchTo (target : LocalPath) (name id : String) :
    (fetchTo target name id).Steady := by
  refine Steady.handleIf ?_ fun failure => steady_log_throw _ _ _
  refine (steady_log _ _).bind fun _ => (steady_fetch id).bind fun _ => ?_
  refine (steady_log _ _).bind fun _ => steady_disk.bind fun disk => ?_
  exact (steady_ofExcept _ _).bind fun _ => steady_setDisk _

theorem steady_download (file : RemoteFile) (target : LocalPath) :
    (download file target).Steady := by
  rw [download]
  refine (steady_pure _).ite ?_
  refine (steady_folderFor _).bind fun folder => (steady_oneFileIn _ _).bind fun found => ?_
  have fetched :
      (do stage target; ensuring (fetchTo target file.name found.id) (unstage target)).Steady :=
    (steady_stage _).bind fun _ => (steady_fetchTo _ _ _).ensuring (steady_unstage _)
  exact Steady.ite ((steady_throw _).bind fun _ => fetched) fetched

theorem steady_deleteFound (name : String) (found : FoundFile) :
    (deleteFound name found).Steady := by
  refine Steady.handleIf ((steady_log _ _).bind fun _ => steady_delete _) fun failure => ?_
  exact (steady_log _ _).ite (steady_log_throw _ _ _)

theorem steady_remove (file : RemoteFile) : (remove file).Steady :=
  (steady_folderFor _).bind fun _ => (steady_filesIn _ _).bind fun _ =>
    Steady.forM fun _ => steady_deleteFound _ _

theorem steady_moveTitle (source target : RemoteFile) (id : String) :
    (moveTitle source target id).Steady := by
  rw [moveTitle]
  refine (steady_pure _).ite ?_
  refine (steady_log _ _).bind fun _ => (steady_rename _ _).bind fun confirmed => ?_
  refine Steady.ite ((steady_log _ _).bind fun _ => ?_) (steady_pure true)
  exact (steady_throw _).bind fun _ => steady_pure true

theorem steady_moveFolder (name sourceFolder targetFolder id : String) :
    (moveFolder name sourceFolder targetFolder id).Steady := by
  rw [moveFolder]
  refine (steady_pure _).ite ?_
  exact (steady_log _ _).bind fun _ => (steady_request _).bind fun _ =>
    (steady_request _).bind fun _ => steady_pure _

theorem steady_locate (source target : RemoteFile) : (locate source target).Steady := by
  rw [locate]
  refine (steady_folderFor _).bind fun _ => (steady_oneFileIn _ _).bind fun file => ?_
  refine (steady_folderFor _).bind fun _ => (steady_filesIn _ _).bind fun replaced => ?_
  exact Steady.ite ((steady_throw _).bind fun _ => steady_pure _) (steady_pure _)

theorem steady_deleteReplaced (modified : Bool) (targetText : String) (listed : List FoundFile) :
    (deleteReplaced modified targetText listed).Steady := by
  cases listed with
  | nil => exact steady_pure _
  | cons old rest =>
    exact Steady.ite ((steady_log _ _).bind fun _ => steady_delete _) (steady_pure _)

theorem steady_move (source target : RemoteFile) : (move source target).Steady := by
  rw [move]
  refine (steady_folderFor _).bind fun _ => (steady_folderFor _).bind fun _ => ?_
  refine Steady.handleIf ?_ fun _ => steady_log_throw _ _ _
  refine (steady_locate _ _).bind fun located => (steady_moveTitle _ _ _).bind fun renamed => ?_
  exact (steady_moveFolder _ _ _ _).bind fun moved => steady_deleteReplaced _ _ _

theorem steady_list (category : Category) : (list category).Steady := by
  have note (file : FoundFile) : (noteRefused category file).Steady :=
    Steady.ite (steady_log _ _) (steady_pure _)
  exact (steady_folderFor _).bind fun _ => (steady_filesIn _ _).bind fun _ =>
    (Steady.forM note).bind fun _ => steady_pure _

theorem steady_connect : connect.Steady := by
  refine Steady.bind (Steady.handleIf ?_ ?_) fun _ => (steady_ofExcept _ _).bind fun _ => ?_
  · exact ((steady_pure _).perform _).bind fun _ => steady_request _
  · exact fun _ => steady_log_throw _ _ _
  · exact steady_log _ _

end Repository

end DriveDepot
