import DriveDepot.Command.Run
import DriveDepot.Proofs.Twins

namespace DriveDepot

open Operation

variable {hidden : Place → Prop} {ground : Disk}

/-- The path leads to no hidden place. -/
def Disk.Shows (ground : Disk) (hidden : Place → Prop) (path : LocalPath) : Prop :=
  ∀ place, ground.locate path = .ok place → ¬ hidden place

namespace Search

theorem inStep_page (query : String) (found : List FoundFile) (token : Json) :
    InStep hidden ground (page query found token) (page query found token) := by
  have listing : InStep hidden ground (some <$> request (.listFiles query token))
      (some <$> request (.listFiles query token)) := by
    rw [map_eq_pure_bind]
    exact (inStep_request _).bind fun _ => inStep_pure _
  exact listing.onProviderError fun _ _ _ => inStep_log_pure _ _ _ _

theorem inStep_collect (query : String) (bound : Nat) (found : List FoundFile) (token : Json) :
    InStep hidden ground (collect query bound found token) (collect query bound found token) := by
  induction bound generalizing found token with
  | zero => exact inStep_throw (.same _)
  | succ bound ih =>
    apply (inStep_page query found token).bind
    rintro (_ | response)
    · exact inStep_pure found
    · refine (inStep_ofExcept _ _).bind fun more => (inStep_ofExcept _ _).bind fun next => ?_
      exact (inStep_pure _).ite (ih _ _)

theorem inStep_files (folder name : Option String) :
    InStep hidden ground (files folder name) (files folder name) := by
  refine InStep.get_bind fun s t twins => ?_
  have same : pageBound t = pageBound s := by
    rw [pageBound, pageBound, Schedule.lastNumber_of_faults twins.faults, twins.drive]
  rw [same]
  exact inStep_collect _ _ _ _

theorem inStep_oneFile (folder : Option String) (name : String) :
    InStep hidden ground (oneFile folder name) (oneFile folder name) := by
  apply (inStep_files folder name).bind
  intro found
  split
  · exact inStep_pure _
  · exact inStep_log_throw _ _ _ (.same _)
  · exact inStep_log_throw _ _ _ (.same _)

end Search

namespace Folders

theorem inStep_make (title : String) (parent : Json) :
    InStep hidden ground (make title parent) (make title parent) :=
  (inStep_request _).bind fun _ => (inStep_ofExcept _ _).bind fun _ => inStep_log_pure _ _ _ _

theorem inStep_makeEach (parent : Json) (titles : List String) :
    InStep hidden ground (makeEach parent titles) (makeEach parent titles) := by
  induction titles generalizing parent with
  | nil => exact inStep_pure parent
  | cons title rest ih =>
    refine InStep.bind ((inStep_make title parent).onProviderError ?_) fun id => ih id
    exact fun _ _ alike => inStep_log_throw _ _ _ (alike.wrap _)

theorem inStep_makePath (titles : List String) (parent : Json) :
    InStep hidden ground (makePath titles parent) (makePath titles parent) :=
  (inStep_throw (.same _)).ite (inStep_makeEach parent titles)

theorem inStep_matching (title : String) (parent : Json) :
    InStep hidden ground (matching title parent) (matching title parent) :=
  (inStep_ofExcept _ _).bind fun _ => (inStep_request _).bind fun _ =>
    (inStep_ofExcept _ _).bind fun _ => inStep_pure _

theorem inStep_only (title : String) (parent : Json) :
    InStep hidden ground (only title parent) (only title parent) := by
  refine InStep.bind ((inStep_matching title parent).onProviderError ?_) fun folders => ?_
  · exact fun _ _ alike => inStep_log_throw _ _ _ (alike.wrap _)
  · exact (inStep_throw (.same _)).ite ((inStep_ofExcept _ _).bind fun count =>
      (inStep_throw (.same _)).ite (inStep_ofExcept _ _))

theorem inStep_followFrom (parent : Json) (titles : List String) :
    InStep hidden ground (followFrom parent titles) (followFrom parent titles) := by
  induction titles generalizing parent with
  | nil => exact inStep_pure parent
  | cons title rest ih =>
    refine (inStep_matching title parent).bind fun folders => ?_
    refine (inStep_log_pure _ _ _ _).ite ((inStep_ofExcept _ _).bind fun count => ?_)
    refine (inStep_log_pure _ _ _ _).ite ((inStep_ofExcept _ _).bind fun id => ih id)

end Folders

namespace Repository

theorem inStep_connect : InStep hidden ground connect connect := by
  have renewal : InStep hidden ground (perform .refresh (pure .null))
      (perform .refresh (pure .null)) := InStep.perform (by simp [Call.kind]) (inStep_pure _)
  refine InStep.bind (InStep.onProviderError (renewal.bind fun _ => inStep_request _) ?_) ?_
  · exact fun _ _ alike => inStep_log_throw _ _ _ (alike.wrap _)
  · exact fun _ => (inStep_ofExcept _ _).bind fun _ => inStep_log _ _ _

theorem inStep_lookupSlots (rootId : Json) :
    InStep hidden ground (lookupSlots rootId) (lookupSlots rootId) :=
  InStep.mapM fun _ => (Folders.inStep_only _ _).bind fun _ => inStep_pure _

theorem inStep_discover : InStep hidden ground discover discover :=
  inStep_layout.bind fun _ => (inStep_lookupSlots _).bind fun _ =>
    inStep_layout.bind fun _ => inStep_setLayout _

theorem inStep_attach (rootId : Json) : InStep hidden ground (attach rootId) (attach rootId) := by
  refine inStep_layout.bind fun layout => InStep.ite ?_ (inStep_pure ())
  refine inStep_layout.bind fun _ => (inStep_setLayout _).bind fun _ => ?_
  exact inStep_discover.onStorageError fun _ _ _ => inStep_log _ _ _

theorem inStep_probe {operation : Operation Bool} (h : InStep hidden ground operation operation)
    {level : Level} (told : Failure → String) :
    InStep hidden ground (probe operation fun failure => log level (told failure))
      (probe operation fun failure => log level (told failure)) :=
  h.onAnyError fun _ _ _ => inStep_log_pure _ _ _ _

theorem inStep_targetExists : InStep hidden ground targetExists targetExists := by
  refine inStep_probe (inStep_layout.bind fun layout => ?_) _
  refine (Folders.inStep_followFrom .null _).bind fun rootId => ?_
  refine (inStep_log_pure _ _ _ _).ite ((inStep_attach rootId).bind fun _ => ?_)
  exact inStep_log_pure _ _ _ _

theorem inStep_createRoot : InStep hidden ground createRoot createRoot :=
  inStep_layout.bind fun _ => (Folders.inStep_makePath _ _).bind fun _ =>
    inStep_layout.bind fun _ => inStep_setLayout _

theorem inStep_createSlots : InStep hidden ground createSlots createSlots := by
  have slot (slot : Slot) : InStep hidden ground (createSlot slot) (createSlot slot) :=
    inStep_layout.bind fun _ => (Folders.inStep_makePath _ _).bind fun _ =>
      inStep_layout.bind fun _ => inStep_setLayout _
  exact (InStep.forM slot).bind fun _ => inStep_layout.bind fun _ => inStep_setLayout _

theorem inStep_prepare (wanted : Bool) :
    InStep hidden ground (prepare wanted) (prepare wanted) := by
  have ensured : InStep hidden ground (ensureRoot wanted) (ensureRoot wanted) :=
    inStep_targetExists.bind fun _ => inStep_createRoot.ite (inStep_pure ())
  have required : InStep hidden ground requireRoot requireRoot :=
    inStep_layout.bind fun _ => (inStep_throw (.same _)).ite (inStep_pure ())
  refine InStep.ensuring (InStep.onStorageError ?_ ?_) (inStep_pure ())
  · exact inStep_connect.bind fun _ => ensured.bind fun _ => required.bind fun _ =>
      inStep_createSlots
  · exact fun _ _ alike => inStep_log_throw _ _ _ alike

theorem inStep_folderFor (category : Category) :
    InStep hidden ground (folderFor category) (folderFor category) :=
  inStep_layout.bind fun _ => inStep_pure _

theorem inStep_filesIn (folder : Json) (name : Option String) :
    InStep hidden ground (filesIn folder name) (filesIn folder name) :=
  (inStep_ofExcept _ _).bind fun _ => Search.inStep_files _ _

theorem inStep_oneFileIn (folder : Json) (name : String) :
    InStep hidden ground (oneFileIn folder name) (oneFileIn folder name) :=
  (inStep_ofExcept _ _).bind fun _ => Search.inStep_oneFile _ _

theorem inStep_rename (file : Json) (title : String) :
    InStep hidden ground (rename file title) (rename file title) :=
  (inStep_request _).bind fun _ => inStep_pure _

theorem inStep_delete (file : Json) : InStep hidden ground (delete file) (delete file) :=
  (inStep_request _).bind fun _ => inStep_pure _

theorem inStep_discard : InStep hidden ground (do setDisk (← disk).discard)
    (do setDisk (← disk).discard) :=
  InStep.disk_bind fun _ _ disks => inStep_setDisk disks.discard

theorem inStep_unstage (target : LocalPath) :
    InStep hidden ground (unstage target) (unstage target) := by
  refine InStep.disk_bind fun x y disks => ?_
  obtain ⟨fault, left, right⟩ | ⟨x', y', left, right, removed⟩ := disks.unlink target
  · rw [left, right]
    exact inStep_throw (.same _)
  · rw [left, right]
    exact inStep_setDisk removed

theorem inStep_targetCanWrite : InStep hidden ground targetCanWrite targetCanWrite := by
  refine inStep_probe (inStep_targetExists.bind fun found => ?_) _
  refine (inStep_log_pure _ _ _ _).ite (InStep.disk_bind fun x y disks => ?_)
  refine (inStep_setDisk (disks.stageTemporary _ _)).bind fun _ => InStep.bind ?_ fun created => ?_
  · refine InStep.ensuring (inStep_layout.bind fun layout => ?_) inStep_discard
    refine InStep.disk_bind fun x y disks => ?_
    rw [disks.staged]
    exact inStep_request _
  · exact (inStep_ofExcept _ _).bind fun _ => (inStep_delete _).bind fun _ =>
      inStep_log_pure _ _ _ _

theorem inStep_targetCanCreate : InStep hidden ground targetCanCreate targetCanCreate := by
  refine inStep_probe (inStep_targetExists.bind fun found => (inStep_pure _).ite ?_) _
  refine inStep_layout.bind fun layout => (Folders.inStep_make _ _).bind fun id => ?_
  exact (inStep_delete _).bind fun _ => inStep_layout.bind fun _ => inStep_log_pure _ _ _ _

theorem inStep_markerExists : InStep hidden ground markerExists markerExists := by
  refine (inStep_folderFor _).bind fun folder => inStep_probe ?_ _
  refine (inStep_filesIn _ _).bind fun found => ?_
  split <;> exact inStep_log_pure _ _ _ _

theorem inStep_upload {source : LocalPath} (shown : ground.Shows hidden source)
    (file : RemoteFile) : InStep hidden ground (upload source file) (upload source file) := by
  rw [upload]
  refine (inStep_folderFor _).bind fun folder => InStep.bind (InStep.onProviderError ?_ ?_) ?_
  · refine (inStep_log _ _ _).bind fun _ => InStep.disk_bind fun x y disks => ?_
    refine InStep.ofDisk_bind (disks.read shown) ?_
    rintro content _ rfl
    refine (inStep_request _).bind fun inserted => (inStep_log _ _ _).bind fun _ => ?_
    exact (inStep_ofExcept _ _).bind fun id => inStep_rename _ _
  · exact fun _ _ alike => inStep_log_throw _ _ _ (alike.wrap _)
  · exact fun confirmed => (inStep_log_throw _ _ _ (.same _)).ite (inStep_pure ())

theorem inStep_fetchChunks (content : Bytes) (bound : Nat) :
    InStep hidden ground (fetchChunks content bound) (fetchChunks content bound) := by
  induction bound with
  | zero => exact inStep_throw (.same _)
  | succ bound ih =>
    have chunk : InStep hidden ground (writeChunk content) (writeChunk content) := by
      refine InStep.get_bind fun s t twins => ?_
      have grown :=
        twins.disk.append ((content.drop s.disk.staged.length).take s.drive.chunkSize)
      simp only [twins.drive, twins.disk.staged, grown.staged]
      exact (inStep_setDisk grown).bind fun _ => inStep_pure _
    refine (InStep.perform (by simp [Call.kind]) chunk).bind fun answer => ?_
    exact (inStep_ofExcept _ _).bind fun last => ih.ite (inStep_pure ())

theorem inStep_fetch (id : String) : InStep hidden ground (fetch id) (fetch id) := by
  refine (inStep_record _).bind fun _ => InStep.get_bind fun s t twins => ?_
  rw [twins.drive]
  split
  · exact inStep_throw (.same _)
  · rw [chunkBound, chunkBound, Schedule.lastNumber_of_faults twins.faults]
    exact inStep_fetchChunks _ _

theorem inStep_stage (target : LocalPath) :
    InStep hidden ground (stage target) (stage target) := by
  refine InStep.onProviderError (InStep.disk_bind fun x y disks => ?_) ?_
  · exact InStep.ofDisk_bind (disks.stage target) fun _ _ staged => inStep_setDisk staged
  · exact fun _ _ alike => inStep_throw (alike.wrap _)

theorem inStep_fetchTo {target : LocalPath} (shown : ground.Shows hidden target)
    (name id : String) :
    InStep hidden ground (fetchTo target name id) (fetchTo target name id) := by
  refine InStep.onProviderError ((inStep_log _ _ _).bind fun _ => ?_) ?_
  · refine (inStep_fetch id).bind fun _ => (inStep_log _ _ _).bind fun _ => ?_
    refine InStep.disk_bind fun x y disks => ?_
    exact InStep.ofDisk_bind (disks.commit shown) fun _ _ written => inStep_setDisk written
  · exact fun _ _ alike => inStep_log_throw _ _ _ (alike.wrap _)

theorem inStep_download (file : RemoteFile) {target : LocalPath}
    (shown : ground.Shows hidden target) :
    InStep hidden ground (download file target) (download file target) := by
  rw [download]
  refine (inStep_pure ()).ite ((inStep_folderFor _).bind fun folder => ?_)
  refine (inStep_oneFileIn _ _).bind fun found => ?_
  have fetched : InStep hidden ground
      (do stage target; ensuring (fetchTo target file.name found.id) (unstage target))
      (do stage target; ensuring (fetchTo target file.name found.id) (unstage target)) :=
    (inStep_stage target).bind fun _ => (inStep_fetchTo shown _ _).ensuring (inStep_unstage _)
  exact ((inStep_throw (.same _)).bind fun _ => fetched).ite fetched

theorem inStep_remove (file : RemoteFile) :
    InStep hidden ground (remove file) (remove file) := by
  refine (inStep_folderFor _).bind fun _ => (inStep_filesIn _ _).bind fun found => ?_
  refine InStep.forM fun one => InStep.onProviderError ?_ fun failure failure' alike => ?_
  · exact (inStep_log _ _ _).bind fun _ => inStep_delete _
  · rw [alike.isNotFound]
    exact (inStep_log _ _ _).ite (inStep_log_throw _ _ _ (alike.wrap _))

theorem inStep_locate (source target : RemoteFile) :
    InStep hidden ground (locate source target) (locate source target) := by
  rw [locate]
  refine (inStep_folderFor _).bind fun _ => (inStep_oneFileIn _ _).bind fun file => ?_
  refine (inStep_folderFor _).bind fun _ => (inStep_filesIn _ _).bind fun replaced => ?_
  exact ((inStep_throw (.same _)).bind fun _ => inStep_pure _).ite (inStep_pure _)

theorem inStep_moveTitle (source target : RemoteFile) (id : String) :
    InStep hidden ground (moveTitle source target id) (moveTitle source target id) := by
  rw [moveTitle]
  refine (inStep_pure _).ite ((inStep_log _ _ _).bind fun _ => ?_)
  refine (inStep_rename _ _).bind fun confirmed => InStep.ite ?_ (inStep_pure true)
  exact (inStep_log _ _ _).bind fun _ => (inStep_throw (.same _)).bind fun _ => inStep_pure true

theorem inStep_moveFolder (name sourceFolder targetFolder id : String) :
    InStep hidden ground (moveFolder name sourceFolder targetFolder id)
      (moveFolder name sourceFolder targetFolder id) := by
  rw [moveFolder]
  refine (inStep_pure _).ite ((inStep_log _ _ _).bind fun _ => ?_)
  exact (inStep_request _).bind fun _ => (inStep_request _).bind fun _ => inStep_pure _

theorem inStep_move (source target : RemoteFile) :
    InStep hidden ground (move source target) (move source target) := by
  have replaced (modified : Bool) (targetText : String) (listed : List FoundFile) :
      InStep hidden ground (deleteReplaced modified targetText listed)
        (deleteReplaced modified targetText listed) := by
    cases listed with
    | nil => exact inStep_pure _
    | cons old rest =>
      exact ((inStep_log _ _ _).bind fun _ => inStep_delete _).ite (inStep_pure _)
  rw [move]
  refine (inStep_folderFor _).bind fun _ => (inStep_folderFor _).bind fun _ => ?_
  refine InStep.handleIf ?_ (fun failure failure' alike => ?_) ?_
  · exact (inStep_locate _ _).bind fun located => (inStep_moveTitle _ _ _).bind fun renamed =>
      (inStep_moveFolder _ _ _ _).bind fun moved => replaced _ _ _
  · rw [alike.isStorage, alike.isProvider]
  · exact fun _ _ alike => inStep_log_throw _ _ _ (alike.wrap _)

theorem inStep_list (category : Category) :
    InStep hidden ground (list category) (list category) := by
  have note (file : FoundFile) :
      InStep hidden ground (noteRefused category file) (noteRefused category file) :=
    (inStep_log _ _ _).ite (inStep_pure ())
  exact (inStep_folderFor _).bind fun _ => (inStep_filesIn _ _).bind fun _ =>
    (InStep.forM note).bind fun _ => inStep_pure _

end Repository

namespace Command

/-- The local paths that a command is given. -/
def localPaths : Command → List LocalPath
  | .upload source _ => [source]
  | .download _ target => target.toList
  | _ => []

theorem inStep_operate (command : Command)
    (shown : ∀ path ∈ command.localPaths, ground.Shows hidden path) :
    InStep hidden ground command.operate command.operate := by
  have named (file : FileArgument) : InStep hidden ground (remoteFile file) (remoteFile file) :=
    inStep_ofExcept _ _
  cases command with
  | auth => exact inStep_pure ()
  | init wanted =>
    exact (Repository.inStep_prepare wanted).bind fun _ =>
      inStep_layout.bind fun _ => inStep_log _ _ _
  | test =>
    refine Repository.inStep_targetExists.bind fun _ => (inStep_print _).bind fun _ => ?_
    refine Repository.inStep_targetCanWrite.bind fun _ => (inStep_print _).bind fun _ => ?_
    refine Repository.inStep_targetCanCreate.bind fun _ => (inStep_print _).bind fun _ => ?_
    exact Repository.inStep_markerExists.bind fun _ => inStep_print _
  | list category =>
    exact (Repository.inStep_list category).bind fun _ => InStep.forM fun _ => inStep_print _
  | upload source file =>
    have shown := shown source (by simp [localPaths])
    exact (named file).bind fun _ => Repository.inStep_upload shown _
  | download file target =>
    refine (named file).bind fun _ => ?_
    cases target with
    | none => exact (inStep_pure ()).ite (inStep_throw (.same _))
    | some target => exact Repository.inStep_download _ (shown target (by simp [localPaths]))
  | move source target =>
    exact (named source).bind fun _ => (named target).bind fun _ => Repository.inStep_move _ _
  | remove file => exact (named file).bind fun _ => Repository.inStep_remove _

/-- No command makes a directory or removes one. -/
theorem operate_sameWays (command : Command) (s : Session) :
    command.operate.Ends s fun _ t => s.disk.SameWays t.disk := by
  have self : s.Twins (fun _ => False) s.disk s :=
    ⟨rfl, rfl, rfl, fun _ _ _ => rfl, rfl, .self s.disk⟩
  exact (command.inStep_operate (fun _ _ _ _ => id) s s self).2.disk.left

end Command

end DriveDepot
