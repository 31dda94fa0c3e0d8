import DriveDepot.Command.Run
import DriveDepot.Proofs.FailsWith

namespace DriveDepot

namespace Operation

theorem guarded_storageError (error : StorageError) :
    (storageError error : Operation α).Guarded := failsWith_throw rfl

theorem guarded_ofMishap (result : Except Mishap α) : (ofMishap result).Guarded :=
  failsWith_ofExcept Failure.ofMishap (fun _ => rfl) result

section
variable {operation : Operation α}

/-- Of an operation whose failures are handled nothing is left but what the handler lets out. -/
theorem guarded_handleIf {p : Failure → Bool} {handler : Failure → Operation α}
    (handles : ∀ failure, failure.isProvider = true → p failure = true)
    (handled : ∀ failure, (handler failure).Guarded) : (operation.handleIf p handler).Guarded :=
  failsWith_handleIf (fun _ failure _ unhandled =>
    Bool.eq_false_iff.mpr fun provider => absurd (handles failure provider) (by simp [unhandled]))
    handled

theorem guarded_onProviderError {handler : Failure → Operation α}
    (handled : ∀ failure, (handler failure).Guarded) :
    (operation.onProviderError handler).Guarded :=
  guarded_handleIf (fun _ provider => provider) handled

theorem guarded_onAnyError {handler : Failure → Operation α}
    (handled : ∀ failure, (handler failure).Guarded) : (operation.onAnyError handler).Guarded :=
  guarded_handleIf (fun _ provider => Failure.isRaised_of_isProvider provider) handled

end

/-- A report is a failure of the storage. -/
theorem guarded_report (level : Level) (message : String) (error : StorageError)
    (failure : Failure) :
    (do log level message; throw (failure.wrap error) : Operation α).Guarded :=
  (failsWith_log level message).bind fun _ => failsWith_throw (failure.isProvider_wrap error)

theorem guarded_log_pure (level : Level) (message : String) (a : α) :
    (do log level message; return a : Operation α).Guarded :=
  (failsWith_log level message).bind fun _ => failsWith_pure a

end Operation

open Operation

namespace Search

theorem guarded_files (folder name : Option String) : (files folder name).Guarded := by
  have guarded_collect (query : String) (bound : Nat) (found : List FoundFile) (token : Json) :
      (collect query bound found token).Guarded := by
    induction bound generalizing found token with
    | zero => exact failsWith_throw rfl
    | succ bound ih =>
      refine FailsWith.bind (guarded_onProviderError fun _ => guarded_log_pure _ _ _) ?_
      rintro (_ | response)
      · exact failsWith_pure found
      · refine (guarded_ofMishap _).bind fun more => (guarded_ofMishap _).bind fun next => ?_
        exact (failsWith_pure _).ite (ih _ _)
  exact failsWith_get.bind fun _ => guarded_collect _ _ _ _

theorem guarded_oneFile (folder : Option String) (name : String) :
    (oneFile folder name).Guarded := by
  apply (guarded_files folder name).bind
  intro found
  split
  · exact failsWith_pure _
  · exact (failsWith_log _ _).bind fun _ => guarded_storageError _
  · exact (failsWith_log _ _).bind fun _ => guarded_storageError _

end Search

namespace Folders

theorem guarded_makePath (titles : List String) (parent : Json) :
    (makePath titles parent).Guarded := by
  have guarded_makeEach (parent : Json) : (makeEach parent titles).Guarded := by
    induction titles generalizing parent with
    | nil => exact failsWith_pure parent
    | cons title rest ih =>
      exact (guarded_onProviderError fun _ => guarded_report _ _ _ _).bind fun id => ih id
  exact (guarded_storageError _).ite (guarded_makeEach parent)

end Folders

namespace Repository

theorem guarded_connect : connect.Guarded :=
  (guarded_onProviderError fun _ => guarded_report _ _ _ _).bind fun _ =>
    (guarded_ofMishap _).bind fun _ => failsWith_log _ _

theorem guarded_probe {operation : Operation Bool} {onFailure : Failure → Operation Unit}
    (told : ∀ failure, (onFailure failure).Guarded) : (probe operation onFailure).Guarded :=
  guarded_onAnyError fun failure => (told failure).bind fun _ => failsWith_pure _

theorem guarded_prepare (wanted : Bool) : (prepare wanted).Guarded := by
  have recording (titles : List String) (record : Layout → Json → Layout) :
      (do
        let id ← Folders.makePath titles (← layout).rootId
        setLayout (record (← layout) id) : Operation Unit).Guarded :=
    failsWith_layout.bind fun _ => (Folders.guarded_makePath _ _).bind fun _ =>
      failsWith_layout.bind fun _ => failsWith_modify _
  have rooted : createRoot.Guarded :=
    failsWith_layout.bind fun _ => (Folders.guarded_makePath _ _).bind fun _ =>
      failsWith_layout.bind fun _ => failsWith_modify _
  have ensured : (ensureRoot wanted).Guarded :=
    (guarded_probe fun _ => failsWith_log _ _).bind fun _ => rooted.ite (failsWith_pure ())
  have required : requireRoot.Guarded :=
    failsWith_layout.bind fun _ => (guarded_storageError _).ite (failsWith_pure ())
  have furnished : createSlots.Guarded :=
    (FailsWith.forM fun slot : Slot => recording [slot.title] (·.setSlot slot ·)).bind fun _ =>
      failsWith_layout.bind fun _ => failsWith_modify _
  have steps := guarded_connect.bind fun _ => ensured.bind fun _ => required.bind fun _ => furnished
  refine FailsWith.ensuring ?_ (failsWith_pure ())
  intro s
  refine (steps s).handleIf (fun _ _ h => h) ?_ fun _ _ _ h => h
  intro failure t _ held
  refine Ends.log_bind fun journal => ends_throw.mpr ?_
  rintro _ ⟨⟩
  exact held failure rfl

theorem guarded_folderFor (category : Category) : (folderFor category).Guarded :=
  failsWith_layout.bind fun _ => failsWith_pure _

theorem guarded_filesIn (folder : Json) (name : Option String) : (filesIn folder name).Guarded :=
  (guarded_ofMishap _).bind fun _ => Search.guarded_files _ _

theorem guarded_oneFileIn (folder : Json) (name : String) : (oneFileIn folder name).Guarded :=
  (guarded_ofMishap _).bind fun _ => Search.guarded_oneFile _ _

theorem guarded_markerExists : markerExists.Guarded :=
  (guarded_folderFor _).bind fun _ => guarded_probe fun _ => failsWith_log _ _

theorem guarded_upload (source : LocalPath) (file : RemoteFile) : (upload source file).Guarded := by
  rw [upload]
  refine (guarded_folderFor _).bind fun folder => ?_
  refine (guarded_onProviderError fun _ => guarded_report _ _ _ _).bind fun confirmed => ?_
  exact ((failsWith_log _ _).bind fun _ => guarded_storageError _).ite (failsWith_pure ())

theorem guarded_stage (target : LocalPath) : (stage target).Guarded :=
  guarded_onProviderError fun _ => failsWith_throw (Failure.isProvider_wrap _ _)

theorem guarded_fetchTo (target : LocalPath) (name id : String) :
    (fetchTo target name id).Guarded :=
  guarded_onProviderError fun _ => guarded_report _ _ _ _

/-- The failure says that the temporary file, which is still there, may not be removed. -/
def Stuck (target : LocalPath) (t : Session) (failure : Failure) : Prop :=
  ∃ fault, t.disk.unlink target = .error fault ∧ failure = .ofDisk fault

/-- Of the file system a download lets out as it is nothing but that. -/
theorem download_lets_out (file : RemoteFile) (target : LocalPath) (s : Session) :
    (download file target).Ends s fun outcome t => ∀ failure, outcome = .error failure →
      failure.isProvider = false ∨ Stuck target t failure := by
  let LetsOut (outcome : Except Failure Unit) (t : Session) : Prop :=
    ∀ failure, outcome = .error failure → failure.isProvider = false ∨ Stuck target t failure
  have step {α : Type} {first : Operation α} (guarded : first.Guarded) {next : α → Operation Unit}
      {s : Session} (rest : ∀ a t, (next a).Ends t LetsOut) : (first >>= next).Ends s LetsOut := by
    refine (guarded s).bind (fun a t _ => rest a t) ?_
    rintro failure t held _ ⟨⟩
    exact .inl (held failure rfl)
  have fetched (found : FoundFile) (t : Session) :
      (do stage target; ensuring (fetchTo target file.name found.id) (unstage target)).Ends t
        LetsOut := by
    refine step (guarded_stage target) fun _ t => ?_
    refine (guarded_fetchTo target file.name found.id t).ensuring (fun outcome t held => ?_) ?_
    · rw [unstage, ends_disk_bind]
      refine Ends.ofExcept_bind (fun after removed => ?_) fun fault refused => ?_
      · exact fun failure failed => .inl (held failure failed)
      · rintro _ ⟨⟩
        exact .inr ⟨fault, refused, rfl⟩
    · exact fun t held failure failed => .inl (held failure failed)
  rw [download]
  split
  · rintro _ ⟨⟩
  · refine step (guarded_folderFor _) fun folder t => step (guarded_oneFileIn _ _) fun found t => ?_
    split
    · exact step (guarded_storageError _) fun _ t => fetched found t
    · exact fetched found t

theorem guarded_remove (file : RemoteFile) : (remove file).Guarded := by
  refine (guarded_folderFor _).bind fun _ => (guarded_filesIn _ _).bind fun found => ?_
  refine FailsWith.forM fun one => guarded_onProviderError fun failure => ?_
  exact (failsWith_log _ _).ite (guarded_report _ _ _ _)

theorem guarded_move (source target : RemoteFile) : (move source target).Guarded := by
  rw [move]
  refine (guarded_folderFor _).bind fun _ => (guarded_folderFor _).bind fun _ => ?_
  refine guarded_handleIf (fun failure provider => ?_) fun _ => guarded_report _ _ _ _
  rw [provider, Bool.or_true]

theorem guarded_list (category : Category) : (list category).Guarded := by
  have note (file : FoundFile) : (noteRefused category file).Guarded :=
    (failsWith_log _ _).ite (failsWith_pure ())
  exact (guarded_folderFor _).bind fun _ => (guarded_filesIn _ _).bind fun _ =>
    (FailsWith.forM note).bind fun _ => failsWith_pure _

end Repository

/-- The failure says that the temporary file of a download may not be removed. -/
def Command.Stuck (command : Command) (t : Session) (failure : Failure) : Prop :=
  ∃ file target, command = .download file (some target) ∧ Repository.Stuck target t failure

/-- Of the drive and the file system a command lets out as it is nothing but that. -/
theorem Command.operate_lets_out (command : Command) (s : Session) :
    command.operate.Ends s fun outcome t => ∀ failure, outcome = .error failure →
      failure.isProvider = false ∨ command.Stuck t failure := by
  have named (file : FileArgument) : (remoteFile file).Guarded := by
    rw [remoteFile, ofIssues]
    generalize RemoteFile.ofJson _ _ = read
    cases read with
    | ok file => exact failsWith_pure file
    | error issues => exact failsWith_throw rfl
  have wholly (guarded : command.operate.Guarded) : command.operate.Ends s fun outcome t =>
      ∀ failure, outcome = .error failure → failure.isProvider = false ∨ command.Stuck t failure :=
    (guarded s).mono fun _ _ held failure failed => .inl (held failure failed)
  cases command with
  | auth => exact wholly (failsWith_pure ())
  | init wanted =>
    exact wholly <| (Repository.guarded_prepare wanted).bind fun _ =>
      failsWith_layout.bind fun _ => failsWith_log _ _
  | test =>
    apply wholly
    refine (Repository.guarded_probe fun _ => failsWith_log _ _).bind fun _ => ?_
    refine (failsWith_print _).bind fun _ => ?_
    refine (Repository.guarded_probe fun _ => failsWith_log _ _).bind fun _ => ?_
    refine (failsWith_print _).bind fun _ => ?_
    refine (Repository.guarded_probe fun _ => failsWith_log _ _).bind fun _ => ?_
    refine (failsWith_print _).bind fun _ => ?_
    exact Repository.guarded_markerExists.bind fun _ => failsWith_print _
  | list category =>
    exact wholly <| (Repository.guarded_list category).bind fun _ =>
      FailsWith.forM fun _ => failsWith_print _
  | upload source file =>
    exact wholly <| (named file).bind fun _ => Repository.guarded_upload _ _
  | download file target =>
    cases target with
    | none =>
      exact wholly <| (named file).bind fun _ => (failsWith_pure ()).ite (failsWith_throw rfl)
    | some target =>
      refine (named file s).bind (fun remote t _ => ?_) ?_
      · refine (Repository.download_lets_out remote target t).mono fun _ _ h failure failed => ?_
        exact (h failure failed).imp_right fun stuck => ⟨file, target, rfl, stuck⟩
      · rintro failure t held _ ⟨⟩
        exact .inl (held failure rfl)
  | move source target =>
    exact wholly <| (named source).bind fun _ => (named target).bind fun _ =>
      Repository.guarded_move _ _
  | remove file => exact wholly <| (named file).bind fun _ => Repository.guarded_remove _

end DriveDepot
