import DriveDepot.Proofs.Causes.Client
import DriveDepot.Proofs.Guarded
import DriveDepot.Proofs.Lifecycle
import DriveDepot.Proofs.Upload

namespace DriveDepot

open Operation

namespace Failure

variable {refused : Disk.Fault → Prop} {raised : Option Reason} {failure : Failure}

theorem origin_ofDisk_ne (fault : Disk.Fault) (error : StorageError) :
    (ofDisk fault).origin ≠ some (.storage error) := by
  rw [ofDisk]
  split <;> simp [origin, ofMishap, ofProvider]

theorem Blames.reported (blames : failure.Blames refused raised)
    (guarded : failure.isProvider = false) :
    failure.isStorage = true ∨
      failure.isBadValue = true ∧ ∃ fault, refused fault ∧ fault.refusal = .nullCharacter := by
  cases blames with
  | call stems | disk _ stems =>
    obtain rfl | storage := stems.eq_or_isStorage
    · cases guarded
    · exact .inl storage
  | own stems =>
    obtain rfl | storage := stems.eq_or_isStorage
    · exact .inl rfl
    · exact .inl storage
  | noPath met null =>
    refine .inr ⟨?_, _, met, null⟩
    rw [ofDisk, if_pos null]
    rfl

end Failure

namespace Operation

variable {s : Session}

/-- Where what comes after cannot fail, the first operation does. -/
theorem Ends.failing_bind {operation : Operation α} {Q : Failure → Session → Prop}
    (first : operation.Ends s fun outcome t => ∀ failure, outcome = .error failure → Q failure t)
    {next : α → Operation β} (rest : ∀ a t, (next a).Succeeds t) :
    (operation >>= next).Ends s fun outcome t =>
      ∀ failure, outcome = .error failure → Q failure t := by
  refine Ends.bind first (fun a t _ => (rest a t).mono ?_) ?_
  · rintro _ _ ⟨_, rfl⟩ failure ⟨⟩
  · rintro failure t h _ ⟨⟩
    exact h failure rfl

/-- Where the operation fails, that is accounted for, and it is no failure of the drive or of the
file system as such. -/
def Excuses (refused : Disk.Fault → Prop) (operation : Operation α) (s : Session) : Prop :=
  operation.Ends s fun outcome t => ∀ failure, outcome = .error failure →
    failure.isProvider = false ∧
      ∃ made, s.Made made t ∧ failure.Blames refused (s.provider.raised? made)

variable {refused : Disk.Fault → Prop} {operation : Operation α}

theorem Succeeds.excuses (succeeds : operation.Succeeds s) : operation.Excuses refused s := by
  apply Ends.mono succeeds
  rintro _ t ⟨a, rfl⟩ failure ⟨⟩

theorem Guarded.excuses_of_failed (guarded : operation.Guarded)
    (accounts : operation.Ends s fun outcome t =>
      ∀ failure, outcome = .error failure → Accounts refused s outcome t) :
    operation.Excuses refused s := by
  refine (accounts.and (guarded s)).mono ?_
  rintro outcome t ⟨accounts, guarded⟩ failure rfl
  exact ⟨guarded failure rfl, accounts failure rfl⟩

theorem Guarded.excuses (guarded : operation.Guarded)
    (accounts : operation.Ends s (Accounts refused s)) : operation.Excuses refused s :=
  guarded.excuses_of_failed (accounts.mono fun _ _ h _ _ => h)

theorem Excuses.bind (first : operation.Excuses refused s) {next : α → Operation β}
    (rest : ∀ a t, (next a).Succeeds t) : (operation >>= next).Excuses refused s :=
  Ends.failing_bind first rest

end Operation

namespace Repository

variable {s : Session} {refused : Disk.Fault → Prop}

theorem upload_excuses (fair : s.provider.Fair) (source : LocalPath) (file : RemoteFile) :
    (upload source file).Excuses (fun fault => s.disk.read source = .error fault) s :=
  (guarded_upload source file).excuses (upload_accounts fair source file)

theorem stagingFailure_isProvider (target : LocalPath) (fault : Disk.Fault) :
    (stagingFailure target fault).isProvider = false := by
  rw [stagingFailure]
  split
  · exact Failure.isProvider_wrap _ _
  · simp_all

theorem downloadFailure_isProvider (name : String) (failure : Failure) :
    (downloadFailure name failure).isProvider = false := by
  rw [downloadFailure]
  split
  · exact Failure.isProvider_wrap _ _
  · simp_all

theorem DownloadFailed.isProvider {file : RemoteFile} {target : LocalPath} {failure : Failure}
    (h : DownloadFailed file target s failure) : failure.isProvider = false := by
  cases h with
  | noText | noUrl => rfl
  | noTemporaryFile => exact stagingFailure_isProvider _ _
  | unfinished => exact downloadFailure_isProvider _ _
  | notLocated text located =>
    cases located with
    | missing | several => rfl
    | failed collected =>
      cases collected with
      | raised raises other => exact other
      | endless => rfl

theorem download_excuses (fair : s.provider.Fair) (plain : s.layout.Plain) (file : RemoteFile)
    {target : LocalPath} (disposes : s.disk.Disposes target) :
    (download file target).Excuses (fun fault => s.disk.replace target = .error fault) s := by
  have guarded : (download file target).Ends s fun outcome _ =>
      ∀ failure, outcome = .error failure → failure.isProvider = false := by
    cases named : denotesNoFile file.name with
    | true =>
      rw [Ends, download_of_denotesNoFile named]
      rintro _ ⟨⟩
    | false =>
      apply (download_ends_of_disposes fair.raising fair.sized named disposes).mono
      rintro _ _ ⟨_, ended⟩ failure rfl
      exact ended.1.isProvider
  refine ((download_accounts fair plain file disposes).and guarded).mono ?_
  rintro _ _ ⟨accounts, guarded⟩ failure rfl
  exact ⟨guarded failure rfl, accounts⟩

theorem remove_excuses (fair : s.provider.Fair) (plain : s.layout.Plain) (file : RemoteFile) :
    (remove file).Excuses refused s :=
  (guarded_remove file).excuses_of_failed (remove_accounts fair plain file)

theorem move_excuses (fair : s.provider.Fair) (plain : s.layout.Plain)
    (source target : RemoteFile) : (move source target).Excuses refused s :=
  (guarded_move source target).excuses (move_accounts fair plain source target)

theorem list_excuses (fair : s.provider.Fair) (plain : s.layout.Plain) (category : Category) :
    (list category).Excuses refused s :=
  (guarded_list category).excuses (list_accounts fair plain category)

theorem succeeds_markerExists_of_fair (fair : s.provider.Fair) : markerExists.Succeeds s := by
  apply succeeds_markerExists
  have searched : (markerSearch s.layout).Ends s fun outcome _ => outcome ≠ .error .endless := by
    refine Ends.ofExcept_bind (fun folder _ => ?_) fun _ _ => nofun
    apply (Search.files_ends fair.raising _ _).mono
    rintro _ _ ⟨_, collected⟩ rfl
    exact Search.Collected.ne_endless fair.paged collected
  exact searched

/-- What an upload fails with whose local file cannot be read. -/
theorem upload_of_unread {source : LocalPath} {fault : Disk.Fault}
    (unread : s.disk.read source = .error fault) (file : RemoteFile) :
    (upload source file).Ends s fun outcome _ =>
      outcome = .error (uploadFailure source file (.ofDisk fault)) := by
  rw [upload, ends_folderFor_bind]
  refine Ends.bind (P := fun outcome _ =>
    outcome = .error (uploadFailure source file (.ofDisk fault))) ?_ (by rintro _ _ ⟨⟩) ?_
  · refine Ends.handleIf (P := fun outcome _ => outcome = .error (.ofDisk fault)) ?_ ?_ ?_ ?_
    · refine Ends.log_bind fun journal => ends_disk_bind.mpr ?_
      rw [unread]
      exact ends_throw.mpr rfl
    · rintro _ _ ⟨⟩
    · rintro _ t provider ⟨⟩
      refine Ends.log_bind fun _ => ends_throw.mpr ?_
      rw [uploadFailure, if_pos provider]
    · rintro _ t other ⟨⟩
      rw [uploadFailure, if_neg (by simp [other])]
  · rintro _ _ ⟨⟩
    rfl

end Repository

namespace Undertaking

variable {s : Session}

/-- What the file system refuses an undertaking, if it gets as far as that. -/
def Refused (s : Session) (undertaking : Undertaking) (fault : Disk.Fault) : Prop :=
  match undertaking with
  | act (.upload source _) => s.disk.read source = .error fault
  | act (.download _ target) => s.disk.replace target = .error fault
  | _ => False

/-- A download gets as far as the file system where the search gives one file, and that can be
fetched. -/
def Reaches (s : Session) : Undertaking → Prop
  | act (.download file _) => ∃ found t, runOn
      (Repository.oneFileIn (s.layout.folderFor file.category) file.name) s = (.ok found, t) ∧
        (found.downloadUrl.getD "").isEmpty = false
  | _ => True

/-- The local paths of the undertaking are paths. -/
def Clean : Undertaking → Prop
  | act (.upload source _) => ¬ source.HasNull
  | act (.download _ target) => ¬ target.HasNull
  | _ => True

/-- The temporary file of a download may be removed again. -/
def Disposes (s : Session) : Undertaking → Prop
  | act (.download _ target) => s.disk.Disposes target
  | _ => True

theorem excuses (fair : s.provider.Fair) (plain : s.layout.Plain) {undertaking : Undertaking}
    (disposes : undertaking.Disposes s) :
    undertaking.operation.Excuses (undertaking.Refused s) s := by
  have unread {α : Type} {operation : Operation α} (succeeds : operation.Succeeds s) :
      (do let _ ← operation : Operation Unit).Excuses (undertaking.Refused s) s :=
    (succeeds.bind fun _ _ => ⟨(), rfl⟩).excuses
  cases undertaking with
  | connect =>
    exact Repository.guarded_connect.excuses (Repository.accountable_connect s fair)
  | prepare wanted =>
    exact (Repository.guarded_prepare wanted).excuses (Repository.accountable_prepare wanted s fair)
  | targetExists => exact unread (Repository.succeeds_targetExists s)
  | targetCanWrite => exact unread (Repository.succeeds_targetCanWrite s)
  | targetCanCreate => exact unread (Repository.succeeds_targetCanCreate s)
  | markerExists => exact unread (Repository.succeeds_markerExists_of_fair fair)
  | act action =>
    refine Excuses.bind ?_ fun _ _ => ⟨(), rfl⟩
    cases action with
    | upload source file =>
      exact (Repository.upload_excuses fair source file).bind fun _ _ => ⟨_, rfl⟩
    | download file target =>
      exact (Repository.download_excuses fair plain file disposes).bind fun _ _ => ⟨_, rfl⟩
    | delete file => exact (Repository.remove_excuses fair plain file).bind fun _ _ => ⟨_, rfl⟩
    | move source target =>
      exact (Repository.move_excuses fair plain source target).bind fun _ _ => ⟨_, rfl⟩
    | list category => exact Repository.list_excuses fair plain category

theorem Clean.refused {undertaking : Undertaking} (clean : undertaking.Clean) {fault : Disk.Fault}
    (refused : undertaking.Refused s fault) : fault.refusal ≠ .nullCharacter := by
  cases undertaking with
  | act action =>
    cases action with
    | upload => exact Disk.read_ne_nullCharacter clean refused
    | download => exact Disk.replace_ne_nullCharacter clean refused
    | delete | move | list => exact absurd refused id
  | _ => exact absurd refused id

/-- What the failure of an undertaking tells after the calls that it made. The chain of its causes
ends in what the last call raised, or else in what the file system refused, or else in what the
storage found amiss. What a listing raises is not passed on. -/
structure Tells (undertaking : Undertaking) (s : Session) (made : List Call) (failure : Failure) :
    Prop where
  storage : failure.isStorage = true
  call : ∀ reason, s.provider.raised? made = some reason → failure.origin = some reason
  disk : ∀ fault, undertaking.Reaches s → undertaking.Refused s fault →
    s.provider.raised? made = none → failure.origin = some (.provider (.disk fault))
  otherwise : s.provider.raised? made = none →
    (∃ fault, undertaking.Refused s fault ∧ failure.origin = some (.provider (.disk fault))) ∨
      ∃ error, failure.origin = some (.storage error)
  move : ∀ source target, undertaking = act (.move source target) → ∃ causes, failure = .raised
    (.storage (.moveFailed (Repository.label s.layout source) (Repository.label s.layout target)))
    causes

theorem Refused.unique {undertaking : Undertaking} {fault other : Disk.Fault}
    (h : undertaking.Refused s fault) (k : undertaking.Refused s other) : fault = other := by
  cases undertaking with
  | act action =>
    cases action with
    | upload | download => exact Except.error.inj (h.symm.trans k)
    | delete | move | list => exact absurd h id
  | _ => exact absurd h id

/-- Once its file is found, a download fails by the drive or by the file system. -/
theorem download_of_reached (fair : s.provider.Fair) (plain : s.layout.Plain) {file : RemoteFile}
    {target : LocalPath} (reaches : (act (.download file target)).Reaches s) :
    (Repository.download file target).Ends s fun outcome _ => ∀ failure, outcome = .error failure →
      ∀ error, failure.origin ≠ some (.storage error) := by
  cases named : Repository.denotesNoFile file.name with
  | true =>
    rw [Ends, Repository.download_of_denotesNoFile named]
    rintro _ ⟨⟩
  | false =>
    obtain ⟨found, t, run, url⟩ := reaches
    obtain ⟨folder, text⟩ := plain.folderFor file.category
    rw [text, Repository.oneFileIn_string] at run
    simp only [Repository.download, named, Bool.false_eq_true, ↓reduceIte]
    rw [Repository.ends_folderFor_bind, text, Repository.oneFileIn_string]
    refine ((Search.oneFile_ends fair.raising _ _).and (Ends.run _ s)).bind ?_ ?_
    · rintro found' t' ⟨⟨same, _⟩, run'⟩
      cases run.symm.trans run'
      rw [if_neg (by simp [url])]
      have sized : 0 < t.drive.chunkSize := same.drive ▸ fair.sized
      apply (Repository.stage_fetchTo_ends (same.raising fair.raising) sized target file.name
        found.id).mono
      rintro outcome u ⟨_, ended⟩ failure rfl error
      obtain ⟨_, fault, _, rfl⟩ | ⟨_, inner, why, rfl⟩ | ⟨_, _, obstacle, _, _, _, rfl⟩ := ended
      · rw [Repository.stagingFailure]
        split
        · rw [Failure.origin_wrap]
          exact Failure.origin_ofDisk_ne fault error
        · exact Failure.origin_ofDisk_ne fault error
      · have kept : (Repository.downloadFailure file.name inner).origin = inner.origin := by
          rw [Repository.downloadFailure]
          split
          · exact Failure.origin_wrap _ _
          · rfl
        rw [kept]
        cases why with
        | raised raises =>
          obtain ⟨cause, rfl⟩ := fair.of_raises ((same.raises_iff _).mp raises)
          simp [Failure.origin, Failure.ofProvider]
        | unknown => simp [Failure.origin, Failure.ofProvider]
        | notReplaced => exact Failure.origin_ofDisk_ne _ error
      · exact Failure.origin_ofDisk_ne _ error
    · rintro failure t' ⟨_, run'⟩
      cases run.symm.trans run'

/-- What the file system refuses is not passed over. -/
theorem origin_of_refused (fair : s.provider.Fair) (plain : s.layout.Plain)
    {undertaking : Undertaking} {fault : Disk.Fault} (reaches : undertaking.Reaches s)
    (refused : undertaking.Refused s fault) :
    undertaking.operation.Ends s fun outcome _ => ∀ failure, outcome = .error failure →
      ∀ error, failure.origin ≠ some (.storage error) := by
  cases undertaking with
  | act action =>
    refine Ends.failing_bind ?_ fun _ _ => ⟨(), rfl⟩
    cases action with
    | upload source file =>
      refine Ends.failing_bind ((Repository.upload_of_unread refused file).mono ?_)
        fun _ _ => ⟨_, rfl⟩
      rintro outcome t failed failure rfl error
      rw [Except.error.inj failed, Repository.uploadFailure]
      split
      · rw [Failure.origin_wrap]
        exact Failure.origin_ofDisk_ne fault error
      · exact Failure.origin_ofDisk_ne fault error
    | download file target =>
      exact Ends.failing_bind (download_of_reached fair plain reaches) fun _ _ => ⟨_, rfl⟩
    | delete | move | list => exact absurd refused id
  | _ => exact absurd refused id

/-- A move that fails says between which places. -/
theorem reason_of_move (fair : s.provider.Fair) (source target : RemoteFile) :
    (act (.move source target)).operation.Ends s fun outcome _ => ∀ failure,
      outcome = .error failure → failure.isStorage = true → ∃ causes, failure = .raised (.storage
        (.moveFailed (Repository.label s.layout source) (Repository.label s.layout target)))
        causes := by
  refine Ends.failing_bind (Ends.failing_bind ?_ fun _ _ => ⟨_, rfl⟩) fun _ _ => ⟨(), rfl⟩
  apply (Repository.move_ends fair.raising source target).mono
  rintro outcome t ⟨inner, rfl, _⟩ failure failed storage
  cases inner with
  | ok => cases failed
  | error cause =>
    obtain rfl := Except.error.inj failed
    rw [Repository.moveFailure] at storage ⊢
    split
    · rename_i handled
      rw [if_pos handled] at storage
      exact Failure.wrap_eq_raised storage
    · rename_i unhandled
      rw [if_neg unhandled] at storage
      simp [storage] at unhandled

/-- Whatever fails, the failure of an undertaking is a report of the storage that tells why. -/
theorem tells (fair : s.provider.Fair) (plain : s.layout.Plain) {undertaking : Undertaking}
    (clean : undertaking.Clean) (disposes : undertaking.Disposes s) :
    undertaking.operation.Ends s fun outcome t => ∀ failure, outcome = .error failure →
      ∃ made, t.calls = s.calls ++ made ∧ undertaking.Tells s made failure := by
  refine ((excuses fair plain disposes).and (Ends.run _ s)).mono ?_
  rintro outcome t ⟨excuses, run⟩ failure rfl
  obtain ⟨guarded, made, between, blames⟩ := excuses failure rfl
  have storage : failure.isStorage = true := by
    obtain storage | ⟨_, fault, refused, null⟩ := blames.reported guarded
    · exact storage
    · exact absurd null (clean.refused refused)
  have otherwise (quiet : s.provider.raised? made = none) :
      (∃ fault, undertaking.Refused s fault ∧ failure.origin = some (.provider (.disk fault))) ∨
        ∃ error, failure.origin = some (.storage error) := by
    rw [quiet] at blames
    cases blames with
    | disk refused stems => exact .inl ⟨_, refused, stems.origin⟩
    | noPath refused null => exact absurd null (clean.refused refused)
    | own stems => exact .inr ⟨_, stems.origin⟩
  refine ⟨made, between.calls, storage, ?_, ?_, otherwise, ?_⟩
  · intro reason raised
    rw [raised] at blames
    cases blames with
    | call stems => exact stems.origin
  · intro fault reaches refused quiet
    have foreign := (origin_of_refused fair plain reaches refused).of_eq run failure rfl
    obtain ⟨other, refused', origin⟩ | ⟨error, own⟩ := otherwise quiet
    · rw [origin, refused.unique refused']
    · exact absurd own (foreign error)
  · rintro source target rfl
    exact (reason_of_move fair source target).of_eq run failure rfl storage

end Undertaking

end DriveDepot
