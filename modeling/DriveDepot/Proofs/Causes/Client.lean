import DriveDepot.Proofs.Along.Listings
import DriveDepot.Proofs.Causes
import DriveDepot.Proofs.Disk.Refusals
import DriveDepot.Proofs.Download
import DriveDepot.Proofs.LayoutFile
import DriveDepot.Proofs.Listing
import DriveDepot.Proofs.Move
import DriveDepot.Proofs.Preparation

namespace DriveDepot

open Operation

namespace Operation

theorem along_setLayout (layout : Layout) : (setLayout layout).Along Session.Lists :=
  fun _ => .none rfl rfl

theorem listable_lists : Listable Session.Lists where
  logs _ _ _ := Ends.log fun _ => .none rfl rfl
  lists listing := along_listing listing

variable {refused : Disk.Fault → Prop}

/-- An answer that is given is the drive's own. -/
theorem request_answers {s : Session} (fair : s.provider.Fair) {request : Request}
    (other : request.kind ≠ .list) :
    (Operation.request request).Ends s fun outcome t => Accounts refused s outcome t ∧
      ∀ value, outcome = .ok value → ∃ drive, s.drive.answer request = .ok (value, drive) := by
  refine (accountable_request other s fair).and ((request_ends fair.raising request).mono ?_)
  rintro _ t requested value ⟨⟩
  cases requested with
  | answered answer => exact ⟨_, answer⟩

theorem idOf_of_insert {drive after : Drive} {title mimeType : String} {parents : List Json}
    {content : Bytes} {value : Json}
    (answer : drive.insert title mimeType parents content = .ok (value, after)) :
    Folders.idOf value = .ok (.string drive.newId) := by
  rw [Drive.insert] at answer
  split at answer <;> cases answer
  exact Folders.idOf_object _

end Operation

variable {refused : Disk.Fault → Prop} {s : Session}

namespace Search

/-- From a fair provider on, searching never fails. -/
theorem files_accounts (fair : s.provider.Fair) (folder name : Option String) :
    (files folder name).Ends s fun outcome t => Accounts refused s outcome t ∧
      (∃ found, outcome = .ok found) ∧ s.SameState t := by
  have listed := along_files listable_lists folder name s
  refine (listed.and (files_ends fair.raising folder name)).mono ?_
  rintro outcome t ⟨lists, same, collected⟩
  have found : ∃ found, outcome = .ok found := by
    cases collected with
    | all | stopped => exact ⟨_, rfl⟩
    | raised raises other =>
      obtain ⟨error, rfl⟩ := fair.of_raises raises
      cases other
    | endless empty => exact absurd empty fair.paged
  obtain ⟨found, rfl⟩ := found
  exact ⟨accounts_of_lists lists found, ⟨found, rfl⟩, same⟩

theorem oneFile_accounts (fair : s.provider.Fair) (folder : Option String) (name : String) :
    (oneFile folder name).Ends s fun outcome t => Accounts refused s outcome t ∧ s.SameState t := by
  refine (@files_accounts refused s fair folder (some name)).bind ?_ ?_
  · rintro found t ⟨searched, _, same⟩
    have refuses (error : StorageError) : (oneFile.refuse error).Ends t fun outcome u =>
        Accounts refused s outcome u ∧ s.SameState u := by
      refine Ends.log_bind fun journal => ends_throw.mpr ⟨?_, same.trans (.journal t journal)⟩
      exact searched.trans (accounts_error (.own .itself) rfl rfl)
    split
    · exact ends_pure.mpr ⟨searched.trans (accounts_ok _ rfl rfl), same⟩
    · exact refuses _
    · exact refuses _
  · rintro failure t ⟨_, ⟨_, ⟨⟩⟩, _⟩

end Search

namespace Folders

theorem accountable_make (title : String) (parent : Json) :
    (make title parent).Accountable refused := by
  intro s fair
  refine Accounts.bind fair (request_answers fair (by simp [Request.kind])) ?_
  intro value t fair' answered
  obtain ⟨drive, answer⟩ := answered value rfl
  rw [idOf_of_insert answer, ofMishap, ofExcept_ok, pure_bind]
  exact (accountable_log _ _).bind (fun _ => accountable_pure _) t fair'

theorem accountable_makePath (titles : List String) (parent : Json) :
    (makePath titles parent).Accountable refused := by
  have each (parent : Json) : (makeEach parent titles).Accountable refused := by
    induction titles generalizing parent with
    | nil => exact accountable_pure parent
    | cons title rest ih =>
      have made : (make title parent).Accountable refused := accountable_make title parent
      exact (made.onProviderError (reports_log_throw _ _ _)).bind fun id => ih id
  exact (accountable_storageError _).ite (each parent)

end Folders

namespace Repository

theorem accountable_connect : connect.Accountable refused := by
  intro s fair
  have renewed : (perform .refresh (pure .null)).Accountable refused := by
    intro s fair
    have effects : Effects .refresh (pure .null) s := ⟨rfl, rfl, .null, rfl⟩
    apply (perform_exchanges effects).mono
    exact fun outcome t h => accounts_of_follows fair (by decide) rfl h.1 h.2
  have asked : (do let _ ← perform .refresh (pure .null); request .account : Operation Json).Ends s
      fun outcome t => Accounts refused s outcome t ∧
        ∀ account, outcome = .ok account → ∃ fields, account = .object fields := by
    refine (renewed s fair).bind ?_ fun _ _ h => ⟨h, by simp⟩
    intro _ t accounts
    have fair' := accounts.fair fair
    apply (request_answers fair' (by decide)).mono
    rintro outcome u ⟨later, answered⟩
    refine ⟨accounts.trans later, ?_⟩
    rintro account rfl
    obtain ⟨drive, answer⟩ := answered account rfl
    obtain ⟨rfl, _⟩ := Prod.mk.inj (Except.ok.inj answer)
    exact fair'.account
  rw [connect]
  refine Accounts.bind fair (P := fun outcome _ => ∀ account, outcome = .ok account →
    ∃ fields, account = .object fields) ?_ ?_
  · refine Ends.and (Accounts.handleIf (asked.mono fun _ _ h => h.1)
      (fun _ provider => .inr provider) (reports_log_throw _ _ _)) ?_
    refine asked.handleIf (fun _ _ h => h.2) ?_ fun _ _ _ h => h.2
    exact fun _ _ _ _ => Ends.log_bind fun _ => ends_throw.mpr (by simp)
  · intro account t fair' told
    obtain ⟨fields, rfl⟩ := told account rfl
    rw [accountName, Json.optional]
    exact accountable_log _ _ t fair'

theorem accountable_createSlots : createSlots.Accountable refused := by
  have slot (slot : Slot) : (createSlot slot).Accountable refused :=
    accountable_layout.bind fun _ => (Folders.accountable_makePath _ _).bind fun _ =>
      accountable_layout.bind fun _ => accountable_setLayout _
  exact (Accountable.forM slot).bind fun _ =>
    accountable_layout.bind fun _ => accountable_setLayout _

theorem accountable_prepare (wanted : Bool) : (prepare wanted).Accountable refused := by
  have rooted : createRoot.Accountable refused :=
    accountable_layout.bind fun _ => (Folders.accountable_makePath _ _).bind fun _ =>
      accountable_layout.bind fun _ => accountable_setLayout _
  have probed : targetExists.Accountable refused := by
    intro s fair
    have listed := along_targetExists listable_lists along_setLayout s
    refine (listed.and (targetExists_ends fair.raising)).mono ?_
    rintro _ t ⟨lists, positive, rfl, _⟩
    exact accounts_of_lists lists positive
  have ensured : (ensureRoot wanted).Accountable refused :=
    probed.bind fun _ => rooted.ite (accountable_pure ())
  have required : requireRoot.Accountable refused :=
    accountable_layout.bind fun _ => (accountable_storageError _).ite (accountable_pure ())
  have steps := accountable_connect.bind fun _ => ensured.bind fun _ => required.bind fun _ =>
    accountable_createSlots
  exact fun s fair => prepare_ends (steps s fair) fun _ _ _ h => h.quiet rfl rfl

end Repository

/-- The id of the folder of a category is a text, if only an empty one. -/
theorem Layout.Plain.folderFor {layout : Layout} (plain : layout.Plain) (category : Category) :
    ∃ folder, layout.folderFor category = .string folder := by
  rw [layout.folderFor_eq_ite]
  obtain unknown | ⟨id, known⟩ := plain category.slot?
  · rw [unknown]
    exact ⟨"", rfl⟩
  · rw [known]
    split
    · exact ⟨"", rfl⟩
    · exact ⟨id, rfl⟩

namespace Repository

theorem accountable_rename (file : Json) (title : String) :
    (rename file title).Accountable refused :=
  (accountable_request (by simp [Request.kind])).bind fun _ => accountable_pure _

theorem accountable_delete (file : Json) : (delete file).Accountable refused :=
  (accountable_request (by simp [Request.kind])).bind fun _ => accountable_pure _

theorem upload_accounts (fair : s.provider.Fair) (source : LocalPath) (file : RemoteFile) :
    (upload source file).Ends s (Accounts (fun fault => s.disk.read source = .error fault) s) := by
  have sent (title : String) (folder : Json) (content : Bytes) (message : String) :
      (do
        let inserted ← insertFile title folder content
        Operation.info message
        rename (← ofMishap (Folders.idOf inserted)) file.name : Operation Bool).Accountable
        fun fault => s.disk.read source = .error fault := by
    intro s fair
    refine Accounts.bind fair (request_answers fair (by simp [Request.kind])) ?_
    intro value t fair' answered
    obtain ⟨drive, answer⟩ := answered value rfl
    rw [idOf_of_insert answer, ofMishap, ofExcept_ok]
    exact (accountable_log _ _).bind (fun _ => accountable_rename _ _) t fair'
  rw [upload, ends_folderFor_bind]
  refine Accounts.andThen fair (Accounts.handleIf ?_ (fun _ provider => .inr provider)
    (reports_log_throw _ _ _)) ?_
  · refine Accounts.log_bind fun journal => ends_disk_bind.mpr ?_
    exact (accountable_ofDisk fun _ h => h).bind (fun content => sent _ _ content _) _ fair
  · intro confirmed t fair'
    exact Accountable.ite ((accountable_log _ _).bind fun _ => accountable_storageError _)
      (accountable_pure ()) t fair'

/-- The chunks of a content are accounted for, unless something is wrong with the answers. -/
theorem fetchChunks_accounts (fair : s.provider.Fair) (content : Bytes) (bound : Nat) :
    (fetchChunks content bound).Ends s fun outcome t => Accounts refused s outcome t ∨
      ∃ failure, outcome = .error failure ∧ failure.isProvider = false := by
  induction bound generalizing s with
  | zero => exact ends_throw.mpr (.inr ⟨.endless, rfl, rfl⟩)
  | succ bound ih =>
    have effects : Effects .nextChunk (writeChunk content) s := ⟨rfl, rfl, _, rfl⟩
    refine (perform_exchanges effects).bind ?_ ?_
    · rintro answer t ⟨calls, follows⟩
      have first : Accounts refused s (.ok answer) t :=
        accounts_of_follows fair (by decide) rfl calls follows
      refine Ends.ofExcept_bind (fun last _ => ?_) fun mishap _ => .inr ⟨_, rfl, rfl⟩
      split
      · refine (ih (first.fair fair)).mono fun outcome u h => ?_
        exact h.imp_left first.trans
      · exact .inl (first.trans (accounts_ok () rfl rfl))
    · rintro failure t ⟨calls, follows⟩
      exact .inl (accounts_of_follows fair (by decide) rfl calls follows)

theorem fetch_accounts (fair : s.provider.Fair) {place : Place}
    (scratch : s.disk.scratch = some ⟨place, []⟩) (id : String) :
    (fetch id).Ends s (Accounts refused s) := by
  have opened : s.Made [.openMedia id] { s with calls := s.calls ++ [.openMedia id] } := ⟨rfl, rfl⟩
  have fetched : (fetch id).Ends s fun outcome t => Accounts refused s outcome t ∨
      ∃ failure, outcome = .error failure ∧ failure.isProvider = false := by
    rw [fetch, record, ends_modify_bind, ends_get_bind]
    have raised : s.provider.raised? [.openMedia id] =
      if (s.drive.file? (.string id)).isSome then none else some (.provider .notFound) := rfl
    cases held : s.drive.file? (.string id) with
    | none =>
      rw [held] at raised
      exact ends_throw.mpr (.inl ⟨_, opened, raised ▸ .call .itself⟩)
    | some file =>
      rw [held] at raised
      have first : Accounts refused s (.ok ()) { s with calls := s.calls ++ [.openMedia id] } :=
        ⟨_, opened, raised⟩
      have chunks := @fetchChunks_accounts refused { s with calls := s.calls ++ [.openMedia id] }
        fair file.content
      exact (chunks _).mono fun _ _ h => h.imp_left first.trans
  refine (fetched.and (fetch_ends fair.raising fair.sized scratch id)).mono ?_
  rintro outcome t ⟨accounts | ⟨failure, rfl, other⟩, _, ended⟩
  · exact accounts
  · obtain raises | ⟨_, rfl⟩ := ended
    · obtain ⟨error, rfl⟩ := fair.of_raises raises
      cases other
    · cases other

theorem fetchTo_accounts (fair : s.provider.Fair) {place : Place}
    (scratch : s.disk.scratch = some ⟨place, []⟩) (target : LocalPath) (name id : String)
    (met : ∀ (disk : Disk) fault, disk.discard = s.disk.discard →
      disk.commit target = .error fault → refused fault) :
    (fetchTo target name id).Ends s (Accounts refused s) := by
  rw [fetchTo]
  refine Accounts.handleIf ?_ (fun _ provider => .inr provider) (reports_log_throw _ _ _)
  have fetched (t : Session) (fair : t.provider.Fair)
      (scratch : t.disk.scratch = some ⟨place, []⟩) : (fetch id).Ends t fun outcome u =>
        Accounts refused t outcome u ∧ u.disk.discard = t.disk.discard :=
    (fetch_accounts fair scratch id).and
      ((fetch_ends fair.raising fair.sized scratch id).mono fun _ _ h => h.1.disk)
  refine Accounts.log_bind fun journal => ?_
  refine Accounts.bind (s := { s with journal }) fair (fetched _ fair scratch) ?_
  intro _ t fair' disk
  refine Accounts.log_bind fun journal => ends_disk_bind.mpr ?_
  exact (accountable_ofDisk fun fault h => met t.disk fault disk h).bind
    (fun _ => accountable_setDisk _) _ fair'

theorem stage_accounts {target : LocalPath}
    (met : ∀ fault, s.disk.stage target = .error fault → refused fault) :
    (stage target).Ends s fun outcome t => Accounts refused s outcome t ∧
      (outcome = .ok () → ∃ staged, s.disk.stage target = .ok staged ∧
        t = { s with disk := staged }) := by
  have staged : (do setDisk (← ofDisk ((← disk).stage target)) : Operation Unit).Ends s
      fun outcome t => Accounts refused s outcome t ∧
        (outcome = .ok () → ∃ staged, s.disk.stage target = .ok staged ∧
          t = { s with disk := staged }) := by
    rw [ends_disk_bind]
    refine Ends.ofExcept_bind (fun staged ok => ?_) fun fault error => ?_
    · exact ⟨accounts_ok () rfl rfl, fun _ => ⟨staged, ok, rfl⟩⟩
    · exact ⟨accounts_error (Failure.blames_ofDisk (met fault error)) rfl rfl, by simp⟩
  refine Ends.and (Accounts.handleIf (staged.mono fun _ _ h => h.1)
    (fun _ provider => .inr provider) (reports_throw _)) ?_
  refine staged.handleIf (fun _ _ h => h.2) ?_ fun _ _ _ h => h.2
  exact fun _ _ _ _ => ends_throw.mpr (by simp)

theorem download_accounts (fair : s.provider.Fair) (plain : s.layout.Plain) (file : RemoteFile)
    {target : LocalPath} (disposes : s.disk.Disposes target) :
    (download file target).Ends s
      (Accounts (fun fault => s.disk.replace target = .error fault) s) := by
  cases named : denotesNoFile file.name with
  | true =>
    rw [Ends, download_of_denotesNoFile named]
    exact accounts_ok () rfl rfl
  | false =>
    obtain ⟨folder, text⟩ := plain.folderFor file.category
    simp only [download, named, Bool.false_eq_true, ↓reduceIte]
    rw [ends_folderFor_bind, text, oneFileIn_string]
    refine Accounts.bind fair (Search.oneFile_accounts fair _ _) fun found t fair' same => ?_
    split
    · exact ends_throw.mpr (accounts_error (.own .itself) rfl rfl)
    · refine Accounts.bind fair' (stage_accounts fun fault error => ?_) ?_
      · rw [same.disk] at error
        rw [Disk.replace, error]
        rfl
      · intro _ u fair'' ok
        obtain ⟨staged, begun, rfl⟩ := ok rfl
        rw [same.disk] at begun
        obtain ⟨place, located, rfl⟩ := Disk.stage_eq_ok begun
        have removes := @unlink_of_fetchTo
          { t with disk := { s.disk with scratch := some ⟨place, []⟩ } } fair''.raising fair''.sized
          place rfl target (disposes place located) file.name found.id
        refine Accounts.ensuring (P := fun v => v.disk.unlink target = .ok v.disk.discard)
          ((fetchTo_accounts fair'' rfl _ _ _ fun _ _ same' error => ?_).and
          removes) ?_
        · rw [Disk.replace, begun]
          exact Disk.commit_eq_error_of_same same'.symm error
        · intro v removes
          rw [unstage, ends_disk_bind, removes]
          exact ⟨rfl, rfl, rfl⟩

/-- Deleting a file is accounted for where it fails. Where the file turns out to be gone already,
what was raised last is passed over. -/
theorem deleteFound_accounts (fair : s.provider.Fair) (name : String) (found : FoundFile) :
    (deleteFound name found).Ends s fun outcome t => ∃ made, s.Made made t ∧
      ∀ failure, outcome = .error failure →
        made ≠ [] ∧ failure.Blames refused (s.provider.raised? made) := by
  have asked (message : String) (id : Json) :
      (do Operation.info message; delete id).Ends s fun outcome t =>
        Accounts refused s outcome t ∧ t.calls ≠ s.calls := by
    refine Ends.and (Accounts.log_bind fun journal => accountable_delete id _ fair)
      (Ends.log_bind fun journal => ?_)
    refine (request_asks (.delete id) _).bind (fun _ t h => ?_) fun _ t h => ?_
    · exact ends_pure.mpr (by rw [h.calls]; simp)
    · rw [h.calls]
      simp
  have nonempty {made : List Call} {t : Session} (between : s.Made made t)
      (more : t.calls ≠ s.calls) : made ≠ [] := by
    rintro rfl
    exact more (between.calls.trans (List.append_nil _))
  refine (asked _ _).handleIf ?_ ?_ ?_
  · rintro _ t ⟨⟨made, between, _⟩, _⟩
    exact ⟨made, between, by simp⟩
  · rintro failure t provider ⟨⟨made, between, blames⟩, more⟩
    split
    · exact Ends.log fun _ => ⟨made, ⟨between.calls, between.provider⟩, by simp⟩
    · refine Ends.log_bind fun _ => ends_throw.mpr ⟨made, ⟨between.calls, between.provider⟩, ?_⟩
      rintro _ ⟨⟩
      exact ⟨nonempty between more, blames.wrap (.inr provider) _⟩
  · rintro failure t _ ⟨⟨made, between, blames⟩, more⟩
    refine ⟨made, between, ?_⟩
    rintro _ ⟨⟩
    exact ⟨nonempty between more, blames⟩

theorem deleteEach_accounts (fair : s.provider.Fair) (name : String) (found : List FoundFile) :
    (found.forM (deleteFound name)).Ends s fun outcome t => ∃ made, s.Made made t ∧
      ∀ failure, outcome = .error failure →
        made ≠ [] ∧ failure.Blames refused (s.provider.raised? made) := by
  induction found generalizing s with
  | nil => exact ends_pure.mpr ⟨[], .none rfl rfl, by simp⟩
  | cons file rest ih =>
    refine (@deleteFound_accounts refused s fair name file).bind ?_ fun _ _ h => ?_
    · rintro _ t ⟨made, first, _⟩
      have fair' : t.provider.Fair := by
        rw [first.provider]
        exact fair.after made
      refine (ih fair').mono ?_
      rintro outcome u ⟨more, second, told⟩
      refine ⟨made ++ more, first.trans second, fun failure failed => ?_⟩
      obtain ⟨some_more, blames⟩ := told failure failed
      rw [Provider.raised?_append made some_more, ← first.provider]
      exact ⟨List.append_ne_nil_of_right_ne_nil _ some_more, blames⟩
    · obtain ⟨made, between, told⟩ := h
      refine ⟨made, between, ?_⟩
      rintro _ ⟨⟩
      exact told _ rfl

theorem remove_accounts (fair : s.provider.Fair) (plain : s.layout.Plain) (file : RemoteFile) :
    (remove file).Ends s fun outcome t =>
      ∀ failure, outcome = .error failure → Accounts refused s outcome t := by
  obtain ⟨folder, text⟩ := plain.folderFor file.category
  rw [remove, ends_folderFor_bind, text, filesIn_string]
  refine (@Search.files_accounts refused s fair _ _).bind ?_ ?_
  · rintro found t ⟨searched, _, _⟩
    apply (deleteEach_accounts (searched.fair fair) file.name found).mono
    rintro outcome u ⟨made, between, told⟩ failure rfl
    exact searched.trans ⟨made, between, (told failure rfl).2⟩
  · rintro failure t ⟨_, ⟨_, ⟨⟩⟩, _⟩

theorem move_accounts (fair : s.provider.Fair) (plain : s.layout.Plain)
    (source target : RemoteFile) : (move source target).Ends s (Accounts refused s) := by
  obtain ⟨sourceFolder, sourceText⟩ := plain.folderFor source.category
  obtain ⟨targetFolder, targetText⟩ := plain.folderFor target.category
  have located : (locate source target).Ends s (Accounts refused s) := by
    rw [locate, ends_folderFor_bind, sourceText, oneFileIn_string]
    refine Accounts.bind fair (Search.oneFile_accounts fair _ _) fun file t fair' same => ?_
    rw [ends_folderFor_bind, same.layout, targetText, filesIn_string]
    refine Accounts.bind fair' (Search.files_accounts fair' _ _) fun found u fair'' _ => ?_
    exact (accountable_storageError _).ite (accountable_pure _) u fair''
  have titled (id : String) : (moveTitle source target id).Accountable refused := by
    refine (accountable_pure _).ite ((accountable_log _ _).bind fun _ => ?_)
    refine (accountable_rename _ _).bind fun confirmed => ?_
    refine Accountable.ite ?_ (accountable_pure _)
    exact (accountable_log _ _).bind fun _ => (accountable_storageError _).bind fun _ =>
      accountable_pure _
  have foldered (id : String) : (moveFolder source.name (s.layout.folderFor source.category).told
      (s.layout.folderFor target.category).told id).Accountable refused := by
    refine (accountable_pure _).ite ((accountable_log _ _).bind fun _ => ?_)
    exact (accountable_request (by simp [Request.kind])).bind fun _ =>
      (accountable_request (by simp [Request.kind])).bind fun _ => accountable_pure _
  have replaced (modified : Bool) (text : String) (found : List FoundFile) :
      (deleteReplaced modified text found).Accountable refused := by
    cases found with
    | nil => exact accountable_pure ()
    | cons old _ =>
      exact ((accountable_log _ _).bind fun _ => accountable_delete _).ite (accountable_pure ())
  rw [move, ends_folderFor_bind, ends_folderFor_bind]
  refine Accounts.handleIf ?_ (fun _ handled => by simpa using handled) (reports_log_throw _ _ _)
  refine Accounts.andThen fair located ?_
  rintro ⟨file, found⟩ t fair'
  exact ((titled file.id).bind fun _ => (foldered file.id).bind fun _ => replaced _ _ found) t fair'

theorem list_accounts (fair : s.provider.Fair) (plain : s.layout.Plain) (category : Category) :
    (list category).Ends s (Accounts refused s) := by
  obtain ⟨folder, text⟩ := plain.folderFor category
  rw [list, ends_folderFor_bind, text, filesIn_string]
  refine Accounts.bind fair (Search.files_accounts fair _ _) fun found t fair' _ => ?_
  have note (file : FoundFile) : (noteRefused category file).Accountable refused :=
    (accountable_log _ _).ite (accountable_pure ())
  exact (Accountable.forM note).bind (fun _ => accountable_pure _) t fair'

end Repository

end DriveDepot
