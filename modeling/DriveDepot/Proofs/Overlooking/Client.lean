import DriveDepot.Proofs.Overlooking

namespace DriveDepot

open Operation

variable {more : List StoredFile} {layout : Layout}

namespace Search

theorem overlooks_page {query : String}
    (unasked : ∀ clauses, Query.ofText? query = some clauses → Unasked more clauses)
    (found : List FoundFile) (token : Json) :
    (page query found token).Overlooks more layout fun _ => True := by
  have listing : (some <$> request (.listFiles query token)).Overlooks more layout
      fun _ => True := by
    rw [map_eq_pure_bind]
    have asking : (request (.listFiles query token)).Overlooks more layout fun _ => True :=
      overlooks_request fun drive apart => Drive.overlooks_listFiles apart unasked
    exact asking.bind fun _ _ => overlooks_pure trivial
  exact listing.handleIf fun _ => (overlooks_log _ _).bind fun _ _ => overlooks_pure trivial

/-- With more files on the drive a search may read more pages, but it comes to its end before. -/
theorem collect_grown {s : Session} (apart : s.Apart more layout) {query : String}
    (unasked : ∀ clauses, Query.ofText? query = some clauses → Unasked more clauses)
    {bound upper first : Nat} (some_page : Query.ofText? query = none → bound ≠ 0)
    (within : bound ≤ upper) {token : Json}
    (underway : ∀ clauses, Query.ofText? query = some clauses →
      Underway s.drive (s.drive.select clauses) bound first token) (found : List FoundFile) :
    (collect query bound found token).Ends s fun outcome t =>
      runOn (collect query upper found token) (s.grown more) = (outcome, t.grown more) := by
  induction bound generalizing s upper first token found with
  | zero =>
    cases read : Query.ofText? query with
    | none => exact absurd rfl (some_page read)
    | some clauses =>
      have := (underway clauses read).enough apart.paged
      have := (underway clauses read).within
      omega
  | succ bound ih =>
    obtain ⟨upper, rfl⟩ := Nat.exists_eq_add_one_of_ne_zero (by omega : upper ≠ 0)
    have paged := (overlooks_page unasked found token s apart).and
      (page_ends apart.raising query found token)
    rw [collect, collect, runOn_bind]
    refine paged.bind ?_ ?_
    · rintro (_ | response) t ⟨⟨run, after, _⟩, ⟨_, drive⟩, page⟩
      · rw [run]
        rfl
      · rw [run]
        cases page with
        | read listed =>
          cases read : Query.ofText? query with
          | none => cases (list_of_unreadable _ read _).symm.trans listed
          | some clauses =>
            obtain rfl := Except.ok.inj ((list_of_readable _ read _).symm.trans listed)
            simp only [filesOf_listing, optional_listing, ofMishap, ofExcept_ok, pure_bind]
            obtain ⟨_, last⟩ | ⟨next, _, onward, underway⟩ := (underway clauses read).page
            · simp only [last, Option.map_none, Option.getD_none, Json.isNothing, ↓reduceIte]
              rfl
            · simp only [onward, Option.map_some, Option.getD_some, isNothing_pageToken,
                Bool.false_eq_true, ↓reduceIte]
              have readable : Query.ofText? query = none → bound ≠ 0 := by
                intro unreadable
                cases unreadable.symm.trans read
              have further : ∀ other, Query.ofText? query = some other →
                  Underway t.drive (t.drive.select other) bound next (Drive.pageToken next) := by
                intro other read'
                obtain rfl := Option.some.inj (read.symm.trans read')
                exact drive ▸ underway
              exact ih after readable (by omega) further _
    · rintro failure t ⟨⟨run, _⟩, _⟩
      rw [run]

theorem overlooks_files {folder name : Option String}
    (unasked : Unasked more (Query.ofFiles folder name)) :
    (files folder name).Overlooks more layout fun found =>
      ∀ file ∈ found, Foreign more file.id := by
  intro s apart
  have within : pageBound s ≤ pageBound (s.grown more) := by
    simp [pageBound, Session.grown, Drive.grown]
  have bounded : s.drive.files.length + 2 ≤ pageBound s := by
    rw [pageBound]
    omega
  have fewer : (s.drive.select (Query.ofFiles folder name)).length ≤ s.drive.files.length :=
    List.length_filter_le _ _
  have meaning : ∀ clauses, Query.ofText? (Query.text (Query.ofFiles folder name)) = some clauses →
      clauses = Query.ofFiles folder name := by
    intro clauses read
    rw [Query.ofText?_ofFiles] at read
    split at read <;> cases read
    rfl
  have run : (files folder name).Ends s fun outcome t =>
      runOn (files folder name) (s.grown more) = (outcome, t.grown more) := by
    have begun : ∀ clauses, Query.ofText? (Query.text (Query.ofFiles folder name)) = some clauses →
        Underway s.drive (s.drive.select clauses) (pageBound s) 0 .null := by
      intro clauses read
      rw [meaning clauses read]
      exact ⟨rfl, Nat.zero_le _, fun _ => rfl, fun _ => by omega, fun empty => by omega⟩
    rw [files, ends_get_bind, runOn_bind, runOn_get]
    exact collect_grown apart (fun clauses read => meaning clauses read ▸ unasked)
      (fun _ => by omega) within begun []
  apply (run.and (files_ends apart.raising folder name)).mono
  rintro outcome t ⟨run, same, collected⟩
  refine ⟨run, ⟨?_, same.layout.trans apart.layout, same.raising apart.raising, ?_⟩, ?_⟩
  · exact same.drive ▸ apart.ids
  · exact same.drive ▸ apart.paged
  · rintro found rfl file member
    obtain ⟨stored, listed, rfl⟩ := collected.stored member
    exact apart.ids stored ((s.drive.matching_sublist folder name).subset listed)

theorem overlooks_oneFile {folder : Option String} {name : String}
    (unasked : Unasked more (Query.ofFiles folder name)) :
    (oneFile folder name).Overlooks more layout fun file => Foreign more file.id := by
  refine (overlooks_files unasked).bind fun found foreign => ?_
  split
  · exact overlooks_pure (foreign _ (by simp))
  · exact (overlooks_log _ _).bind fun _ _ => overlooks_throw _
  · exact (overlooks_log _ _).bind fun _ _ => overlooks_throw _

end Search

namespace Repository

/-- None of the files has the name and lies in the folder. -/
def Nowhere (more : List StoredFile) (folder : Json) (name : String) : Prop :=
  ∀ file ∈ more, file.title = name → ∀ parent ∈ file.parents, folder ≠ .string parent

theorem Nowhere.of_title {name : String} (other : ∀ file ∈ more, file.title ≠ name)
    (folder : Json) : Nowhere more folder name :=
  fun file member same => absurd same (other file member)

section
variable {folder : Json} {name : String} (nowhere : Nowhere more folder name)
include nowhere

theorem Nowhere.unasked {text : String} (told : folder = .string text) :
    Unasked more (Query.ofFiles (some text) (some name)) := by
  intro file member
  by_cases same : file.title = name
  · have outside : text ∉ file.parents :=
      fun inside => nowhere file member same text inside told
    simp [Query.ofFiles, StoredFile.satisfies, outside]
  · simp [Query.ofFiles, StoredFile.satisfies, same]

theorem overlooks_filesIn : (filesIn folder (some name)).Overlooks more layout fun found =>
    (∃ text, folder = .string text) ∧ ∀ file ∈ found, Foreign more file.id := by
  obtain ⟨text, told⟩ | other := text_or_not folder
  · rw [told, filesIn_string]
    exact (Search.overlooks_files (nowhere.unasked told)).mono fun _ foreign =>
      ⟨⟨text, rfl⟩, foreign⟩
  · rw [filesIn_notText other]
    exact overlooks_throw _

theorem overlooks_oneFileIn :
    (oneFileIn folder name).Overlooks more layout fun file => Foreign more file.id := by
  obtain ⟨text, told⟩ | other := text_or_not folder
  · rw [told, oneFileIn_string]
    exact Search.overlooks_oneFile (nowhere.unasked told)
  · rw [oneFileIn_notText other]
    exact overlooks_throw _

end

theorem overlooks_folderFor (category : Category) :
    (folderFor category).Overlooks more layout (· = layout.folderFor category) :=
  overlooks_layout.bind fun _ same => overlooks_pure (congrArg (·.folderFor category) same)

/-- Finds the files that have the name of the reference, in its folder. -/
def find (file : RemoteFile) : Operation (List FoundFile) := do
  filesIn (← folderFor file.category) file.name

theorem overlooks_find {file : RemoteFile}
    (nowhere : Nowhere more (layout.folderFor file.category) file.name) :
    (find file).Overlooks more layout fun found => ∀ stored ∈ found, Foreign more stored.id := by
  refine (overlooks_folderFor _).bind ?_
  rintro _ rfl
  exact (overlooks_filesIn nowhere).mono fun _ h => h.2

theorem overlooks_change {change : Change} (foreign : ∀ id ∈ change.ids, Foreign more id) :
    (request change.request).Overlooks more layout fun _ => True :=
  overlooks_request fun _ apart => Drive.overlooks_change apart foreign

theorem overlooks_rename {id : String} (foreign : Foreign more id) (title : String) :
    (rename (.string id) title).Overlooks more layout fun _ => True := by
  have named : ∀ other ∈ (Change.retitle id title).ids, Foreign more other := by
    simpa [Change.ids] using foreign
  exact (overlooks_change named).bind fun _ _ => overlooks_pure trivial

theorem overlooks_delete {id : String} (foreign : Foreign more id) :
    (delete (.string id)).Overlooks more layout fun _ => True := by
  have named : ∀ other ∈ (Change.drop id).ids, Foreign more other := by
    simpa [Change.ids] using foreign
  exact (overlooks_change named).bind fun _ _ => overlooks_pure trivial

theorem overlooks_fetchChunks (content : Bytes) (bound : Nat) :
    (fetchChunks content bound).Overlooks more layout fun _ => True := by
  induction bound with
  | zero => exact overlooks_throw _
  | succ bound ih =>
    have chunk : (writeChunk content).Overlooks more layout fun _ => True :=
      Overlooks.get_bind (fun _ _ => rfl) fun _ _ =>
        (overlooks_setDisk _).bind fun _ _ => overlooks_pure trivial
    refine chunk.perform.bind fun answer _ => (overlooks_ofExcept _ _).bind fun last _ => ?_
    exact ih.ite (overlooks_pure trivial)

theorem overlooks_fetch {id : String} (foreign : Foreign more id) :
    (fetch id).Overlooks more layout fun _ => True := by
  refine (overlooks_record _).bind fun _ _ => Overlooks.get_bind (fun s _ => ?_) fun s _ => ?_
  · simp only [Session.grown, Drive.file?_grown foreign]
    rfl
  · split
    · exact overlooks_throw _
    · exact overlooks_fetchChunks _ _

theorem overlooks_fetchTo {id : String} (foreign : Foreign more id) (target : LocalPath)
    (name : String) : (fetchTo target name id).Overlooks more layout fun _ => True := by
  refine Overlooks.handleIf ?_ fun _ => (overlooks_log _ _).bind fun _ _ => overlooks_throw _
  refine (overlooks_log _ _).bind fun _ _ => (overlooks_fetch foreign).bind fun _ _ => ?_
  refine (overlooks_log _ _).bind fun _ _ => overlooks_disk.bind fun disk _ => ?_
  exact (overlooks_ofExcept _ _).bind fun _ _ => overlooks_setDisk _

theorem overlooks_stage (target : LocalPath) :
    (stage target).Overlooks more layout fun _ => True := by
  refine Overlooks.handleIf (overlooks_disk.bind fun disk _ => ?_) fun _ => overlooks_throw _
  exact (overlooks_ofExcept _ _).bind fun _ _ => overlooks_setDisk _

theorem overlooks_unstage (target : LocalPath) :
    (unstage target).Overlooks more layout fun _ => True :=
  overlooks_disk.bind fun _ _ => (overlooks_ofExcept _ _).bind fun _ _ => overlooks_setDisk _

theorem overlooks_download {file : RemoteFile}
    (nowhere : Nowhere more (layout.folderFor file.category) file.name) (target : LocalPath) :
    (download file target).Overlooks more layout fun _ => True := by
  rw [download]
  refine (overlooks_pure trivial).ite ((overlooks_folderFor _).bind ?_)
  rintro _ rfl
  refine (overlooks_oneFileIn nowhere).bind fun found foreign => ?_
  have fetched :
      (do stage target; ensuring (fetchTo target file.name found.id) (unstage target)).Overlooks
        more layout fun _ => True :=
    (overlooks_stage _).bind fun _ _ =>
      (overlooks_fetchTo foreign _ _).ensuring (overlooks_unstage _)
  have refused (error : StorageError) : (storageError error : Operation PUnit).Overlooks more layout
      fun _ => True := overlooks_throw _
  exact Overlooks.ite ((refused _).bind fun _ _ => fetched) fetched

theorem overlooks_deleteFound {found : FoundFile} (foreign : Foreign more found.id)
    (name : String) : (deleteFound name found).Overlooks more layout fun _ => True := by
  refine Overlooks.handleIf ?_ fun failure => ?_
  · exact (overlooks_log _ _).bind fun _ _ => overlooks_delete foreign
  · exact (overlooks_log _ _).ite ((overlooks_log _ _).bind fun _ _ => overlooks_throw _)

theorem overlooks_remove {file : RemoteFile}
    (nowhere : Nowhere more (layout.folderFor file.category) file.name) :
    (remove file).Overlooks more layout fun _ => True := by
  have same : remove file = find file >>= fun found => found.forM (deleteFound file.name) := by
    rw [remove, find, bind_assoc]
  rw [same]
  refine (overlooks_find nowhere).bind fun found foreign => ?_
  exact Overlooks.forM trivial fun file member => overlooks_deleteFound (foreign file member) _

theorem overlooks_moveTitle {id : String} (foreign : Foreign more id) (source target : RemoteFile) :
    (moveTitle source target id).Overlooks more layout fun _ => True := by
  rw [moveTitle]
  refine (overlooks_pure trivial).ite ?_
  refine (overlooks_log _ _).bind fun _ _ => (overlooks_rename foreign _).bind fun confirmed _ => ?_
  have refused : (storageError .renamingFailed : Operation PUnit).Overlooks more layout
      fun _ => True := overlooks_throw _
  refine Overlooks.ite ((overlooks_log _ _).bind fun _ _ => ?_) (overlooks_pure trivial)
  exact refused.bind fun _ _ => overlooks_pure trivial

theorem overlooks_moveFolder {id targetFolder : String} (foreign : Foreign more id)
    (foreignFolder : Foreign more targetFolder) (name sourceFolder : String) :
    (moveFolder name sourceFolder targetFolder id).Overlooks more layout fun _ => True := by
  have leaving : ∀ other ∈ (Change.leave id sourceFolder).ids, Foreign more other := by
    simpa [Change.ids] using foreign
  have entering : ∀ other ∈ (Change.enter id targetFolder).ids, Foreign more other := by
    simpa [Change.ids] using ⟨foreign, foreignFolder⟩
  rw [moveFolder]
  refine (overlooks_pure trivial).ite ((overlooks_log _ _).bind fun _ _ => ?_)
  exact (overlooks_change leaving).bind fun _ _ =>
    (overlooks_change entering).bind fun _ _ => overlooks_pure trivial

theorem overlooks_deleteReplaced (modified : Bool) (targetText : String)
    {replaced : List FoundFile} (foreign : ∀ file ∈ replaced, Foreign more file.id) :
    (deleteReplaced modified targetText replaced).Overlooks more layout fun _ => True := by
  cases replaced with
  | nil => exact overlooks_pure trivial
  | cons old rest =>
    refine Overlooks.ite ((overlooks_log _ _).bind fun _ _ => ?_) (overlooks_pure trivial)
    exact overlooks_delete (foreign old (by simp))

section
variable {source target : RemoteFile}
variable (from_nowhere : Nowhere more (layout.folderFor source.category) source.name)
variable (to_nowhere : Nowhere more (layout.folderFor target.category) target.name)
include from_nowhere to_nowhere

theorem overlooks_locate :
    (locate source target).Overlooks more layout fun (file, replaced) =>
      (∃ text, layout.folderFor target.category = .string text) ∧ Foreign more file.id ∧
        ∀ old ∈ replaced, Foreign more old.id := by
  rw [locate]
  refine (overlooks_folderFor _).bind ?_
  rintro _ rfl
  refine (overlooks_oneFileIn from_nowhere).bind fun file foreign => ?_
  refine (overlooks_folderFor _).bind ?_
  rintro _ rfl
  refine (overlooks_filesIn to_nowhere).bind ?_
  rintro replaced ⟨text, foreignReplaced⟩
  have located : (pure (file, replaced) : Operation _).Overlooks more layout
      fun (file, replaced) => (∃ text, layout.folderFor target.category = .string text) ∧
        Foreign more file.id ∧ ∀ old ∈ replaced, Foreign more old.id :=
    overlooks_pure ⟨text, foreign, foreignReplaced⟩
  have refused (error : StorageError) : (storageError error : Operation PUnit).Overlooks more layout
      fun _ => True := overlooks_throw _
  exact Overlooks.ite ((refused _).bind fun _ _ => located) located

theorem overlooks_move
    (foreignFolder : ∀ text, layout.folderFor target.category = .string text → Foreign more text) :
    (move source target).Overlooks more layout fun _ => True := by
  rw [move]
  refine (overlooks_folderFor _).bind ?_
  rintro _ rfl
  refine (overlooks_folderFor _).bind ?_
  rintro _ rfl
  refine Overlooks.handleIf ?_ fun _ => (overlooks_log _ _).bind fun _ _ => overlooks_throw _
  refine (overlooks_locate from_nowhere to_nowhere).bind ?_
  rintro ⟨file, replaced⟩ ⟨⟨text, told⟩, foreign, foreignReplaced⟩
  refine (overlooks_moveTitle foreign _ _).bind fun renamed _ => ?_
  have entered : Foreign more (layout.folderFor target.category).told := by
    rw [told]
    exact foreignFolder text told
  exact (overlooks_moveFolder foreign entered _ _).bind fun moved _ =>
    overlooks_deleteReplaced _ _ foreignReplaced

end

end Repository

end DriveDepot
