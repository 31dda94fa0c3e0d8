import DriveDepot.Proofs.Listing
import DriveDepot.Proofs.NamePattern
import DriveDepot.Proofs.Overlooking.Client
import DriveDepot.Proofs.Upload

/-!
What is left of an upload that does not come to its end. Unless the drive has given it its name, a
file bears the temporary title, which is a name of no category but those for temporary and generic
files. So listings of the other categories do not tell it, and what is done to files of these
categories overlooks it. Only a move can meet it, as what it is to replace.
-/

namespace DriveDepot

/-- The temporary title of an upload is a name of no other category. -/
theorem Category.not_accepts_temporary {category : Category} (lasting : category ≠ .temp)
    (special : category ≠ .generic) (name : String) :
    category.accepts (Repository.temporaryMark ++ name) = false := by
  by_contra accepted
  have begun : Category.temp.pattern.opening <+: (Repository.temporaryMark ++ name).toList := by
    rw [String.toList_append]
    exact List.prefix_append _ _
  exact lasting (eq_of_openings special (by decide)
    (starts_with_opening (Bool.eq_true_of_not_eq_false accepted)) begun)

namespace Drive

/-- Of more files a listing tells some, after all others. -/
theorem exists_matching_grown (drive : Drive) (more : List StoredFile)
    (folder name : Option String) :
    ∃ others ⊆ more, (drive.grown more).matching folder name =
      drive.matching folder name ++ others := by
  rw [matching, matching]
  split
  · rw [select, grown, List.filter_append]
    exact ⟨_, List.filter_sublist.subset, rfl⟩
  · exact ⟨[], List.nil_subset _, rfl⟩

theorem exists_of_renamed {drive after : Drive} {id value : Json} {title : String}
    (renamed : drive.answer (.rename id title) = .ok (value, after)) :
    ∃ text, id = .string text ∧
      ∃ stored ∈ after.files, stored.id = text ∧ stored.title = title := by
  rw [answer, rename] at renamed
  split at renamed
  · cases renamed
  · rename_i stored found
    have there : drive.holds id = true := by
      rw [holds, found]
      rfl
    obtain ⟨text, rfl⟩ := exists_of_holds there
    obtain ⟨held, rfl, _⟩ := file?_eq_some found
    obtain ⟨_, rfl⟩ := Prod.mk.inj (Except.ok.inj renamed)
    exact ⟨_, rfl, { stored with title }, List.mem_map.mpr ⟨stored, held, by simp⟩, rfl, rfl⟩

end Drive

namespace Repository

open Operation

section
variable {category : Category}

theorem references_append {refused : List String}
    (unnamed : ∀ title ∈ refused, category.accepts title = false) (titles : List String) :
    references category (titles ++ refused) = references category titles := by
  induction titles with
  | nil =>
    refine List.eq_nil_iff_forall_not_mem.mpr fun file member => ?_
    obtain ⟨rfl, named⟩ := mem_references.mp member
    have accepted := file.accepted
    rw [unnamed _ named] at accepted
    cases accepted
  | cons title rest ih => rw [List.cons_append, references, references, ih]

/-- A listing passes over files that have no name of its category. -/
theorem list_grown {s : Session} (calm : s.schedule.Calm) (paged : s.drive.pageSize ≠ some 0)
    {more : List StoredFile} (unnamed : ∀ file ∈ more, category.accepts file.title = false) :
    (runOn (list category) (s.grown more)).1 = (runOn (list category) s).1 := by
  obtain ⟨folder, text⟩ | other := text_or_not (s.layout.folderFor category)
  · have before := list_calm calm paged text
    have after := list_calm (s := s.grown more) calm paged text
    obtain ⟨others, among, matching⟩ := s.drive.exists_matching_grown more (some folder) none
    have refused : ∀ title ∈ others.map (·.title), category.accepts title = false := by
      intro title member
      obtain ⟨file, there, rfl⟩ := List.mem_map.mp member
      exact unnamed file (among there)
    have same := references_append refused ((s.drive.matching (some folder) none).map (·.title))
    rw [← List.map_append, ← matching] at same
    exact after.2.trans ((congrArg Except.ok same).trans before.2.symm)
  · have refused (t : Session) (same : t.layout = s.layout) :
        (list category).Ends t fun outcome _ =>
          outcome = .error (.ofMishap (.notAText (s.layout.folderFor category).kind)) := by
      rw [list, ends_folderFor_bind, same, filesIn_notText other]
      rfl
    exact (refused (s.grown more) rfl).trans (refused s rfl).symm

end

/-- The drive has given a file its name: it was asked to, no fault kept it from doing so, and there
is the file of that name. -/
def Named (file : RemoteFile) (s t : Session) : Prop :=
  ∃ id made, t.calls = s.calls ++ made ∧ .drive (.rename (.string id) file.name) ∈ made ∧
    s.schedule.Effective .rename ∧
      ∃ stored ∈ t.drive.files, stored.id = id ∧ stored.title = file.name

/-- The file that an upload has left under its temporary title, if there is one. -/
def Leftover (file : RemoteFile) (s : Session) (left : List StoredFile) : Prop :=
  left = [] ∨ ∃ folder content, s.layout.folderFor file.category = .string folder ∧
    left = [s.drive.newFile (temporaryMark ++ file.name) folder content]

/-- What there is after the steps of an upload, whichever of them were made. -/
def Leaves (file : RemoteFile) (s t : Session) : Prop :=
  Named file s t ∨ ∃ left, Leftover file s left ∧ t.drive = s.drive.grown left

theorem leftover_of_staged {s : Session} {file : RemoteFile} {content : Bytes} {after : Drive}
    {value : Json}
    (staged : s.drive.answer (staging s.layout file content) = .ok (value, after)) :
    ∃ left, Leftover file s left ∧ after = s.drive.grown left := by
  rw [staging] at staged
  cases held : s.drive.holds (s.layout.folderFor file.category) with
  | false => cases staged.symm.trans (Drive.insertFile_eq_error held _ _)
  | true =>
    obtain ⟨folder, text⟩ := Drive.exists_of_holds held
    rw [text] at held staged
    obtain ⟨_, rfl⟩ :=
      Prod.mk.inj (Except.ok.inj (staged.symm.trans (Drive.insertFile_eq_ok held _ _)))
    exact ⟨_, .inr ⟨folder, content, text, rfl⟩, rfl⟩

theorem rename_leaves {s t : Session} {file : RemoteFile} {content : Bytes}
    (asked : s.Asked (staging s.layout file content) t)
    (left : ∃ left, Leftover file s left ∧ t.drive = s.drive.grown left) (id : Json) :
    (rename id file.name).Ends t fun _ u => Leaves file s u := by
  have affected : (request (.rename id file.name)).Ends t fun _ u => Leaves file s u := by
    apply (request_affects _ t).mono
    rintro _ u ⟨again, same | ⟨effective, value, renamed⟩⟩
    · exact .inr (same ▸ left)
    · obtain ⟨text, rfl, held⟩ := Drive.exists_of_renamed renamed
      have calls : u.calls = s.calls ++
          [.drive (staging s.layout file content), .drive (.rename (.string text) file.name)] := by
        rw [again.calls, asked.calls, List.append_assoc]
        rfl
      have other : CallKind.insert ≠ .rename := by decide
      have meets : t.schedule.next? .rename = s.schedule.next? .rename := by
        rw [asked.schedule]
        exact Schedule.next?_count_of_ne other _
      exact .inl ⟨text, _, calls, by simp, fun fault met => effective fault (meets.trans met), held⟩
  exact affected.bind (fun _ _ h => ends_pure.mpr h) fun _ _ h => h

/-- Whatever faults an upload meets, the drive has given a file its name, or it has at most one more
file, under the temporary title. -/
theorem upload_leaves (source : LocalPath) (file : RemoteFile) (s : Session) :
    (upload source file).Ends s fun _ t => Leaves file s t := by
  have untouched : ∃ left, Leftover file s left ∧ s.drive = s.drive.grown left :=
    ⟨[], .inl rfl, s.drive.grown_nil.symm⟩
  rw [upload, ends_folderFor_bind]
  refine Ends.bind (P := fun _ t => Leaves file s t) ?_ ?_ fun _ _ h => h
  · refine Ends.handleIf (P := fun _ t => Leaves file s t) ?_ (fun _ _ h => h) ?_ fun _ _ _ h => h
    · refine Ends.log_bind fun journal => ends_disk_bind.mpr ?_
      refine Ends.ofExcept_bind (fun content _ => ?_) fun _ _ => .inr untouched
      refine (request_affects (staging s.layout file content) _).bind ?_ ?_
      · rintro inserted t ⟨asked, affected⟩
        have left : ∃ left, Leftover file s left ∧ t.drive = s.drive.grown left := by
          obtain same | ⟨_, value, staged⟩ := affected
          · exact same ▸ untouched
          · exact leftover_of_staged staged
        refine Ends.log_bind fun journal' => ?_
        refine Ends.ofExcept_bind (fun id _ => ?_) fun _ _ => .inr left
        exact rename_leaves (asked.of_journal.journal journal') left id
      · rintro failure t ⟨_, same | ⟨_, value, staged⟩⟩
        · exact .inr (same ▸ untouched)
        · exact .inr (leftover_of_staged staged)
    · intro failure t _ h
      exact Ends.log_bind fun _ => h
  · intro confirmed t h
    cases confirmed with
    | true => exact h
    | false => exact Ends.log_bind fun _ => h

/-- The session in which a client begins anew under a schedule. -/
def anew (s : Session) (schedule : Schedule) : Session :=
  { s with schedule, calls := [], journal := [] }

/-- An upload changes nothing but the drive, as far as a client that begins anew can see. -/
theorem upload_keeps (schedule : Schedule) (drive : Drive) (source : LocalPath)
    (file : RemoteFile) :
    (upload source file).Along (Session.Keeps fun s => { anew s schedule with drive }) := by
  have tells (level : Level) (message : String) :
      (log level message).Along (Session.Keeps fun s => { anew s schedule with drive }) :=
    fun _ => Ends.log fun _ => rfl
  have asks (request : Request) : (Operation.request request).Along
      (Session.Keeps fun s => { anew s schedule with drive }) := by
    intro s
    apply (request_met request s).mono
    intro outcome t h
    have answered {outcome : Except Failure Json} {u : Session}
        (k : Answered request (s.called (.drive request)) outcome u) :
        { anew u schedule with drive } = { anew s schedule with drive } := by
      cases k <;> rfl
    split at h
    · exact answered h
    · cases h with
      | answered | raised => rfl
      | raisedLate _ effect => exact answered effect
      | failed effect => exact answered effect
  rw [upload]
  refine (along_layout.bind fun _ => along_pure _).bind fun folder => Along.bind ?_ fun _ => ?_
  · refine Along.handleIf ?_ fun _ => (tells _ _).bind fun _ => along_throw _
    refine (tells _ _).bind fun _ => along_disk.bind fun disk => ?_
    refine (along_ofExcept _ _).bind fun content => (asks _).bind fun inserted => ?_
    refine (tells _ _).bind fun _ => (along_ofExcept _ _).bind fun id => ?_
    exact (asks _).bind fun _ => along_pure _
  · exact Along.ite ((tells _ _).bind fun _ => along_throw _) (along_pure _)

/-- Begun anew after the second session, the operation comes to the same as after the first, and
does the same. The drive still has the files that it had in addition. -/
def AsAfter (left : List StoredFile) (schedule : Schedule) (s t : Session)
    (operation : Operation α) : Prop :=
  (operation.Ends (anew s schedule)) fun outcome u =>
    runOn operation (anew t schedule) = (outcome, u.grown left)

section
variable {s : Session} {file other : RemoteFile} {left : List StoredFile}
variable (leftover : Leftover file s left)
include leftover

theorem Leftover.title {stored : StoredFile} (member : stored ∈ left) :
    stored.title = temporaryMark ++ file.name := by
  obtain rfl | ⟨folder, content, _, rfl⟩ := leftover
  · cases member
  · obtain rfl := List.mem_singleton.mp member
    rfl

theorem Leftover.foreign {id : String} (other : id ≠ s.drive.newId) : Foreign left id := by
  intro stored member same
  obtain rfl | ⟨folder, content, _, rfl⟩ := leftover
  · cases member
  · obtain rfl := List.mem_singleton.mp member
    exact other same.symm

/-- A file of another category than temporary and generic ones is none that an upload has left. -/
theorem Leftover.nowhere (lasting : other.category ≠ .temp) (special : other.category ≠ .generic)
    (folder : Json) : Nowhere left folder other.name := by
  refine Nowhere.of_title (fun stored member same => ?_) folder
  have accepted := other.accepted
  rw [← same, leftover.title member, Category.not_accepts_temporary lasting special] at accepted
  cases accepted

/-- A target is none that an upload has left, unless it has that name in that folder. -/
theorem Leftover.nowhere_target {target : RemoteFile}
    (elsewhere : target.name = temporaryMark ++ file.name →
      s.layout.folderFor target.category ≠ s.layout.folderFor file.category) :
    Nowhere left (s.layout.folderFor target.category) target.name := by
  intro stored member same parent inside here
  obtain rfl | ⟨folder, content, text, rfl⟩ := leftover
  · cases member
  · obtain rfl := List.mem_singleton.mp member
    obtain rfl := List.mem_singleton.mp inside
    exact elsewhere same.symm (here.trans text.symm)

end

/-- As long as the drive has not given a file its name, an upload does not show. Whatever faults it
has met, listings of all categories but those for temporary and generic files tell the same
afterwards, and finding, downloading, deleting and moving a file of such a category come to the same
and do the same. Only a move whose target is the file that is left meets it. -/
theorem upload_invisible {s : Session} (paged : s.drive.pageSize ≠ some 0)
    (unused : ∀ file ∈ s.drive.files, file.id ≠ s.drive.newId) (source : LocalPath)
    (file : RemoteFile) :
    (upload source file).Ends s fun _ t => ¬ Named file s t →
      (∀ schedule : Schedule, schedule.Calm → ∀ category ≠ .temp, category ≠ .generic →
        (runOn (list category) (anew t schedule)).1 =
          (runOn (list category) (anew s schedule)).1) ∧
      ∃ left, Leftover file s left ∧ t.drive = s.drive.grown left ∧
        ∀ schedule : Schedule, schedule.Raising → ∀ other : RemoteFile,
          other.category ≠ .temp → other.category ≠ .generic →
            AsAfter left schedule s t (find other) ∧
            (∀ path, AsAfter left schedule s t (download other path)) ∧
            AsAfter left schedule s t (remove other) ∧
            ∀ target : RemoteFile,
              (target.name = temporaryMark ++ file.name →
                s.layout.folderFor target.category ≠ s.layout.folderFor file.category) →
              s.layout.folderFor target.category ≠ .string s.drive.newId →
                AsAfter left schedule s t (move other target) := by
  apply ((upload_leaves source file s).and (Ends.run _ s)).mono
  rintro outcome t ⟨leaves, run⟩ unnamed
  obtain ⟨left, leftover, drive⟩ := leaves.resolve_left unnamed
  have anew_grown (schedule : Schedule) : anew t schedule = (anew s schedule).grown left := by
    calc anew t schedule
      _ = { anew s schedule with drive := t.drive } :=
        (upload_keeps schedule t.drive source file s).of_eq run
      _ = (anew s schedule).grown left := by
        rw [drive]
        rfl
  have apart {schedule : Schedule} (raising : schedule.Raising) :
      (anew s schedule).Apart left s.layout :=
    ⟨fun held there => leftover.foreign (unused held there), rfl, raising, paged⟩
  refine ⟨fun schedule calm category lasting special => ?_, left, leftover, drive, ?_⟩
  · rw [anew_grown]
    refine list_grown (s := anew s schedule) calm paged fun stored member => ?_
    rw [leftover.title member]
    exact Category.not_accepts_temporary lasting special file.name
  · intro schedule raising other lasting special
    have nowhere := leftover.nowhere lasting special
    have after {α : Type} {P : α → Prop} {operation : Operation α}
        (overlooks : operation.Overlooks left s.layout P) :
        AsAfter left schedule s t operation := by
      rw [AsAfter, anew_grown]
      exact (overlooks _ (apart raising)).mono fun _ _ h => h.1
    refine ⟨after (overlooks_find (nowhere _)), fun _ => after (overlooks_download (nowhere _) _),
      after (overlooks_remove (nowhere _)), fun target elsewhere fresh => ?_⟩
    have foreign : ∀ text, s.layout.folderFor target.category = .string text → Foreign left text :=
      fun text told => leftover.foreign fun same => fresh (told.trans (congrArg Json.string same))
    exact after (overlooks_move (nowhere _) (leftover.nowhere_target elsewhere) foreign)

/-- The drive fails to rename a file, and there is one of the title that an upload of `notes` gives
its file for the time being. -/
def halfUploaded : Session :=
  smallSession [smallFile "d" "db-a-1" "databases" [1], smallFile "g" "temp-notes" "repo" [2]]
    [⟨.rename, some 1, false, .raises (.provider (.http 500 "boom"))⟩]
    (Disk.empty.set (Disk.workingDirectory ++ ["in"]) (.file [4, 5]))

def uploadedGeneric : RemoteFile := ⟨.generic, "notes", by decide +kernel⟩

def movedDatabase : RemoteFile := ⟨.metadataDb, "db-a-1", by decide +kernel⟩

def replacedGeneric : RemoteFile := ⟨.generic, "temp-notes", by decide +kernel⟩

theorem not_named_halfUploaded (t : Session) : ¬ Named uploadedGeneric halfUploaded t := by
  rintro ⟨_, _, _, _, effective, _⟩
  cases (effective _ rfl).1

theorem upload_invisible_halfUploaded :
    halfUploaded.drive.pageSize ≠ some 0 ∧
      (∀ file ∈ halfUploaded.drive.files, file.id ≠ halfUploaded.drive.newId) ∧
      halfUploaded.schedule.Raising ∧
      (upload ⟨.none, ["in"]⟩ uploadedGeneric).Ends halfUploaded fun outcome t =>
        outcome =
          .error ((Failure.ofProvider (.http 500 "boom")).wrap (.uploadFailed "in" "notes")) ∧
        (runOn (list .metadataDb) (anew t .calm)).1 =
          (runOn (list .metadataDb) (anew halfUploaded .calm)).1 ∧
        ∃ left, t.drive = halfUploaded.drive.grown left ∧
          AsAfter left halfUploaded.schedule halfUploaded t (remove movedDatabase) := by
  have paged : halfUploaded.drive.pageSize ≠ some 0 := by decide
  have unused : ∀ file ∈ halfUploaded.drive.files, file.id ≠ halfUploaded.drive.newId := by
    decide +kernel
  have raising : halfUploaded.schedule.Raising := .of_reasons [] (by decide)
  refine ⟨paged, unused, raising, by decide +kernel, ?_⟩
  obtain ⟨lists, left, _, drive, others⟩ :=
    upload_invisible paged unused ⟨.none, ["in"]⟩ uploadedGeneric (not_named_halfUploaded _)
  refine ⟨lists .calm rfl .metadataDb (by decide) (by decide), left, drive, ?_⟩
  exact (others _ raising movedDatabase (by decide) (by decide)).2.2.1

/-- A move can meet what an upload has left: where it is to replace a file of that very name, it
finds two. -/
theorem move_meets_leftover :
    (upload ⟨.none, ["in"]⟩ uploadedGeneric).Ends halfUploaded fun outcome t =>
      outcome = .error ((Failure.ofProvider (.http 500 "boom")).wrap (.uploadFailed "in" "notes")) ∧
      ¬ Named uploadedGeneric halfUploaded t ∧
      (runOn (move movedDatabase replacedGeneric) (anew halfUploaded .calm)).1 = .ok () ∧
      (runOn (move movedDatabase replacedGeneric) (anew t .calm)).1 =
        .error ((Failure.ofStorage (.severalTargets 2)).wrap
          (.moveFailed "databases:db-a-1" "repo:temp-notes")) :=
  ⟨by decide +kernel, not_named_halfUploaded _, by decide +kernel, by decide +kernel⟩

end Repository

end DriveDepot
