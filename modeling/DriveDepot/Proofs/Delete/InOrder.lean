import DriveDepot.Proofs.Along.Listings
import DriveDepot.Proofs.Delete.Interrupted

namespace DriveDepot

/-- The id of the file that a call is to delete. -/
def Call.deletion? : Call → Option Json
  | .drive (.delete id) => some id
  | _ => none

namespace Session

/-- The ids of the files that the drive was asked to delete, in order. -/
def deletionsAsked (s : Session) : List Json := s.calls.filterMap Call.deletion?

theorem Asked.deletionsAsked {s t : Session} {id : Json} (h : s.Asked (.delete id) t) :
    t.deletionsAsked = s.deletionsAsked ++ [id] :=
  h.filterMap_calls Call.deletion?

end Session

namespace Repository

open Operation

/-- A delete call, with the failure that it came to if it failed. -/
structure Attempt where
  id : String
  failure : Option Failure

namespace Attempt

/-- The file is deleted, or the drive says that it does not know it. -/
def Passed (attempt : Attempt) : Prop :=
  ∀ failure, attempt.failure = some failure → failure.isNotFound = true

/-- What the nth delete call comes to. A fault decides it, or else the file is deleted; only an
empty id is one that the drive does not know. -/
def Follows (attempt : Attempt) (schedule : Schedule) (n : Nat) : Prop :=
  match attempt.failure with
  | none => schedule.faultAt? .delete n = none
  | some failure => schedule.RaisesAt .delete n failure ∨
      failure = .ofProvider .notFound ∧ attempt.id = ""

theorem Follows.of_faults {attempt : Attempt} {schedule other : Schedule} {n : Nat}
    (h : attempt.Follows other n) (same : other.faults = schedule.faults) :
    attempt.Follows schedule n := by
  simp only [Follows, Schedule.RaisesAt, Schedule.faultAt?, same] at h ⊢
  exact h

end Attempt

structure Attempted (s : Session) (attempts : List Attempt) (t : Session) : Prop where
  around : s.SameAround t
  asked : t.deletionsAsked = s.deletionsAsked ++ attempts.map (.string ·.id)
  executions : t.executions .delete = s.executions .delete + attempts.length
  follows : ∀ (i : Nat) (attempt : Attempt), attempts[i]? = some attempt →
    attempt.Follows s.schedule (s.executions .delete + i + 1)
  drive : ∃ dropped, dropped ⊆ attempts.map (·.id) ∧ t.drive = s.drive.applyAll (dropped.map .drop) ∧
    ∀ attempt ∈ attempts, attempt.failure = none → attempt.id ∈ dropped

section
variable {s t u : Session} {attempts more : List Attempt}

theorem Attempted.nil (s : Session) : Attempted s [] s :=
  ⟨(Session.SameState.refl s).toSameAround, (List.append_nil _).symm, rfl, by simp,
    [], List.nil_subset _, rfl, by simp⟩

theorem Attempted.trans (h : Attempted s attempts t) (k : Attempted t more u) :
    Attempted s (attempts ++ more) u := by
  refine ⟨h.around.trans k.around, ?_, ?_, fun i attempt there => ?_, ?_⟩
  · rw [k.asked, h.asked, List.map_append, List.append_assoc]
  · rw [k.executions, h.executions, List.length_append, Nat.add_assoc]
  · obtain early | late := Nat.lt_or_ge i attempts.length
    · rw [List.getElem?_append_left early] at there
      exact h.follows i attempt there
    · rw [List.getElem?_append_right late] at there
      have follows := k.follows _ attempt there
      have counted : t.executions .delete + (i - attempts.length) =
          s.executions .delete + i := by
        rw [h.executions]
        omega
      rw [counted] at follows
      exact follows.of_faults h.around.faults
  · obtain ⟨dropped, among, drive, all⟩ := h.drive
    obtain ⟨dropped', among', drive', all'⟩ := k.drive
    refine ⟨dropped ++ dropped', ?_, ?_, ?_⟩
    · rw [List.map_append]
      exact List.append_subset.mpr ⟨List.subset_append_of_subset_left _ among,
        List.subset_append_of_subset_right _ among'⟩
    · rw [drive', drive, List.map_append, Drive.applyAll_append]
    · intro attempt member succeeded
      obtain before | later := List.mem_append.mp member
      · exact List.mem_append_left _ (all attempt before succeeded)
      · exact List.mem_append_right _ (all' attempt later succeeded)

/-- A file that no attempt was about is as it was. -/
theorem Attempted.untouched (h : Attempted s attempts t) {file : StoredFile}
    (other : file.id ∉ attempts.map (·.id)) : file ∈ t.drive.files ↔ file ∈ s.drive.files := by
  obtain ⟨dropped, among, drive, _⟩ := h.drive
  rw [drive, Drive.mem_files_drops]
  exact and_iff_left fun member => other (among member)

theorem Attempted.sublist (h : Attempted s attempts t) :
    t.drive.files.Sublist s.drive.files := by
  obtain ⟨dropped, _, drive, _⟩ := h.drive
  rw [drive, Drive.files_drops]
  exact List.filter_sublist

/-- A delete call that succeeded has left no file of its id. -/
theorem Attempted.gone (h : Attempted s attempts t) {attempt : Attempt}
    (member : attempt ∈ attempts) (succeeded : attempt.failure = none) {file : StoredFile}
    (held : file ∈ t.drive.files) : file.id ≠ attempt.id := by
  obtain ⟨dropped, _, drive, all⟩ := h.drive
  rw [drive] at held
  intro same
  exact (Drive.mem_files_drops.mp held).2 (same ▸ all attempt member succeeded)

end

/-- The attempt that a delete call is. -/
def Attempt.of (id : String) : Except Failure Unit → Attempt
  | .ok () => ⟨id, none⟩
  | .error failure => ⟨id, some failure⟩

@[simp] theorem Attempt.id_of (id : String) (result : Except Failure Unit) :
    (Attempt.of id result).id = id := by cases result <;> rfl

theorem Attempt.passed_of (id : String) {name : String} {result : Except Failure Unit}
    (passed : judged name result = .ok ()) : (Attempt.of id result).Passed := by
  rintro failure same
  cases result with
  | ok => cases same
  | error =>
    obtain rfl := Option.some.inj same
    by_contra other
    rw [judged, if_neg other] at passed
    cases passed

theorem Attempted.of_dropped {s t : Session} {id : String} {result : Except Failure Unit}
    (asked : s.Asked (.delete (.string id)) t) (dropped : Dropped id s result t.drive)
    (held : id ≠ "" → s.drive.holds (.string id) = true) :
    Attempted s [.of id result] t := by
  have follows : (Attempt.of id result).Follows s.schedule (s.executions .delete + 1) := by
    generalize t.drive = after at dropped
    cases dropped with
    | done spared => exact (Schedule.next?_eq_faultAt? _ _).symm.trans spared
    | unknown missing =>
      refine .inr ⟨rfl, ?_⟩
      by_contra addressed
      have known := held addressed
      rw [Drive.holds, missing] at known
      cases known
    | raised raises => exact .inl ((Schedule.raisesNext_iff _ _ _).mp raises)
  refine ⟨asked.toSameAround, ?_, asked.executions_self, ?_, ?_⟩
  · rw [asked.deletionsAsked, List.map_singleton, Attempt.id_of]
  · rintro (_ | i) attempt there
    · obtain rfl := Option.some.inj there
      exact follows
    · cases there
  · rw [List.map_singleton, Attempt.id_of]
    generalize t.drive = after at dropped
    cases dropped with
    | done => exact ⟨[id], List.Subset.refl _, rfl, by simp⟩
    | unknown => exact ⟨[], List.nil_subset _, rfl, by simp [Attempt.of]⟩
    | raised _ either =>
      obtain rfl | rfl := either
      · exact ⟨[], List.nil_subset _, rfl, by simp [Attempt.of]⟩
      · exact ⟨[id], List.Subset.refl _, rfl, by simp⟩

/-- What the attempts mean for the deletion of a name. It is over when all files have been tried, or
with the first attempt that fails for another reason than that the file is unknown. -/
inductive Verdict (name : String) (ids : List String) (attempts : List Attempt) :
    Except Failure Unit → Prop
  | all (every : attempts.map (·.id) = ids) (passed : ∀ attempt ∈ attempts, attempt.Passed) :
      Verdict name ids attempts (.ok ())
  | failed (before : List Attempt) {id : String} {failure : Failure}
      (last : attempts = before ++ [⟨id, some failure⟩]) (inOrder : attempts.map (·.id) <+: ids)
      (passed : ∀ attempt ∈ before, attempt.Passed) (other : failure.isNotFound = false) :
      Verdict name ids attempts (.error (deletionFailure name failure))

theorem Verdict.inOrder {name : String} {ids : List String} {attempts : List Attempt}
    {outcome : Except Failure Unit} (h : Verdict name ids attempts outcome) :
    attempts.map (·.id) <+: ids := by
  cases h with
  | all every => exact every ▸ List.prefix_rfl
  | failed _ _ inOrder => exact inOrder

theorem Verdict.cons {name : String} {ids : List String} {attempts : List Attempt}
    {outcome : Except Failure Unit} (h : Verdict name ids attempts outcome) {attempt : Attempt}
    (passed : attempt.Passed) : Verdict name (attempt.id :: ids) (attempt :: attempts) outcome := by
  cases h with
  | all every others =>
    exact .all (congrArg (attempt.id :: ·) every) (List.forall_mem_cons.mpr ⟨passed, others⟩)
  | failed before last inOrder others other =>
    exact .failed (attempt :: before) (congrArg (attempt :: ·) last)
      (List.cons_prefix_cons.mpr ⟨rfl, inOrder⟩) (List.forall_mem_cons.mpr ⟨passed, others⟩) other

/-- Each delete call leaves the files that are yet to be deleted. -/
theorem deleteEach_attempts {s : Session} (raising : s.schedule.Raising) (name : String)
    {found : List FoundFile} (different : (found.map (·.id)).Nodup)
    (held : ∀ file ∈ found, file.id ≠ "" → s.drive.holds (.string file.id) = true) :
    (found.forM (deleteFound name)).Ends s fun outcome t =>
      ∃ attempts, Attempted s attempts t ∧ Verdict name (found.map (·.id)) attempts outcome := by
  induction found generalizing s with
  | nil => exact ends_pure.mpr ⟨[], .nil s, .all rfl (by simp)⟩
  | cons file rest ih =>
    obtain ⟨apart, different⟩ := List.nodup_cons.mp different
    obtain ⟨there, held⟩ := List.forall_mem_cons.mp held
    change (deleteFound name file >>= fun _ => rest.forM (deleteFound name)).Ends s _
    refine (deleteFound_judges raising name file).bind ?_ ?_
    · rintro ⟨⟩ t ⟨asked, result, dropped, passed⟩
      have first : Attempted s [.of file.id result] t := .of_dropped asked dropped there
      have still : ∀ other ∈ rest, other.id ≠ "" → t.drive.holds (.string other.id) = true := by
        intro other member addressed
        have ne : other.id ≠ file.id := fun same =>
          apart (List.mem_map.mpr ⟨other, member, same⟩)
        obtain ⟨_, stored, before, same⟩ := Drive.holds_string.mp (held other member addressed)
        refine Drive.holds_string.mpr ⟨addressed, stored, ?_, same⟩
        exact (first.untouched (by simpa [same] using ne)).mpr before
      apply (ih (asked.raising raising) different still).mono
      rintro outcome u ⟨attempts, later, verdict⟩
      refine ⟨.of file.id result :: attempts, first.trans later, ?_⟩
      have verdict := verdict.cons (Attempt.passed_of file.id passed.symm)
      rwa [Attempt.id_of] at verdict
    · rintro failure t ⟨asked, result, dropped, failed⟩
      refine ⟨[.of file.id result], .of_dropped asked dropped there, ?_⟩
      cases result with
      | ok => cases failed
      | error why =>
        rw [judged] at failed
        split at failed
        · cases failed
        · rename_i other
          obtain rfl := Except.error.inj failed
          refine .failed [] rfl ?_ (by simp) (Bool.eq_false_iff.mpr other)
          exact List.cons_prefix_cons.mpr ⟨rfl, List.nil_prefix⟩

/-- What a search leaves as it was. -/
theorem along_filesIn_keeps (folder : Json) (name : Option String) :
    (filesIn folder name).Along (Session.Keeps fun s => (s.deletionsAsked, s.executions .delete)) := by
  refine along_filesIn (.keeps (fun _ _ => rfl) fun s t request asked listing => ?_) folder name
  refine Prod.ext ?_ (asked.executions_of_ne (by simp [listing]))
  have calls := asked.filterMap_calls Call.deletion?
  cases request with
  | listFiles | listFolders => exact calls.trans (List.append_nil _)
  | _ => cases listing

/-- The files that a search finds can all be deleted, each under its own id. -/
theorem filesIn_addressed {s : Session} (raising : s.schedule.Raising)
    (distinct : s.drive.DistinctIds) (folder : Json) (name : Option String) :
    (filesIn folder name).Ends s fun outcome t => s.SameState t ∧ ∀ found, outcome = .ok found →
      (found.map (·.id)).Nodup ∧
        ∀ file ∈ found, file.id ≠ "" → t.drive.holds (.string file.id) = true := by
  obtain ⟨folder, rfl⟩ | other := text_or_not folder
  · rw [filesIn_string]
    apply (Search.files_ends raising folder name).mono
    rintro outcome t ⟨same, collected⟩
    refine ⟨same, ?_⟩
    rintro found rfl
    constructor
    · have part := (collected.found_prefix.sublist.map (·.id)).trans
        (List.map_map ▸ (Drive.matching_sublist ..).map _)
      exact part.nodup distinct
    · intro file member addressed
      obtain ⟨stored, matching, rfl⟩ := collected.stored member
      rw [same.drive]
      exact Drive.holds_string.mpr ⟨addressed, stored,
        (Drive.matching_sublist ..).subset matching, rfl⟩
  · rw [filesIn_notText other]
    exact ⟨.refl s, nofun⟩

theorem Attempted.of_found {s t u : Session} {attempts : List Attempt} (same : s.SameState t)
    (kept : s.Keeps (fun s => (s.deletionsAsked, s.executions .delete)) t)
    (h : Attempted t attempts u) : Attempted s attempts u := by
  obtain ⟨asked, executions⟩ := Prod.mk.inj kept
  refine ⟨same.toSameAround.trans h.around, ?_, ?_, fun i attempt there => ?_, ?_⟩
  · rw [h.asked, asked]
  · rw [h.executions, executions]
  · exact executions ▸ (h.follows i attempt there).of_faults same.faults
  · exact same.drive ▸ h.drive

theorem remove_attempts {s : Session} (raising : s.schedule.Raising)
    (distinct : s.drive.DistinctIds) (file : RemoteFile) :
    (remove file).Ends s fun outcome t =>
      match (runOn (filesIn (s.layout.folderFor file.category) (some file.name)) s).1 with
      | .ok found => (found.map (·.id)).Nodup ∧ ∃ attempts, Attempted s attempts t ∧
          Verdict file.name (found.map (·.id)) attempts outcome
      | .error failure => outcome = .error failure ∧ Attempted s [] t := by
  rw [remove, ends_folderFor_bind]
  refine ((filesIn_addressed raising distinct _ _).and
    ((along_filesIn_keeps _ _ s).and (.run _ s))).bind ?_ ?_
  · rintro found t ⟨⟨same, told⟩, kept, run⟩
    obtain ⟨different, held⟩ := told found rfl
    rw [run]
    apply (deleteEach_attempts (same.raising raising) file.name different held).mono
    rintro outcome u ⟨attempts, attempted, verdict⟩
    exact ⟨different, attempts, attempted.of_found same kept, verdict⟩
  · rintro failure t ⟨⟨same, _⟩, kept, run⟩
    rw [run]
    exact ⟨rfl, (Attempted.nil t).of_found same kept⟩

/-- Without faults, only an empty id is one that cannot be deleted. -/
theorem Attempt.Follows.eq_none {attempt : Attempt} {schedule : Schedule} {n : Nat}
    (h : attempt.Follows schedule n) (calm : schedule.Calm) (addressed : attempt.id ≠ "") :
    attempt.failure = none := by
  cases why : attempt.failure with
  | none => rfl
  | some failure =>
    rw [Follows, why] at h
    obtain ⟨fault, met, _⟩ | ⟨_, empty⟩ := h
    · rw [Schedule.faultAt?, calm] at met
      cases met
    · exact absurd empty addressed

theorem Attempted.succeeded {s t : Session} {attempts : List Attempt} (h : Attempted s attempts t)
    (calm : s.schedule.Calm) {attempt : Attempt} (member : attempt ∈ attempts)
    (addressed : attempt.id ≠ "") : attempt.failure = none := by
  obtain ⟨i, there⟩ := List.getElem?_of_mem member
  exact (h.follows i attempt there).eq_none calm addressed

theorem remove_none {s : Session} (calm : s.schedule.Calm) {file : RemoteFile} {folder : String}
    (text : s.layout.folderFor file.category = .string folder)
    (none_there : s.drive.matching (some folder) (some file.name) = []) :
    (remove file).Ends s fun outcome t =>
      outcome = .ok () ∧ t.deletionsAsked = s.deletionsAsked ∧ s.SameState t := by
  rw [remove, ends_folderFor_bind]
  have searched := along_filesIn_keeps (s.layout.folderFor file.category) (some file.name) s
  rw [text, filesIn_string] at searched ⊢
  refine (searched.and (Search.files_ends calm.raising _ _)).bind ?_ ?_
  · rintro found t ⟨kept, same, collected⟩
    obtain rfl : found = [] := by
      rw [collected.eq_of_calm calm, none_there]
      rfl
    exact ends_pure.mpr ⟨rfl, (Prod.mk.inj kept).1, same⟩
  · rintro failure t ⟨_, _, collected⟩
    rw [none_there] at collected
    cases collected with
    | raised raises => exact absurd raises (calm.not_raises _)
    | endless _ more => exact absurd rfl more

/-- Without faults a search finds all files that match. -/
theorem filesIn_ids_of_calm {s : Session} (calm : s.schedule.Calm) {folder : String}
    {name : Option String}
    {found : List FoundFile} (listed : (runOn (filesIn (.string folder) name) s).1 = .ok found) :
    found.map (·.id) = (s.drive.matching (some folder) name).map (·.id) := by
  rw [filesIn_string] at listed
  have run : runOn (Search.files (some folder) name) s = (.ok found, _) := Prod.ext listed rfl
  obtain ⟨_, collected⟩ := (Search.files_ends calm.raising (some folder) name).of_eq run
  rw [collected.eq_of_calm calm, List.map_map]
  rfl

/-- Without faults all files that are found are deleted. -/
theorem remove_all {s : Session} (calm : s.schedule.Calm) (distinct : s.drive.DistinctIds)
    (addressed : s.drive.Addressed) {file : RemoteFile} {folder : String}
    (text : s.layout.folderFor file.category = .string folder) {found : List FoundFile}
    (listed : (runOn (filesIn (.string folder) (some file.name)) s).1 = .ok found) :
    (remove file).Ends s fun outcome t => outcome = .ok () ∧ s.SameAround t ∧
      t.drive.matching (some folder) (some file.name) = [] := by
  have worked := remove_attempts calm.raising distinct file
  rw [text, listed] at worked
  have ids := filesIn_ids_of_calm calm listed
  apply worked.mono
  rintro outcome t ⟨_, attempts, attempted, verdict⟩
  have all : ∀ attempt ∈ attempts, attempt.failure = none := by
    intro attempt member
    have among := verdict.inOrder.subset (List.mem_map_of_mem (f := (·.id)) member)
    rw [ids] at among
    obtain ⟨stored, matching, same⟩ := List.mem_map.mp among
    exact attempted.succeeded calm member
      (same ▸ addressed stored (Drive.mem_of_matching matching).1)
  cases verdict with
  | failed _ last => cases all ⟨_, some _⟩ (last ▸ List.mem_append_right _ List.mem_cons_self)
  | all every =>
    refine ⟨rfl, attempted.around, List.eq_nil_iff_forall_not_mem.mpr fun stored matching => ?_⟩
    obtain ⟨quotable, held, kept⟩ := Drive.mem_matching.mp matching
    have before : stored ∈ s.drive.matching (some folder) (some file.name) :=
      Drive.mem_matching.mpr ⟨quotable, attempted.sublist.subset held, kept⟩
    have tried : stored.id ∈ attempts.map (·.id) := by
      rw [every, ids]
      exact List.mem_map_of_mem before
    obtain ⟨attempt, member, same⟩ := List.mem_map.mp tried
    exact attempted.gone member (all attempt member) held same.symm

/-- What a deletion without faults has deleted is not found again. -/
theorem remove_twice {s : Session} (calm : s.schedule.Calm) (distinct : s.drive.DistinctIds)
    (addressed : s.drive.Addressed) (file : RemoteFile)
    (listed : ∃ found, (runOn (filesIn (s.layout.folderFor file.category) (some file.name)) s).1 =
      .ok found) :
    (remove file).Ends s fun outcome t => outcome = .ok () ∧
      (remove file).Ends t fun again u =>
        again = .ok () ∧ u.deletionsAsked = t.deletionsAsked ∧ t.SameState u := by
  obtain ⟨found, listed⟩ := listed
  obtain ⟨folder, text⟩ | other := text_or_not (s.layout.folderFor file.category)
  · rw [text] at listed
    apply (remove_all calm distinct addressed text listed).mono
    rintro outcome t ⟨rfl, around, none_there⟩
    exact ⟨rfl, remove_none (around.calm calm) (around.layout ▸ text) none_there⟩
  · rw [filesIn_notText other] at listed
    cases listed

/-- A deletion tries the files that its search finds in their order, each once. What an attempt comes
to is decided by the fault that it meets, if any. After an attempt that fails for another reason than
that the drive does not know the file, the deletion fails for that reason and makes no more attempts;
otherwise it succeeds when all files have been tried. The files of all ids that were not tried are as
they were, and none is left of an id for which the call succeeded. A second deletion without faults
finds nothing more to do. -/
theorem remove_in_order {s : Session} (raising : s.schedule.Raising)
    (distinct : s.drive.DistinctIds) (file : RemoteFile) :
    (remove file).Ends s fun outcome t =>
      match (runOn (filesIn (s.layout.folderFor file.category) (some file.name)) s).1 with
      | .ok found => (found.map (·.id)).Nodup ∧
          (∃ attempts, Verdict file.name (found.map (·.id)) attempts outcome ∧
            t.deletionsAsked = s.deletionsAsked ++ attempts.map (.string ·.id) ∧
            (∀ (i : Nat) (attempt : Attempt), attempts[i]? = some attempt →
              attempt.Follows s.schedule (s.executions .delete + i + 1)) ∧
            (∀ attempt ∈ attempts, attempt.failure = none →
              ∀ stored ∈ t.drive.files, stored.id ≠ attempt.id) ∧
            (∀ stored : StoredFile, stored.id ∉ attempts.map (·.id) →
              (stored ∈ t.drive.files ↔ stored ∈ s.drive.files)) ∧
            t.drive.files.Sublist s.drive.files) ∧
          (s.schedule.Calm → s.drive.Addressed → outcome = .ok () ∧
            (remove file).Ends t fun again u =>
              again = .ok () ∧ u.deletionsAsked = t.deletionsAsked ∧ t.SameState u)
      | .error failure => outcome = .error failure ∧ t.deletionsAsked = s.deletionsAsked ∧
          t.drive = s.drive := by
  have worked := remove_attempts raising distinct file
  cases search : (runOn (filesIn (s.layout.folderFor file.category) (some file.name)) s).1 with
  | ok found =>
    rw [search] at worked
    have again := Ends.imp fun calm : s.schedule.Calm => .imp fun addressed =>
      remove_twice calm distinct addressed file ⟨found, search⟩
    apply (worked.and again).mono
    rintro outcome t ⟨⟨different, attempts, attempted, verdict⟩, again⟩
    exact ⟨different, ⟨attempts, verdict, attempted.asked, attempted.follows,
      fun attempt => attempted.gone, fun stored => attempted.untouched, attempted.sublist⟩, again⟩
  | error failure =>
    rw [search] at worked
    apply worked.mono
    rintro outcome t ⟨failed, attempted⟩
    obtain ⟨dropped, among, drive, _⟩ := attempted.drive
    obtain rfl := List.subset_nil.mp among
    exact ⟨failed, attempted.asked.trans (List.append_nil _), drive⟩

/-- Four files of one name. Somebody else has deleted the first; the third is deleted, and the drive
fails nevertheless. -/
def halfDeleted : Session :=
  smallSession
    [smallFile "1" "temp-1" "temporary" [1], smallFile "2" "temp-1" "temporary" [2],
      smallFile "3" "temp-1" "temporary" [3], smallFile "4" "temp-1" "temporary" [4]]
    [⟨.delete, some 1, true, .raises (.provider .notFound)⟩,
      ⟨.delete, some 3, true, .raises (.provider (.http 500 "boom"))⟩] .empty

theorem remove_in_order_halfDeleted :
    halfDeleted.schedule.Raising ∧ halfDeleted.drive.DistinctIds ∧
      (runOn (remove smallSource) halfDeleted).1 =
        .error (deletionFailure "temp-1" (.ofProvider (.http 500 "boom"))) ∧
      ∃ attempts, Verdict "temp-1" ["1", "2", "3", "4"] attempts
        (runOn (remove smallSource) halfDeleted).1 := by
  have raising : halfDeleted.schedule.Raising := .of_reasons [] (by decide)
  have distinct : halfDeleted.drive.DistinctIds := by decide +kernel
  have found : (runOn (filesIn (halfDeleted.layout.folderFor smallSource.category)
      (some smallSource.name)) halfDeleted).1 = .ok
        (["1", "2", "3", "4"].map fun id => (smallFile id "temp-1" "temporary" []).found) := by
    decide +kernel
  have ended := remove_in_order raising distinct smallSource
  rw [found] at ended
  obtain ⟨_, ⟨attempts, verdict, _⟩, _⟩ := ended
  exact ⟨raising, distinct, by decide +kernel, attempts, verdict⟩

end Repository

end DriveDepot
