import DriveDepot.Proofs.Calls
import DriveDepot.Proofs.Query
import DriveDepot.Search

namespace DriveDepot

/-- The files that a listing of a folder and a name tells. The drive refuses an expression with a
value that cannot be quoted, and the listing is empty then. -/
def Drive.matching (drive : Drive) (folder name : Option String) : List StoredFile :=
  if ∀ c ∈ Query.ofFiles folder name, c.Quotable then drive.select (Query.ofFiles folder name)
  else []

theorem Drive.matching_sublist (drive : Drive) (folder name : Option String) :
    (drive.matching folder name).Sublist drive.files := by
  rw [matching]
  split
  · exact List.filter_sublist
  · exact List.nil_sublist _

theorem Drive.mem_matching {drive : Drive} {folder name : String} {file : StoredFile} :
    file ∈ drive.matching (some folder) (some name) ↔
      (Query.Quotable name ∧ Query.Quotable folder) ∧
        file ∈ drive.files ∧ file.trashed = false ∧ file.title = name ∧ folder ∈ file.parents := by
  have quotable : (∀ c ∈ Query.ofFiles (some folder) (some name), c.Quotable) ↔
      Query.Quotable name ∧ Query.Quotable folder := by
    simp [Query.ofFiles, Clause.Quotable]
  rw [matching]
  split
  · rename_i all
    rw [and_iff_right (quotable.mp all)]
    simp [select, Query.ofFiles, StoredFile.satisfies]
  · rename_i unquotable
    exact iff_of_false List.not_mem_nil fun h => unquotable (quotable.mpr h.1)

theorem Drive.mem_of_matching {drive : Drive} {folder name : String} {file : StoredFile}
    (h : file ∈ drive.matching (some folder) (some name)) :
    file ∈ drive.files ∧ file.trashed = false ∧ file.title = name ∧ folder ∈ file.parents :=
  (mem_matching.mp h).2

namespace Search

open Operation

theorem filesOf_listing (files : List StoredFile) (next : Option Nat) :
    filesOf (Drive.listing files next) = .ok (files.map (·.found)) := by
  have read : (files.map (·.listed)).mapM FoundFile.ofJson = Except.ok (files.map (·.found)) := by
    induction files with
    | nil => rfl
    | cons file rest ih =>
      rw [List.map_cons, List.mapM_cons, StoredFile.ofJson_listed, ih]
      rfl
  cases next <;> exact read

theorem optional_listing (files : List StoredFile) (next : Option Nat) :
    (Drive.listing files next).optional "nextPageToken" = .ok (next.map Drive.pageToken) := by
  cases next <;> rfl

inductive PageRead (query : String) (token : Json) (s : Session) :
    Except Failure (Option Json) → Prop
  | read {response : Json} (listed : s.drive.list query token = .ok response) :
      PageRead query token s (.ok (some response))
  | refused {e : ProviderError} (listed : s.drive.list query token = .error e) :
      PageRead query token s (.ok none)
  | stopped {failure : Failure} (raises : s.schedule.RaisesNext .list failure)
      (provider : failure.isProvider = true) : PageRead query token s (.ok none)
  | raised {failure : Failure} (raises : s.schedule.RaisesNext .list failure)
      (other : failure.isProvider = false) : PageRead query token s (.error failure)

theorem answer_listFiles (drive : Drive) (query : String) (token : Json) :
    drive.answer (.listFiles query token) = (drive.list query token).map (·, drive) := by
  rw [Drive.answer]
  cases drive.list query token <;> rfl

/-- An error of the drive is taken for the end of a listing. -/
def pageOf (result : Except Failure Json) : Except Failure (Option Json) :=
  (result.map some).tryCatch fun failure =>
    if failure.isProvider then .ok none else .error failure

theorem pageOf_error (failure : Failure) :
    pageOf (.error failure) = if failure.isProvider then .ok none else .error failure := rfl

theorem page_of_request {s : Session} {query : String} {token : Json} (found : List FoundFile)
    {P : Except Failure Json → Prop}
    (asked : (request (.listFiles query token)).Ends s fun outcome t =>
      (s.Asked (.listFiles query token) t ∧ t.drive = s.drive) ∧ P outcome) :
    (page query found token).Ends s fun outcome t =>
      (s.Asked (.listFiles query token) t ∧ t.drive = s.drive) ∧
        ∃ result, P result ∧ outcome = pageOf result := by
  refine asked.map.handleIf ?_ ?_ ?_
  · rintro _ t ⟨result, ⟨asked, h⟩, read⟩
    refine ⟨asked, result, h, ?_⟩
    cases result with
    | ok => exact read
    | error => cases read
  · rintro failure t provider ⟨result, ⟨⟨asked, drive⟩, h⟩, failed⟩
    refine Ends.log_bind fun journal =>
      ends_pure.mpr ⟨⟨asked.journal journal, drive⟩, result, h, ?_⟩
    cases result with
    | ok => cases failed
    | error =>
      obtain rfl := Except.error.inj failed
      rw [pageOf_error, if_pos provider]
  · rintro failure t other ⟨result, ⟨asked, h⟩, failed⟩
    refine ⟨asked, result, h, ?_⟩
    cases result with
    | ok => cases failed
    | error =>
      obtain rfl := Except.error.inj failed
      rw [pageOf_error, if_neg (by simp [other])]

theorem PageRead.of_raises {query : String} {token : Json} {s : Session} {failure : Failure}
    (raises : s.schedule.RaisesNext .list failure) :
    PageRead query token s (pageOf (.error failure)) := by
  rw [pageOf_error]
  split
  · rename_i provider
    exact .stopped raises provider
  · rename_i other
    exact .raised raises (by simpa using other)

theorem page_ends {s : Session} (raising : s.schedule.Raising) (query : String)
    (found : List FoundFile) (token : Json) :
    (page query found token).Ends s fun outcome t =>
      (s.Asked (.listFiles query token) t ∧ t.drive = s.drive) ∧
        PageRead query token s outcome := by
  have asked : (request (.listFiles query token)).Ends s fun outcome t =>
      (s.Asked (.listFiles query token) t ∧ t.drive = s.drive) ∧
        PageRead query token s (pageOf outcome) := by
    have answer := answer_listFiles s.drive query token
    cases listed : s.drive.list query token with
    | error e =>
      rw [listed] at answer
      apply (request_denied answer).mono
      rintro _ t ⟨asked, drive, denied⟩
      cases denied with
      | refused => exact ⟨⟨asked, drive⟩, .refused listed⟩
      | replaced met outcome => exact absurd outcome (raising.not_answers met)
      | raised raises => exact ⟨⟨asked, drive⟩, .of_raises raises⟩
    | ok response =>
      rw [listed] at answer
      apply (request_granted answer).mono
      rintro _ t ⟨asked, granted⟩
      generalize t.drive = after at granted
      cases granted with
      | done => exact ⟨⟨asked, rfl⟩, .read listed⟩
      | replaced met outcome => exact absurd outcome (raising.not_answers met)
      | raised raises | raisedLate raises => exact ⟨⟨asked, rfl⟩, .of_raises raises⟩
  apply (page_of_request found asked).mono
  rintro _ t ⟨same, _, read, rfl⟩
  exact ⟨same, read⟩

inductive Collected (matching : List StoredFile) (s : Session) :
    Except Failure (List FoundFile) → Prop
  | all : Collected matching s (.ok (matching.map (·.found)))
  | stopped {failure : Failure} (n : Nat) (raises : s.schedule.Raises failure)
      (provider : failure.isProvider = true) :
      Collected matching s (.ok ((matching.take n).map (·.found)))
  | raised {failure : Failure} (raises : s.schedule.Raises failure)
      (other : failure.isProvider = false) : Collected matching s (.error failure)
  /-- Pages without a file have no end. -/
  | endless (empty : s.drive.pageSize = some 0) (more : matching ≠ []) :
      Collected matching s (.error .endless)

theorem Collected.of_sameState {matching : List StoredFile} {s t : Session}
    {outcome : Except Failure (List FoundFile)} (same : s.SameState t)
    (h : Collected matching t outcome) : Collected matching s outcome := by
  cases h with
  | all => exact .all
  | stopped n raises provider => exact .stopped n ((same.raises_iff _).mp raises) provider
  | raised raises other => exact .raised ((same.raises_iff _).mp raises) other
  | endless empty more => exact .endless (same.drive ▸ empty) more

/-- The files found are the first of those that match. -/
theorem Collected.found_prefix {matching : List StoredFile} {s : Session} {found : List FoundFile}
    (h : Collected matching s (.ok found)) : found <+: matching.map (·.found) := by
  cases h with
  | all => exact List.prefix_rfl
  | stopped n _ _ => exact (List.take_prefix n matching).map _

theorem Collected.stored {matching : List StoredFile} {s : Session} {found : List FoundFile}
    (h : Collected matching s (.ok found)) {file : FoundFile} (member : file ∈ found) :
    ∃ stored ∈ matching, stored.found = file :=
  List.mem_map.mp (h.found_prefix.subset member)

/-- Without faults the files found are all that match. -/
theorem Collected.eq_of_calm {matching : List StoredFile} {s : Session} {found : List FoundFile}
    (calm : s.schedule.Calm) (h : Collected matching s (.ok found)) :
    found = matching.map (·.found) := by
  cases h with
  | all => rfl
  | stopped _ raises _ => exact absurd raises (calm.not_raises _)

/-- Without faults, and with pages that hold files, all files that match are found. -/
theorem Collected.eq_all {matching : List StoredFile} {s : Session}
    {outcome : Except Failure (List FoundFile)} (calm : s.schedule.Calm)
    (paged : s.drive.pageSize ≠ some 0) (h : Collected matching s outcome) :
    outcome = .ok (matching.map (·.found)) := by
  cases h with
  | all => rfl
  | stopped _ raises _ | raised raises _ => exact absurd raises (calm.not_raises _)
  | endless empty => exact absurd empty paged

/-- Where no page failed, all files that match are found. -/
def Complete (matching : List StoredFile) (s : Session) (outcome : Except Failure (List FoundFile))
    (t : Session) : Prop :=
  ∀ found, outcome = .ok found → s.Undisturbed t .list → found = matching.map (·.found)

theorem list_of_readable (drive : Drive) {query : String} {clauses : List Clause}
    (readable : Query.ofText? query = some clauses) (token : Json) :
    drive.list query token = .ok (Drive.listing (drive.page (drive.select clauses) token).1
      (drive.page (drive.select clauses) token).2) := by
  rw [Drive.list, readable]

theorem isNothing_pageToken (first : Nat) : (Drive.pageToken first).isNothing = false := by
  simp [Drive.pageToken, Json.isNothing]

/-- A listing is under way: the files before `first` have been told, `token` stands for the page that
comes next, and the bound is high enough for the pages that are left. -/
structure Underway (drive : Drive) (matching : List StoredFile) (bound first : Nat) (token : Json) :
    Prop where
  start : Drive.pageStart token = first
  within : first ≤ matching.length
  whole : drive.pageSize = none → first = 0
  enough : drive.pageSize ≠ some 0 → matching.length < bound + first
  more : bound = 0 → matching ≠ []

theorem Underway.onward {drive : Drive} {matching : List StoredFile} {bound first size : Nat}
    {token : Json} (h : Underway drive matching (bound + 1) first token)
    (paging : drive.pageSize = some size) (further : first + size < matching.length) :
    Underway drive matching bound (first + size) (Drive.pageToken (first + size)) where
  start := Drive.pageStart_pageToken _
  within := Nat.le_of_lt further
  whole := by simp [paging]
  enough sized := by
    have := h.enough sized
    have : size ≠ 0 := by rintro rfl; exact sized paging
    omega
  more _ := List.ne_nil_of_length_pos (Nat.zero_lt_of_lt further)

/-- The next page is the last one, or the listing is under way after it. -/
theorem Underway.page {drive : Drive} {matching : List StoredFile} {bound first : Nat} {token : Json}
    (h : Underway drive matching (bound + 1) first token) :
    (matching.take first ++ (drive.page matching token).1 = matching ∧
      (drive.page matching token).2 = none) ∨
    ∃ next, matching.take first ++ (drive.page matching token).1 = matching.take next ∧
      (drive.page matching token).2 = some next ∧
        Underway drive matching bound next (Drive.pageToken next) := by
  cases paging : drive.pageSize with
  | none =>
    obtain rfl := h.whole paging
    simp [Drive.page, paging]
  | some size =>
    simp only [Drive.page, paging, h.start, ← List.take_add]
    by_cases further : first + size < matching.length
    · exact .inr ⟨first + size, rfl, if_pos further, h.onward paging further⟩
    · exact .inl ⟨List.take_of_length_le (by omega), if_neg further⟩

/-- The files found so far are those before the page that comes next. -/
theorem collect_ends {s : Session} (raising : s.schedule.Raising) {query : String}
    {clauses : List Clause} (readable : Query.ofText? query = some clauses) {bound first : Nat}
    {token : Json} (underway : Underway s.drive (s.drive.select clauses) bound first token) :
    (collect query bound (((s.drive.select clauses).take first).map (·.found)) token).Ends s
      fun outcome t => s.SameState t ∧ Collected (s.drive.select clauses) s outcome ∧
        Complete (s.drive.select clauses) s outcome t := by
  induction bound generalizing s first token with
  | zero =>
    refine ends_throw.mpr ⟨.refl s, .endless ?_ (underway.more rfl), nofun⟩
    by_contra sized
    have := underway.enough sized
    have := underway.within
    omega
  | succ bound ih =>
    refine (page_ends raising query _ token).bind ?_ ?_
    · rintro (_ | response) t ⟨⟨asked, drive⟩, read⟩
      · cases read with
        | refused listed => simp [list_of_readable _ readable] at listed
        | stopped raises provider =>
          refine ends_pure.mpr
            ⟨⟨asked.toSameAround, drive⟩, .stopped first raises.raises provider, ?_⟩
          intro _ _ free
          have once : t.executions .list = s.executions .list + 1 := asked.executions_self
          exact absurd raises (free.not_raisesNext (by omega) _)
      · have same : s.SameState t := ⟨asked.toSameAround, drive⟩
        cases read with
        | read listed =>
          obtain rfl := Except.ok.inj ((list_of_readable _ readable _).symm.trans listed)
          simp only [filesOf_listing, optional_listing, ofMishap, ofExcept_ok, pure_bind,
            ← List.map_append]
          obtain ⟨all, last⟩ | ⟨next, upto, more, onward⟩ := underway.page
          · simp only [all, last, Option.map_none, Option.getD_none, Json.isNothing, ↓reduceIte]
            exact ends_pure.mpr ⟨same, .all, fun _ all _ => (Except.ok.inj all).symm⟩
          · simp only [upto, more, Option.map_some, Option.getD_some, isNothing_pageToken,
              Bool.false_eq_true, ↓reduceIte]
            rw [← same.drive] at onward ⊢
            apply (ih (same.raising raising) onward).mono
            rintro outcome u ⟨later, collected, complete⟩
            refine ⟨same.trans later, collected.of_sameState same, fun found all free => ?_⟩
            have once : t.executions .list = s.executions .list + 1 := asked.executions_self
            exact complete found all (same.undisturbed (by omega) free)
    · rintro failure t ⟨⟨asked, drive⟩, read⟩
      cases read with
      | raised raises other =>
        exact ⟨⟨asked.toSameAround, drive⟩, .raised raises.raises other, nofun⟩

theorem list_of_unreadable (drive : Drive) {query : String}
    (unreadable : Query.ofText? query = none) (token : Json) :
    drive.list query token = .error (.http 400 "Invalid query") := by
  rw [Drive.list, unreadable]

theorem collect_ends_of_unreadable {s : Session} (raising : s.schedule.Raising) {query : String}
    (unreadable : Query.ofText? query = none) {bound : Nat} (some_page : bound ≠ 0) (token : Json) :
    (collect query bound [] token).Ends s
      fun outcome t => s.SameState t ∧ Collected [] s outcome ∧ Complete [] s outcome t := by
  obtain ⟨bound, rfl⟩ := Nat.exists_eq_succ_of_ne_zero some_page
  refine (page_ends raising query _ token).bind ?_ ?_
  · rintro (_ | response) t ⟨⟨asked, drive⟩, read⟩
    · exact ends_pure.mpr
        ⟨⟨asked.toSameAround, drive⟩, .all, fun _ all _ => (Except.ok.inj all).symm⟩
    · cases read with
      | read listed => simp [list_of_unreadable _ unreadable] at listed
  · rintro failure t ⟨⟨asked, drive⟩, read⟩
    cases read with
    | raised raises other =>
      exact ⟨⟨asked.toSameAround, drive⟩, .raised raises.raises other, nofun⟩

theorem files_complete {s : Session} (raising : s.schedule.Raising) (folder name : Option String) :
    (files folder name).Ends s fun outcome t =>
      s.SameState t ∧ Collected (s.drive.matching folder name) s outcome ∧
        Complete (s.drive.matching folder name) s outcome t := by
  have bounded : s.drive.files.length + 2 ≤ pageBound s := by
    rw [pageBound]
    omega
  have read := Query.ofText?_ofFiles folder name
  rw [files, ends_get_bind, Drive.matching]
  split
  · rename_i quotable
    rw [if_pos quotable] at read
    have fewer : (s.drive.select (Query.ofFiles folder name)).length ≤ s.drive.files.length :=
      List.length_filter_le _ _
    have begun :
        Underway s.drive (s.drive.select (Query.ofFiles folder name)) (pageBound s) 0 .null :=
      ⟨rfl, Nat.zero_le _, fun _ => rfl, fun _ => by omega, fun empty => by omega⟩
    exact collect_ends raising read begun
  · rename_i unquotable
    rw [if_neg unquotable] at read
    exact collect_ends_of_unreadable raising read (by omega) .null

theorem files_ends {s : Session} (raising : s.schedule.Raising) (folder name : Option String) :
    (files folder name).Ends s fun outcome t =>
      s.SameState t ∧ Collected (s.drive.matching folder name) s outcome :=
  (files_complete raising folder name).mono fun _ _ h => ⟨h.1, h.2.1⟩

/-- Pages that hold files come to an end. -/
theorem Collected.ne_endless {matching : List StoredFile} {s : Session}
    (paged : s.drive.pageSize ≠ some 0) : ¬ Collected matching s (.error .endless) := by
  intro h
  cases h with
  | raised raises => exact absurd rfl raises.ne_endless
  | endless empty => exact absurd empty paged

inductive Located (matching : List StoredFile) (folder : Option String) (name : String)
    (s : Session) : Except Failure FoundFile → Prop
  | only {file : FoundFile} (collected : Collected matching s (.ok [file])) :
      Located matching folder name s (.ok file)
  | missing (collected : Collected matching s (.ok [])) :
      Located matching folder name s
        (.error (.ofStorage (.fileMissing name (folderText folder))))
  | several {found : List FoundFile} (collected : Collected matching s (.ok found))
      (several : 1 < found.length) :
      Located matching folder name s
        (.error (.ofStorage (.severalFiles found.length name (folderText folder))))
  | failed {failure : Failure} (collected : Collected matching s (.error failure)) :
      Located matching folder name s (.error failure)

theorem Located.eq_missing {folder : Option String} {name : String} {s : Session}
    {outcome : Except Failure FoundFile} (calm : s.schedule.Calm)
    (paged : s.drive.pageSize ≠ some 0) (h : Located [] folder name s outcome) :
    outcome = .error (.ofStorage (.fileMissing name (folderText folder))) := by
  cases h with
  | only collected => cases collected.eq_all calm paged
  | missing => rfl
  | several collected several =>
    obtain rfl := Except.ok.inj (collected.eq_all calm paged)
    simp at several
  | failed collected => cases collected.eq_all calm paged

theorem Located.eq_only {file : StoredFile} {folder : Option String} {name : String} {s : Session}
    {outcome : Except Failure FoundFile} (calm : s.schedule.Calm)
    (paged : s.drive.pageSize ≠ some 0) (h : Located [file] folder name s outcome) :
    outcome = .ok file.found := by
  cases h with
  | only collected =>
    obtain rfl := List.singleton_inj.mp (Except.ok.inj (collected.eq_all calm paged))
    rfl
  | missing collected => cases collected.eq_all calm paged
  | several collected several =>
    obtain rfl := Except.ok.inj (collected.eq_all calm paged)
    simp at several
  | failed collected => cases collected.eq_all calm paged

theorem Located.eq_several {matching : List StoredFile} (several : 1 < matching.length)
    {folder : Option String} {name : String} {s : Session} {outcome : Except Failure FoundFile}
    (calm : s.schedule.Calm) (paged : s.drive.pageSize ≠ some 0)
    (h : Located matching folder name s outcome) :
    outcome = .error (.ofStorage (.severalFiles matching.length name (folderText folder))) := by
  have lengths {found : List FoundFile} (collected : Collected matching s (.ok found)) :
      found.length = matching.length := by
    rw [collected.eq_of_calm calm, List.length_map]
  cases h with
  | only collected =>
    have one := lengths collected
    simp at one
    omega
  | missing collected =>
    have none := lengths collected
    simp at none
    omega
  | several collected => rw [lengths collected]
  | failed collected => cases collected.eq_all calm paged

theorem oneFile_ends {s : Session} (raising : s.schedule.Raising) (folder : Option String)
    (name : String) :
    (oneFile folder name).Ends s fun outcome t =>
      s.SameState t ∧ Located (s.drive.matching folder name) folder name s outcome := by
  refine (files_ends raising folder name).bind ?_ ?_
  · rintro found t ⟨same, collected⟩
    have refused (error : StorageError)
        (located : Located (s.drive.matching folder name) folder name s
          (.error (.ofStorage error))) :
        (oneFile.refuse error).Ends t fun outcome t =>
          s.SameState t ∧ Located (s.drive.matching folder name) folder name s outcome :=
      Ends.log_bind fun _ =>
        ends_throw.mpr ⟨same.trans (.journal _ _), located⟩
    match found with
    | [file] => exact ends_pure.mpr ⟨same, .only collected⟩
    | [] => exact refused _ (.missing collected)
    | _ :: _ :: _ => exact refused _ (.several collected (by simp))
  · rintro failure t ⟨same, collected⟩
    exact ⟨same, .failed collected⟩

end Search

end DriveDepot
