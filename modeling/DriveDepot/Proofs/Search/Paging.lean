import DriveDepot.Proofs.Folder
import DriveDepot.Proofs.Search.Requests

namespace DriveDepot

namespace Drive

/-- The files that are not trashed and have a title and a folder, as far as these are given, in the
order of their creation. -/
def filed (drive : Drive) (folder name : Option String) : List StoredFile :=
  drive.files.filter fun file =>
    !file.trashed && name.all (file.title == ·) && folder.all (file.parents.contains ·)

/-- How many pages tell of so many files. There is a page also for none. -/
def pageCount (drive : Drive) (count : Nat) : Nat :=
  match drive.pageSize with
  | none => 1
  | some size => max 1 ((count + size - 1) / size)

/-- How many files the pages tell of that come before the page after `n` others. -/
def filesBefore (drive : Drive) (n : Nat) : Nat := n * drive.pageSize.getD 0

/-- The token with which the page after `n` others is asked for. -/
def tokenAfter (drive : Drive) : (n : Nat) → Json
  | 0 => .null
  | n + 1 => pageToken (drive.filesBefore (n + 1))

theorem select_ofFiles (drive : Drive) (folder name : Option String) :
    drive.select (Query.ofFiles folder name) = drive.filed folder name := by
  apply List.filter_congr
  intro file _
  cases folder <;> cases name <;>
    simp [Query.ofFiles, StoredFile.satisfies, Bool.and_assoc]

section
variable {drive : Drive}

theorem pageStart_tokenAfter (n : Nat) : pageStart (drive.tokenAfter n) = drive.filesBefore n := by
  cases n with
  | zero => simp [tokenAfter, filesBefore, pageStart]
  | succ n => exact pageStart_pageToken _

theorem pageCount_pos (count : Nat) : 0 < drive.pageCount count := by
  rw [pageCount]
  split
  · exact Nat.one_pos
  · omega

theorem pageCount_le (paged : drive.pageSize ≠ some 0) (count : Nat) :
    drive.pageCount count ≤ count + 1 := by
  rw [pageCount]
  split
  · omega
  · rename_i size paging
    have sized : 0 < size := Nat.pos_of_ne_zero (by rintro rfl; exact paged paging)
    have few : (count + size - 1) / size ≤ count := by
      apply Nat.le_of_lt_succ
      rw [Nat.div_lt_iff_lt_mul sized, Nat.succ_mul]
      have : count ≤ count * size := Nat.le_mul_of_pos_right _ sized
      omega
    omega

/-- There is another page if the pages up to here do not tell of all files. -/
theorem lt_pageCount_iff {size : Nat} (paging : drive.pageSize = some size) (sized : 0 < size)
    {n count : Nat} : n + 1 < drive.pageCount count ↔ drive.filesBefore (n + 1) < count := by
  have more : n + 2 ≤ (count + size - 1) / size ↔ (n + 2) * size ≤ count + size - 1 :=
    Nat.le_div_iff_mul_le sized
  have next : (n + 2) * size = (n + 1) * size + size := Nat.succ_mul _ _
  simp only [pageCount, filesBefore, paging, Option.getD_some]
  omega

/-- A page with another one after it. -/
theorem page_of_more (paged : drive.pageSize ≠ some 0) {matching : List StoredFile} {n : Nat}
    (more : n + 1 < drive.pageCount matching.length) :
    matching.take (drive.filesBefore n) ++ (drive.page matching (drive.tokenAfter n)).1 =
        matching.take (drive.filesBefore (n + 1)) ∧
      (drive.page matching (drive.tokenAfter n)).2 = some (drive.filesBefore (n + 1)) := by
  cases paging : drive.pageSize with
  | none => simp [pageCount, paging] at more
  | some size =>
    have sized : 0 < size := Nat.pos_of_ne_zero (by rintro rfl; exact paged paging)
    have after : drive.filesBefore n + size = drive.filesBefore (n + 1) := by
      simp only [filesBefore, paging, Option.getD_some, Nat.succ_mul]
    rw [lt_pageCount_iff paging sized] at more
    simp only [page, paging, pageStart_tokenAfter, after, more, ↓reduceIte, and_true]
    rw [← List.take_add, after]

/-- The last of the pages. -/
theorem page_of_last (paged : drive.pageSize ≠ some 0) {matching : List StoredFile} {n : Nat}
    (last : n + 1 = drive.pageCount matching.length) :
    matching.take (drive.filesBefore n) ++ (drive.page matching (drive.tokenAfter n)).1 =
        matching ∧
      (drive.page matching (drive.tokenAfter n)).2 = none := by
  cases paging : drive.pageSize with
  | none =>
    obtain rfl : n = 0 := by simpa [pageCount, paging] using last
    simp [page, paging, filesBefore]
  | some size =>
    have sized : 0 < size := Nat.pos_of_ne_zero (by rintro rfl; exact paged paging)
    have after : drive.filesBefore n + size = drive.filesBefore (n + 1) := by
      simp only [filesBefore, paging, Option.getD_some, Nat.succ_mul]
    have whole : ¬ drive.filesBefore (n + 1) < matching.length := by
      rw [← lt_pageCount_iff paging sized]
      omega
    simp only [page, paging, pageStart_tokenAfter, after, whole, ↓reduceIte, and_true]
    rw [← List.take_add, after, List.take_of_length_le (by omega)]

end

end Drive

namespace Session

/-- The fault that the nth listing from here on meets, counted from one. -/
def listingFault? (s : Session) (n : Nat) : Option Fault :=
  s.schedule.faultAt? .list (s.executions .list + n)

structure Leafed (query : String) (first count : Nat) (s t : Session) : Prop
    extends s.SameState t where
  calls : t.calls = s.calls ++ (List.range' first count).map fun n =>
    .drive (.listFiles query (s.drive.tokenAfter n))
  listings : t.executions .list = s.executions .list + count

section
variable {query : String} {first count more : Nat} {s t u : Session}

theorem Leafed.refl (query : String) (first : Nat) (s : Session) : s.Leafed query first 0 s :=
  ⟨.refl s, (List.append_nil s.calls).symm, rfl⟩

theorem Leafed.trans (h : s.Leafed query first count t) (k : t.Leafed query (first + count) more u) :
    s.Leafed query first (count + more) u := by
  refine ⟨h.toSameState.trans k.toSameState, ?_, ?_⟩
  · rw [k.calls, h.calls, h.drive, List.append_assoc, ← List.map_append, List.range'_append_1]
  · rw [k.listings, h.listings, Nat.add_assoc]

theorem Leafed.onward (h : s.Leafed query 0 count t) (k : t.Leafed query count more u) :
    s.Leafed query 0 (count + more) u :=
  h.trans ((Nat.zero_add count).symm ▸ k)

theorem Asked.leafed (h : s.Asked (.listFiles query (s.drive.tokenAfter first)) t)
    (drive : t.drive = s.drive) : s.Leafed query first 1 t :=
  ⟨⟨h.toSameAround, drive⟩, h.calls, h.executions_self⟩

theorem Leafed.listingFault? (h : s.Leafed query first count t) (n : Nat) :
    t.listingFault? n = s.listingFault? (count + n) := by
  rw [Session.listingFault?, Session.listingFault?, Schedule.faultAt?, Schedule.faultAt?, h.faults,
    h.listings, Nat.add_assoc]

end

end Session

namespace Search

open Operation Repository

/-- What a search comes to that is cut off after something was found: errors of the drive end it,
all others pass through. -/
def cutOff (reason : Reason) (found : α) : Except Failure α :=
  match reason with
  | .provider _ => .ok found
  | reason => .error (.raised reason [])

section
variable {s : Session} {query : String} {token response : Json}
variable (listed : s.drive.list query token = .ok response)
include listed

theorem request_page_ends :
    (request (.listFiles query token)).Ends s fun outcome t =>
      (s.Asked (.listFiles query token) t ∧ t.drive = s.drive) ∧
        match s.listingFault? 1 with
        | none => outcome = .ok response
        | some fault =>
          ∀ reason, fault.outcome = .raises reason → outcome = .error (.raised reason []) := by
  have answer : s.drive.answer (.listFiles query token) = .ok (response, s.drive) := by
    rw [answer_listFiles, listed]
    rfl
  have next : s.schedule.next? .list = s.listingFault? 1 := Schedule.next?_eq_faultAt? _ _
  apply (request_granted answer).mono
  rintro outcome t ⟨asked, granted⟩
  rw [← next]
  generalize t.drive = after at granted
  cases granted with
  | done spared =>
    rw [show s.schedule.next? .list = none from spared]
    exact ⟨⟨asked, rfl⟩, rfl⟩
  | replaced met answers =>
    rw [show s.schedule.next? .list = _ from met]
    refine ⟨⟨asked, rfl⟩, fun reason raises => ?_⟩
    cases raises.symm.trans answers
  | @raised failure raises | @raisedLate failure raises =>
    obtain ⟨fault, met, reason, outcome, rfl⟩ := raises
    rw [show s.schedule.next? .list = some fault from met]
    refine ⟨⟨asked, rfl⟩, fun other raises => ?_⟩
    obtain rfl := Fault.Outcome.raises.inj (raises.symm.trans outcome)
    rfl

/-- A page is read, unless a fault cuts the search off. -/
theorem page_met (found : List FoundFile) :
    (page query found token).Ends s fun outcome t =>
      (s.Asked (.listFiles query token) t ∧ t.drive = s.drive) ∧
        match s.listingFault? 1 with
        | none => outcome = .ok (some response)
        | some fault =>
          ∀ reason, fault.outcome = .raises reason → outcome = cutOff reason none := by
  apply (page_of_request found (request_page_ends listed)).mono
  rintro _ t ⟨asked, result, met, rfl⟩
  refine ⟨asked, ?_⟩
  split at met
  · rw [met]
    rfl
  · intro reason raises
    rw [met reason raises]
    cases reason <;> rfl

end

section
variable {s : Session} {drive : Drive} {query : String} {clauses : List Clause}
variable (held : s.drive = drive) (readable : Query.ofText? query = some clauses)

/-- The files found before the page after `n` others. -/
abbrev foundBefore (drive : Drive) (clauses : List Clause) (n : Nat) : List FoundFile :=
  ((drive.select clauses).take (drive.filesBefore n)).map (·.found)

include held readable

theorem collect_cutOff {fault : Fault} {reason : Reason} (met : s.listingFault? 1 = some fault)
    (raises : fault.outcome = .raises reason) (bound n : Nat) (found : List FoundFile) :
    (collect query (bound + 1) found (drive.tokenAfter n)).Ends s fun outcome t =>
      s.Leafed query n 1 t ∧ outcome = cutOff reason found := by
  subst held
  refine (page_met (list_of_readable s.drive readable _) found).bind ?_ ?_
  · rintro (_ | response) t ⟨⟨asked, same⟩, read⟩
    · rw [met] at read
      refine ends_pure.mpr ⟨asked.leafed same, ?_⟩
      cases reason with
      | provider => rfl
      | storage | mishap => cases read _ raises
    · rw [met] at read
      cases reason <;> cases read _ raises
  · rintro failure t ⟨⟨asked, same⟩, failed⟩
    rw [met] at failed
    refine ⟨asked.leafed same, ?_⟩
    cases reason with
    | provider => cases failed _ raises
    | storage | mishap =>
      obtain rfl := Except.error.inj (failed _ raises)
      rfl

variable (paged : drive.pageSize ≠ some 0)
include paged

theorem collect_last (spared : s.listingFault? 1 = none) (bound : Nat) {n : Nat}
    (last : n + 1 = drive.pageCount (drive.select clauses).length) :
    (collect query (bound + 1) (foundBefore drive clauses n) (drive.tokenAfter n)).Ends s
      fun outcome t => s.Leafed query n 1 t ∧
        outcome = .ok ((drive.select clauses).map (·.found)) := by
  subst held
  obtain ⟨whole, done⟩ := Drive.page_of_last paged last
  refine (page_met (list_of_readable s.drive readable _) _).bind ?_ ?_
  · rintro value t ⟨⟨asked, same⟩, read⟩
    rw [spared] at read
    obtain rfl := Except.ok.inj read
    simp only [filesOf_listing, optional_listing, done, ofMishap, ofExcept_ok, pure_bind,
      Option.map_none, Option.getD_none, Json.isNothing, ↓reduceIte, ← List.map_append, whole]
    exact ends_pure.mpr ⟨asked.leafed same, rfl⟩
  · rintro failure t ⟨_, failed⟩
    rw [spared] at failed
    cases failed

theorem collect_next (spared : s.listingFault? 1 = none) {bound n : Nat}
    (more : n + 1 < drive.pageCount (drive.select clauses).length)
    {Q : Except Failure (List FoundFile) → Session → Prop}
    (rest : ∀ t, s.Leafed query n 1 t →
      (collect query bound (foundBefore drive clauses (n + 1)) (drive.tokenAfter (n + 1))).Ends t
        Q) :
    (collect query (bound + 1) (foundBefore drive clauses n) (drive.tokenAfter n)).Ends s Q := by
  subst held
  obtain ⟨upto, onward⟩ := Drive.page_of_more paged more
  refine (page_met (list_of_readable s.drive readable _) _).bind ?_ ?_
  · rintro value t ⟨⟨asked, same⟩, read⟩
    rw [spared] at read
    obtain rfl := Except.ok.inj read
    simp only [filesOf_listing, optional_listing, onward, ofMishap, ofExcept_ok, pure_bind,
      Option.map_some, Option.getD_some, isNothing_pageToken, Bool.false_eq_true, ↓reduceIte,
      ← List.map_append, upto]
    exact rest t (asked.leafed same)
  · rintro failure t ⟨_, failed⟩
    rw [spared] at failed
    cases failed

/-- As long as no page fails, a search goes on to the next page. -/
theorem collect_through {bound n count : Nat}
    (more : n + count < drive.pageCount (drive.select clauses).length)
    (spared : ∀ k, 1 ≤ k → k ≤ count → s.listingFault? k = none)
    {Q : Except Failure (List FoundFile) → Session → Prop}
    (rest : ∀ t, s.Leafed query n count t →
      (collect query bound (foundBefore drive clauses (n + count))
        (drive.tokenAfter (n + count))).Ends t Q) :
    (collect query (bound + count) (foundBefore drive clauses n) (drive.tokenAfter n)).Ends s
      Q := by
  induction count generalizing s n with
  | zero => exact rest s (.refl query n s)
  | succ count ih =>
    refine collect_next held readable paged (spared 1 (by omega) (by omega)) (by omega) ?_
    intro t first
    have along : n + 1 + count = n + (count + 1) := by omega
    refine ih (first.drive.trans held) (by omega) (fun k low high => ?_) fun u later => ?_
    · rw [first.listingFault?]
      exact spared (1 + k) (by omega) (by omega)
    · rw [along]
      refine rest u ?_
      rw [Nat.add_comm count 1]
      exact first.trans later

end

section
variable {s : Session} {folder name : Option String}

theorem foundBefore_zero (drive : Drive) (clauses : List Clause) :
    foundBefore drive clauses 0 = [] := by
  simp [Drive.filesBefore]

theorem readable_ofFiles
    (quotable : ∀ value ∈ name.toList ++ folder.toList, Query.Quotable value) :
    Query.ofText? (Query.text (Query.ofFiles folder name)) =
      some (Query.ofFiles folder name) := by
  rw [Query.ofText?_ofFiles, if_pos (Query.forall_quotable_ofFiles.mpr quotable)]

variable (paged : s.drive.pageSize ≠ some 0)
variable (quotable : ∀ value ∈ name.toList ++ folder.toList, Query.Quotable value)
include paged quotable

/-- Before a page fails, a search is at the page after those that it has read. -/
theorem files_through {n : Nat}
    (within : n < s.drive.pageCount (s.drive.filed folder name).length)
    (spared : ∀ k, 1 ≤ k → k ≤ n → s.listingFault? k = none)
    {Q : Except Failure (List FoundFile) → Session → Prop}
    (rest : ∀ t bound, s.Leafed (Query.text (Query.ofFiles folder name)) 0 n t →
      (collect (Query.text (Query.ofFiles folder name)) (bound + 1)
        (foundBefore s.drive (Query.ofFiles folder name) n) (s.drive.tokenAfter n)).Ends t Q) :
    (files folder name).Ends s Q := by
  obtain ⟨bound, enough⟩ : ∃ bound, pageBound s = bound + 1 + n := by
    have pages := s.drive.pageCount_le paged (s.drive.filed folder name).length
    have fewer : (s.drive.filed folder name).length ≤ s.drive.files.length :=
      List.length_filter_le _ _
    have bounded : s.drive.files.length + 2 ≤ pageBound s := by
      rw [pageBound]
      omega
    exact ⟨pageBound s - 1 - n, by omega⟩
  rw [files, ends_get_bind, enough, ← foundBefore_zero s.drive (Query.ofFiles folder name)]
  refine collect_through (n := 0) rfl (readable_ofFiles quotable) paged ?_ spared ?_
  · rw [Drive.select_ofFiles, Nat.zero_add]
    exact within
  · rw [Nat.zero_add]
    exact fun t leafed => rest t bound leafed

/-- Where no page fails, a search finds all files that match. -/
theorem files_spared
    (spared : ∀ k, 1 ≤ k → k ≤ s.drive.pageCount (s.drive.filed folder name).length →
      s.listingFault? k = none) :
    (files folder name).Ends s fun outcome t =>
      s.Leafed (Query.text (Query.ofFiles folder name)) 0
        (s.drive.pageCount (s.drive.filed folder name).length) t ∧
      outcome = .ok ((s.drive.filed folder name).map (·.found)) := by
  obtain ⟨n, last⟩ : ∃ n, s.drive.pageCount (s.drive.filed folder name).length = n + 1 :=
    Nat.exists_eq_add_one_of_ne_zero (Nat.ne_of_gt (Drive.pageCount_pos _))
  rw [last] at spared ⊢
  refine files_through paged quotable (n := n) (by omega) (fun k low high => ?_) ?_
  · exact spared k low (by omega)
  · intro t bound leafed
    have next : t.listingFault? 1 = none := by
      rw [leafed.listingFault?]
      exact spared (n + 1) (by omega) (by omega)
    have last : n + 1 =
        s.drive.pageCount (s.drive.select (Query.ofFiles folder name)).length := by
      rw [Drive.select_ofFiles, last]
    apply (collect_last leafed.drive (readable_ofFiles quotable) paged next bound last).mono
    rintro outcome u ⟨later, all⟩
    exact ⟨leafed.onward later, by rw [all, Drive.select_ofFiles]⟩

/-- The first page that fails cuts a search off. -/
theorem files_cutOff {n : Nat} (within : n < s.drive.pageCount (s.drive.filed folder name).length)
    (spared : ∀ k, 1 ≤ k → k ≤ n → s.listingFault? k = none) {fault : Fault} {reason : Reason}
    (met : s.listingFault? (n + 1) = some fault) (raises : fault.outcome = .raises reason) :
    (files folder name).Ends s fun outcome t =>
      s.Leafed (Query.text (Query.ofFiles folder name)) 0 (n + 1) t ∧
      outcome = cutOff reason
        (((s.drive.filed folder name).take (s.drive.filesBefore n)).map (·.found)) := by
  refine files_through paged quotable within spared fun t bound leafed => ?_
  have next : t.listingFault? 1 = some fault := by rw [leafed.listingFault?, met]
  apply (collect_cutOff leafed.drive (readable_ofFiles quotable) next raises bound n _).mono
  rintro outcome u ⟨later, cut⟩
  rw [foundBefore, Drive.select_ofFiles] at cut
  exact ⟨leafed.onward later, cut⟩

/-- With each page the drive tells the token of the next. -/
theorem tokens_follow {n : Nat}
    (within : n < s.drive.pageCount (s.drive.filed folder name).length) :
    ∃ response,
      s.drive.list (Query.text (Query.ofFiles folder name)) (s.drive.tokenAfter n) =
        .ok response ∧
      response.optional "nextPageToken" =
        .ok (if n + 1 < s.drive.pageCount (s.drive.filed folder name).length
          then some (s.drive.tokenAfter (n + 1)) else none) := by
  refine ⟨_, list_of_readable s.drive (readable_ofFiles quotable) _, ?_⟩
  rw [optional_listing, Drive.select_ofFiles]
  split
  · rename_i more
    rw [(Drive.page_of_more paged more).2]
    rfl
  · rename_i whole
    rw [(Drive.page_of_last paged (by omega)).2]
    rfl

/-- A search goes through the pages in order, each with the token that came with the one before, and
finds all files that match. If a page fails, the first one to fail is the last that is asked for, and
the files of the pages before it are found unless the error is none of the drive. -/
theorem files_page_by_page :
    let matching := s.drive.filed folder name
    let pages := s.drive.pageCount matching.length
    let query := Query.text (Query.ofFiles folder name)
    (∀ n < pages, ∃ response,
      s.drive.list query (s.drive.tokenAfter n) = .ok response ∧
      response.optional "nextPageToken" =
        .ok (if n + 1 < pages then some (s.drive.tokenAfter (n + 1)) else none)) ∧
    (files folder name).Ends s fun outcome t =>
      ((∀ k, 1 ≤ k → k ≤ pages → s.listingFault? k = none) →
        s.Leafed query 0 pages t ∧ outcome = .ok (matching.map (·.found))) ∧
      ∀ k fault reason, 1 ≤ k → k ≤ pages →
        (∀ j, 1 ≤ j → j < k → s.listingFault? j = none) →
        s.listingFault? k = some fault → fault.outcome = .raises reason →
          s.Leafed query 0 k t ∧ outcome = match reason with
            | .provider _ =>
              .ok ((matching.take ((k - 1) * s.drive.pageSize.getD 0)).map (·.found))
            | reason => .error (.raised reason []) := by
  refine ⟨fun n within => tokens_follow paged quotable within, fun spared => ?_, ?_⟩
  · exact files_spared paged quotable spared
  · intro k fault reason low high spared met raises
    obtain ⟨n, rfl⟩ := Nat.exists_eq_add_of_le' low
    have spared : ∀ j, 1 ≤ j → j ≤ n → s.listingFault? j = none :=
      fun j low high => spared j low (by omega)
    exact files_cutOff paged quotable (by omega) spared met raises

end

/-- Five files on three pages, of which the last fails after the drive has answered. -/
def cutOffSearch : Session :=
  let files := ["1", "2", "3", "4", "5"].map fun id => smallFile id "temp-1" "temporary" []
  { smallSession files [⟨.list, some 3, true, .raises (.provider (.http 500 "boom"))⟩] .empty with
    drive := { smallDrive files with pageSize := some 2 } }

theorem files_page_by_page_cutOffSearch :
    cutOffSearch.drive.pageSize ≠ some 0 ∧
      (∀ value ∈ (some "temp-1").toList ++ (some "temporary").toList, Query.Quotable value) ∧
      (files (some "temporary") (some "temp-1")).Ends cutOffSearch fun outcome t =>
        t.calls.length = 3 ∧ ∃ found, outcome = .ok found ∧ found.map (·.id) = ["1", "2", "3", "4"] := by
  have paged : cutOffSearch.drive.pageSize ≠ some 0 := by decide
  have quotable : ∀ value ∈ (some "temp-1").toList ++ (some "temporary").toList,
      Query.Quotable value := by decide +kernel
  refine ⟨paged, quotable, ?_⟩
  have read := files_page_by_page paged quotable
  apply read.2.mono
  rintro outcome t ⟨_, cut⟩
  have spared : ∀ j < 3, cutOffSearch.listingFault? j = none := by decide +kernel
  obtain ⟨leafed, rfl⟩ :=
    cut 3 _ _ (by omega) (by decide +kernel) (fun j _ before => spared j before) rfl rfl
  refine ⟨?_, _, rfl, by decide +kernel⟩
  rw [leafed.calls]
  rfl

end Search

end DriveDepot
