import DriveDepot.Proofs.Search.Paging

/-!
The one file of a name. That it is the only one is judged by the files that a listing has told of
when it ends, and a listing that fails ends early. So one of several files can pass for the only one,
but in a single case: each page tells of one file, and the second page is the first to fail.
-/

namespace DriveDepot.Search

open Operation Repository

theorem oneFile_eq_ok (folder : Option String) (name : String) (s : Session) :
    (oneFile folder name).Ends s fun outcome _ => ∀ file,
      outcome = .ok file ↔ (runOn (files folder (some name)) s).1 = .ok [file] := by
  have refused (error : StorageError) (t : Session) :
      (oneFile.refuse error).Ends t fun outcome _ => ∃ failure, outcome = .error failure :=
    Ends.log_bind fun _ => ends_throw.mpr ⟨_, rfl⟩
  refine (Ends.run (files folder (some name)) s).bind ?_ ?_
  · intro found t run
    rw [run]
    match found with
    | [file] => exact ends_pure.mpr fun other => by simp
    | [] =>
      apply (refused _ t).mono
      rintro _ _ ⟨failure, rfl⟩ file
      simp
    | _ :: _ :: _ =>
      apply (refused _ t).mono
      rintro _ _ ⟨failure, rfl⟩ file
      simp
  · intro failure t run file
    simp [run]

/-- A search that goes through pages without a file finds none. -/
theorem collect_of_empty_pages {s : Session} (raising : s.schedule.Raising)
    (empty : s.drive.pageSize = some 0) (query : String) (bound : Nat) (token : Json) :
    (collect query bound [] token).Ends s fun outcome _ =>
      ∀ found, outcome = .ok found → found = [] := by
  induction bound generalizing s token with
  | zero => exact ends_throw.mpr nofun
  | succ bound ih =>
    refine (page_ends raising query [] token).bind ?_ fun _ _ _ => nofun
    rintro (_ | response) t ⟨⟨asked, drive⟩, read⟩
    · exact ends_pure.mpr fun found all => (Except.ok.inj all).symm
    · cases read with
      | read listed =>
        rw [Drive.list] at listed
        split at listed
        · cases listed
        · simp only [Drive.page, empty, List.take_zero] at listed
          obtain rfl := Except.ok.inj listed
          simp only [filesOf_listing, optional_listing, ofMishap, ofExcept_ok, pure_bind,
            List.map_nil, List.append_nil]
          generalize Option.getD (Option.map Drive.pageToken _) Json.null = next
          split
          · exact ends_pure.mpr fun found all => (Except.ok.inj all).symm
          · exact ih (asked.raising raising) (drive ▸ empty) next

/-- Either no listing fails up to some number, or one of them is the first to fail. -/
theorem exists_first_fault {s : Session} (raising : s.schedule.Raising) (count : Nat) :
    (∀ k, 1 ≤ k → k ≤ count → s.listingFault? k = none) ∨
      ∃ n < count, (∀ k, 1 ≤ k → k ≤ n → s.listingFault? k = none) ∧
        ∃ fault reason, s.listingFault? (n + 1) = some fault ∧
          fault.outcome = .raises reason := by
  induction count with
  | zero => exact .inl fun k low high => by omega
  | succ count ih =>
    obtain spared | ⟨n, before, first⟩ := ih
    · cases met : s.listingFault? (count + 1) with
      | none =>
        refine .inl fun k low high => ?_
        obtain last | earlier : k = count + 1 ∨ k ≤ count := by omega
        · exact last ▸ met
        · exact spared k low earlier
      | some fault =>
        obtain ⟨reason, raises⟩ := raising fault (List.mem_of_find?_eq_some met)
        exact .inr ⟨count, Nat.lt_succ_self _, spared, fault, reason, met, raises⟩
    · exact .inr ⟨n, Nat.lt_succ_of_lt before, first⟩

/-- Several files have the name, each page tells of one, and the second page is the first to fail. -/
structure HidesOthers (s : Session) (folder : Option String) (name : String) : Prop where
  single : s.drive.pageSize = some 1
  several : 1 < (s.drive.filed folder (some name)).length
  quotable : ∀ value ∈ (some name).toList ++ folder.toList, Query.Quotable value
  first : s.listingFault? 1 = none
  second : ∃ fault error, s.listingFault? 2 = some fault ∧
    fault.outcome = .raises (.provider error)

section
variable {s : Session} {folder : Option String} {name : String}

theorem HidesOthers.files (h : HidesOthers s folder name) :
    (files folder (some name)).Ends s fun outcome _ => ∃ stored others,
      s.drive.filed folder (some name) = stored :: others ∧ others ≠ [] ∧
        outcome = .ok [stored.found] := by
  obtain ⟨fault, error, met, raises⟩ := h.second
  have paged : s.drive.pageSize ≠ some 0 := by simp [h.single]
  have within : 1 < s.drive.pageCount (s.drive.filed folder (some name)).length := by
    rw [Drive.lt_pageCount_iff h.single Nat.one_pos]
    simpa [Drive.filesBefore, h.single] using h.several
  have spared : ∀ k, 1 ≤ k → k ≤ 1 → s.listingFault? k = none := by
    intro k low high
    rw [Nat.le_antisymm high low]
    exact h.first
  apply (files_cutOff paged h.quotable within spared met raises).mono
  rintro _ _ ⟨_, rfl⟩
  have several := h.several
  rcases matching : s.drive.filed folder (some name) with _ | ⟨stored, _ | ⟨other, more⟩⟩
  · simp [matching] at several
  · simp [matching] at several
  · refine ⟨stored, other :: more, rfl, by simp, ?_⟩
    simp [cutOff, Drive.filesBefore, h.single]

/-- The files before a page that comes after others are a single one only if each page tells of one
and the page is the second. -/
theorem eq_one_of_filesBefore {drive : Drive} {n count : Nat} (within : n < drive.pageCount count)
    (single : min (drive.filesBefore n) count = 1) (empty : drive.pageSize ≠ some 0) :
    drive.pageSize = some 1 ∧ n = 1 ∧ 1 < count := by
  cases n with
  | zero => simp [Drive.filesBefore] at single
  | succ n =>
    cases paging : drive.pageSize with
    | none => simp [Drive.pageCount, paging] at within
    | some size =>
      have sized : 0 < size := Nat.pos_of_ne_zero (by rintro rfl; exact empty paging)
      have before := (Drive.lt_pageCount_iff paging sized).mp within
      have one : (n + 1) * size = 1 := by
        rw [Nat.min_eq_left (Nat.le_of_lt before)] at single
        simpa [Drive.filesBefore, paging] using single
      have narrow : size = 1 := Nat.eq_one_of_mul_eq_one_left one
      exact ⟨by rw [narrow], Nat.eq_one_of_mul_eq_one_right one, by omega⟩

/-- A search that found a single file has found the only one, unless the others are hidden. -/
theorem files_single (raising : s.schedule.Raising) (file : FoundFile) :
    (files folder (some name)).Ends s fun outcome _ => outcome = .ok [file] →
      (∃ stored, s.drive.filed folder (some name) = [stored] ∧ stored.found = file) ∨
        HidesOthers s folder name := by
  by_cases quotable : ∀ value ∈ (some name).toList ++ folder.toList, Query.Quotable value
  · by_cases empty : s.drive.pageSize = some 0
    · rw [files, ends_get_bind]
      apply (collect_of_empty_pages raising empty _ _ _).mono
      intro outcome _ none_found single
      cases none_found _ single
    · have pages := exists_first_fault raising
        (s.drive.pageCount (s.drive.filed folder (some name)).length)
      obtain spared | ⟨n, within, spared, fault, reason, met, raises⟩ := pages
      · apply (files_spared empty quotable spared).mono
        rintro _ _ ⟨_, rfl⟩ single
        exact .inl (List.map_eq_singleton_iff.mp (Except.ok.inj single))
      · apply (files_cutOff empty quotable within spared met raises).mono
        rintro _ _ ⟨_, rfl⟩ single
        cases reason with
        | provider error =>
          have length := congrArg List.length (Except.ok.inj single)
          rw [List.length_map, List.length_take] at length
          obtain ⟨narrow, rfl, several⟩ := eq_one_of_filesBefore within length empty
          exact .inr ⟨narrow, several, quotable, spared 1 (by omega) (by omega),
            fault, error, met, raises⟩
        | storage | mishap => cases single
  · have none_read : s.drive.matching folder (some name) = [] :=
      if_neg fun all => quotable (Query.forall_quotable_ofFiles.mp all)
    apply (files_ends raising folder (some name)).mono
    rintro _ _ ⟨_, collected⟩ rfl
    rw [none_read] at collected
    cases List.prefix_nil.mp collected.found_prefix

/-- The file that is returned is the only one of its name in the folder, unless the others are
hidden; then the first of them is returned. -/
theorem oneFile_only_unless_hidden (raising : s.schedule.Raising) (folder : Option String)
    (name : String) :
    (oneFile folder name).Ends s fun outcome _ =>
      (∀ file, outcome = .ok file →
        (∃ stored, s.drive.filed folder (some name) = [stored] ∧ stored.found = file) ∨
          HidesOthers s folder name) ∧
      (HidesOthers s folder name → ∃ stored others,
        s.drive.filed folder (some name) = stored :: others ∧ others ≠ [] ∧
          outcome = .ok stored.found) := by
  apply (oneFile_eq_ok folder name s).mono
  intro outcome _ returned
  constructor
  · intro file ok
    exact files_single raising file ((returned file).mp ok)
  · intro hides
    obtain ⟨stored, others, matching, several, first⟩ := hides.files
    exact ⟨stored, others, matching, several, (returned _).mpr first⟩

end

/-- A file of the name and one of another, and a listing that fails before the second is told. -/
def soleSearch : Session :=
  smallSession [smallFile "1" "temp-1" "temporary" [], smallFile "2" "temp-2" "temporary" []]
    [⟨.list, some 2, false, .raises (.provider (.http 500 "boom"))⟩] .empty

theorem oneFile_only_unless_hidden_soleSearch :
    soleSearch.schedule.Raising ∧
      (oneFile (some "temporary") "temp-1").Ends soleSearch fun outcome _ =>
        ∃ file stored, outcome = .ok file ∧
          soleSearch.drive.filed (some "temporary") (some "temp-1") = [stored] ∧
            stored.found = file := by
  have raising : soleSearch.schedule.Raising := .of_reasons [] (by decide)
  have returned : ∃ file, (runOn (oneFile (some "temporary") "temp-1") soleSearch).1 = .ok file :=
    ⟨⟨"1", "temp-1", ["temporary"], some "https://drive.example/1"⟩, by decide +kernel⟩
  obtain ⟨file, returned⟩ := returned
  refine ⟨raising, file, ?_⟩
  obtain ⟨stored, only, same⟩ | hides :=
    (oneFile_only_unless_hidden raising (some "temporary") "temp-1").1 file returned
  · exact ⟨stored, returned, only, same⟩
  · have one : (soleSearch.drive.filed (some "temporary") (some "temp-1")).length = 1 := by
      decide +kernel
    exact absurd hides.several (by omega)

/-- Two files of the name, each on a page of its own, and the second page fails. -/
def halfSearch : Session :=
  smallSession [smallFile "1" "temp-1" "temporary" [], smallFile "2" "temp-1" "temporary" []]
    [⟨.list, some 2, false, .raises (.provider (.http 500 "boom"))⟩] .empty

/-- The first of two files is returned as if it were the only one. -/
theorem oneFile_picks_first_of_two :
    halfSearch.schedule.Raising ∧
      (oneFile (some "temporary") "temp-1").Ends halfSearch fun outcome _ =>
        ∃ file, outcome = .ok file ∧
          ¬ ∃ stored, halfSearch.drive.filed (some "temporary") (some "temp-1") = [stored] ∧
            stored.found = file := by
  refine ⟨.of_reasons [] (by decide),
    ⟨"1", "temp-1", ["temporary"], some "https://drive.example/1"⟩, by decide +kernel, ?_⟩
  rintro ⟨stored, only, _⟩
  have two : (halfSearch.drive.filed (some "temporary") (some "temp-1")).length = 2 := by
    decide +kernel
  rw [only] at two
  cases two

end DriveDepot.Search
