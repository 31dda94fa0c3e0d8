import DriveDepot.Proofs.Listing
import DriveDepot.Proofs.NamePattern
import DriveDepot.Proofs.Search.Paging

namespace DriveDepot.Repository

open Operation Search

/-- The titles that are names of a category, in the order in which they come first. -/
def namesAmong (category : Category) (titles : List String) : List String :=
  titles.eraseDups.filter fun title => title.toList ∈ category.pattern.language

theorem filter_eraseDups (p : String → Bool) (titles : List String) :
    titles.eraseDups.filter p = (titles.filter p).eraseDups := by
  match titles with
  | [] => rfl
  | title :: titles =>
    have rest := filter_eraseDups p (titles.filter fun other => !other == title)
    rw [List.filter_filter] at rest
    rw [List.eraseDups_cons, List.filter_cons, List.filter_cons, rest]
    split
    · rw [List.eraseDups_cons, List.filter_filter]
      simp only [Bool.and_comm]
    · rename_i dropped
      have others (other : String) : (p other && !other == title) = p other := by
        by_cases same : other = title
        · simp [same, dropped]
        · simp [same]
      simp only [others]
termination_by titles.length
decreasing_by exact Nat.lt_succ_of_le (List.length_filter_le _ _)

theorem map_name_references (category : Category) (titles : List String) :
    (references category titles).map (·.name) = namesAmong category titles := by
  induction titles with
  | nil => rfl
  | cons title rest ih =>
    have others : ((references category rest).filter (·.name ≠ title)).map (·.name) =
        namesAmong category (rest.filter fun other => !other == title) := by
      have kept : ((references category rest).filter (·.name ≠ title)).map (·.name) =
          (namesAmong category rest).filter fun other => !other == title := by
        rw [← ih, List.filter_map]
        congr 2
        funext file
        simp [beq_eq_decide]
      rw [kept, namesAmong, namesAmong, ← filter_eraseDups, List.filter_filter, List.filter_filter]
      simp only [Bool.and_comm]
    have first : (title.toList ∈ category.pattern.language) ↔ category.accepts title = true :=
      NamePattern.accepts_iff.symm
    rw [references, RemoteFile.make, namesAmong, List.eraseDups_cons, List.filter_cons]
    by_cases accepted : category.accepts title = true
    · rw [dif_pos accepted, if_pos (by simpa using first.mpr accepted), List.map_cons, others]
      rfl
    · rw [dif_neg accepted, if_neg (by simpa using accepted ∘ first.mp)]
      exact others

/-- The outcome tells the names of a category among the titles of the files. -/
def Told (category : Category) (files : List StoredFile)
    (outcome : Except Failure (List RemoteFile)) : Prop :=
  ∃ listed, outcome = .ok listed ∧ (∀ file ∈ listed, file.category = category) ∧
    listed.map (·.name) = namesAmong category (files.map (·.title))

theorem list_of_files {s : Session} {category : Category} {folder : String}
    (text : s.layout.folderFor category = .string folder) {found : List StoredFile}
    (searched : (files folder none).Ends s fun outcome _ => outcome = .ok (found.map (·.found))) :
    (list category).Ends s fun outcome _ => Told category found outcome := by
  rw [list, ends_folderFor_bind, text, filesIn_string]
  refine searched.bind ?_ ?_
  · rintro _ t ⟨rfl⟩
    refine (noteEach_ends category _ t).bind ?_ ?_
    · rintro _ u _
      have titles : (found.map (·.found)).map (·.title) = found.map (·.title) := List.map_map
      rw [titles]
      exact ends_pure.mpr ⟨_, rfl, fun _ member => (mem_references.mp member).1,
        map_name_references category _⟩
    · rintro _ _ ⟨⟨⟩, _⟩
  · rintro _ _ ⟨⟩

/-- Whatever becomes of the search, a listing tells references of its category only. -/
theorem list_category (category : Category) (s : Session) :
    (list category).Ends s fun outcome _ =>
      ∀ listed, outcome = .ok listed → ∀ file ∈ listed, file.category = category := by
  rw [list, ends_folderFor_bind]
  refine (Ends.run _ s).bind (fun found t _ => ?_) (by rintro _ _ _ _ ⟨⟩)
  refine (noteEach_ends category found t).bind (fun _ u _ => ends_pure.mpr ?_) ?_
  · rintro _ ⟨rfl⟩ file member
    exact (mem_references.mp member).1
  · rintro _ _ _ _ ⟨⟩

/-- A listing tells exactly the names of its category in the folder, and no title makes it fail. If
a page fails with an error of the drive, this holds of the files of the pages before it. Databases
and cleanups share a folder and never a name. -/
theorem list_names {s : Session} (paged : s.drive.pageSize ≠ some 0) {category : Category}
    {folder : String} (text : s.layout.folderFor category = .string folder)
    (quotable : Query.Quotable folder) :
    let filed := s.drive.filed (some folder) none
    let pages := s.drive.pageCount filed.length
    ((list category).Ends s fun outcome _ =>
      ((∀ k, 1 ≤ k → k ≤ pages → s.listingFault? k = none) → Told category filed outcome) ∧
      ∀ k fault e, 1 ≤ k → k ≤ pages → (∀ j, 1 ≤ j → j < k → s.listingFault? j = none) →
        s.listingFault? k = some fault → fault.outcome = .raises (.provider e) →
          Told category (filed.take ((k - 1) * s.drive.pageSize.getD 0)) outcome) ∧
    s.layout.folderFor .metadataDb = s.layout.folderFor .cleanup ∧
    ∀ t u, (list .metadataDb).Ends t fun databases _ => (list .cleanup).Ends u fun cleanups _ =>
      ∀ listed others, databases = .ok listed → cleanups = .ok others →
        ∀ database ∈ listed, ∀ cleanup ∈ others, database.name ≠ cleanup.name := by
  intro filed pages
  have quotable : ∀ value ∈ (none : Option String).toList ++ (some folder).toList,
      Query.Quotable value := by simpa using quotable
  have read := (files_page_by_page paged quotable).2
  refine ⟨⟨fun spared => ?_, ?_⟩, rfl, fun t u => ?_⟩
  · exact list_of_files text (read.mono fun _ _ h => (h.1 spared).2)
  · intro k fault e low high before met raises
    exact list_of_files text
      (read.mono fun _ _ h => (h.2 k fault _ low high before met raises).2)
  · apply (list_category .metadataDb t).mono
    intro databases _ those
    apply (list_category .cleanup u).mono
    intro cleanups _ these listed others told toldOthers database member cleanup memberOthers same
    have accepted := database.accepted
    have acceptedOther := cleanup.accepted
    rw [those listed told database member, same] at accepted
    rw [these others toldOthers cleanup memberOthers] at acceptedOther
    cases Category.eq_of_accepts (by decide) (by decide) accepted acceptedOther

/-- A name that comes twice, one with a digit of another script, one in the trash and one of another
category, on three pages of which the last fails. -/
def mixedFolder : Session :=
  let trashed := { smallFile "0" "db-z-0" "databases" [] with trashed := true }
  let titles :=
    [("1", "db-a-1"), ("2", "db-a-\u0663"), ("3", "db-a-1"), ("4", "cleanup-1"), ("5", "db-b-2")]
  let files := trashed :: titles.map fun (id, title) => smallFile id title "databases" []
  { smallSession files [⟨.list, some 3, false, .raises (.provider (.http 500 "boom"))⟩] .empty with
    drive := { smallDrive files with pageSize := some 2 } }

theorem list_names_mixedFolder :
    mixedFolder.drive.pageSize ≠ some 0 ∧
      mixedFolder.layout.folderFor .metadataDb = .string "databases" ∧
      Query.Quotable "databases" ∧
      (list .metadataDb).Ends mixedFolder fun outcome _ =>
        ∃ listed, outcome = .ok listed ∧ listed.map (·.name) = ["db-a-1", "db-a-\u0663"] := by
  have paged : mixedFolder.drive.pageSize ≠ some 0 := by decide
  have text : mixedFolder.layout.folderFor .metadataDb = .string "databases" := rfl
  have quotable : Query.Quotable "databases" := by decide +kernel
  refine ⟨paged, text, quotable, ?_⟩
  apply (list_names paged text quotable).1.mono
  rintro outcome t ⟨_, cut⟩
  have spared : ∀ j < 3, mixedFolder.listingFault? j = none := by decide +kernel
  obtain ⟨listed, told, _, names⟩ :=
    cut 3 _ _ (by omega) (by decide +kernel) (fun j _ before => spared j before) rfl rfl
  exact ⟨listed, told, names.trans (by decide +kernel)⟩

end DriveDepot.Repository
