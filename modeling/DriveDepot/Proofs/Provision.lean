import DriveDepot.Layout
import DriveDepot.Proofs.Growth

namespace DriveDepot

/-- The titles of the category folders. -/
def Slot.titles : List String := Slot.all.map Slot.title

namespace Drive

/-- The folders for a path of titles and for the category folders at its end. -/
def provision (created : Nat) (path : List String) : List StoredFile :=
  chain created none path ++
    siblings (created + path.length) (issuedId (created + path.length)) Slot.titles

/-- Those of the folders that lie in others of them. -/
def below (created : Nat) (rest : List String) : List StoredFile :=
  chain (created + 1) (some (issuedId (created + 1))) rest ++
    siblings (created + 1 + rest.length) (issuedId (created + 1 + rest.length)) Slot.titles

theorem provision_cons (created : Nat) (first : String) (rest : List String) :
    provision created (first :: rest) =
      newFolder (issuedId (created + 1)) first none :: below created rest := by
  rw [provision, chain, List.cons_append, List.length_cons, Nat.add_comm rest.length,
    ← Nat.add_assoc, below]

section
variable {drive : Drive} {first : String} {rest : List String}

theorem below_filter_eq_nil {created : Nat} :
    (below created rest).filter (·.IsSought first none) = [] ↔
      first ∉ rest ∧ first ∉ Slot.titles := by
  have sought : (∃ file ∈ below created rest, file.IsSought first none) ↔
      first ∈ rest ∨ first ∈ Slot.titles := by
    simp only [below, List.mem_append, or_and_right, exists_or, exists_isSought_chain,
      exists_isSought_siblings]
    simp
  rw [← not_or, ← sought, List.filter_eq_nil_iff]
  simp

/-- The new folders below the first lie in new folders only. -/
theorem parents_of_mem_below {created : Nat} {file : StoredFile}
    (member : file ∈ below created rest) :
    ∃ n, created < n ∧ n ≤ created + 1 + rest.length ∧ file.parents = [issuedId n] := by
  obtain inner | slot := List.mem_append.mp member
  · obtain ⟨n, least, most, parents⟩ := parents_of_mem_chain inner
    exact ⟨n, by omega, by omega, parents⟩
  · exact ⟨_, by omega, Nat.le_refl _, (mem_siblings slot).1⟩

/-- The first title is looked for everywhere: among the old folders, and then among the new. -/
theorem folders_provision (drive : Drive) (first : String) (rest : List String) :
    (drive.grown (provision drive.created (first :: rest))).folders first none =
      drive.folders first none ++ newFolder (issuedId (drive.created + 1)) first none ::
        (below drive.created rest).filter (·.IsSought first none) := by
  have sought : (newFolder (issuedId (drive.created + 1)) first none).IsSought first none :=
    isSought_newFolder.mpr ⟨rfl, fun _ same => same⟩
  rw [folders_grown, provision_cons, List.filter_cons_of_pos (by simpa using sought)]

/-- The path leads to the new root folder if its first title is that of one folder only. -/
theorem trail_provision (unused : drive.UnusedIds)
    (quotable : ∀ title ∈ first :: rest, Query.Quotable title)
    (absent : drive.folders first none = []) (paged : drive.pageSize ≠ some 0)
    (single : drive.pageSize = some 1 ∨ first ∉ rest ∧ first ∉ Slot.titles) :
    (drive.grown (provision drive.created (first :: rest))).trail none (first :: rest) =
      .found (issuedId (drive.created + (first :: rest).length)) := by
  let grown := drive.grown (provision drive.created (first :: rest))
  have found : grown.lookup first none = .found (issuedId (drive.created + 1)) := by
    have readable : ∀ c ∈ Query.ofFolders first none, c.Quotable :=
      quotable_ofFolders.mpr ⟨quotable first List.mem_cons_self, fun _ => nofun⟩
    have folders := folders_provision drive first rest
    rw [absent, List.nil_append] at folders
    exact lookup_eq_found.mpr ⟨readable, _, _, folders, rfl, paged,
      single.imp_right below_filter_eq_nil.mpr⟩
  have onward : grown.trail (some (issuedId (drive.created + 1))) rest =
      .found (issuedId (drive.created + 1 + rest.length)) := by
    have files : grown.files =
        (drive.files ++ [newFolder (issuedId (drive.created + 1)) first none]) ++
          chain (drive.created + 1) (some (issuedId (drive.created + 1))) rest ++
            siblings (drive.created + 1 + rest.length)
              (issuedId (drive.created + 1 + rest.length)) Slot.titles := by
      change drive.files ++ provision drive.created (first :: rest) = _
      rw [provision_cons, below]
      simp only [List.append_assoc, List.cons_append, List.nil_append]
    refine trail_chain files (fun title member => quotable title (List.mem_cons_of_mem _ member))
      paged ?_
    intro file member n least most inside
    rw [List.append_assoc, List.mem_append, List.singleton_append, List.mem_cons] at member
    obtain old | rfl | slot := member
    · exact (unused file old n (by omega)).2 inside
    · cases inside
    · rw [(mem_siblings slot).1, List.mem_singleton] at inside
      have := issuedId_injective inside
      omega
  refine trail_cons_eq_found.mpr ⟨_, found, ?_⟩
  rw [onward, List.length_cons, Nat.add_comm rest.length, ← Nat.add_assoc]

/-- The path leads to a folder after all only if its first title was that of none before. -/
theorem of_trail_provision (unused : drive.UnusedIds)
    (missing : drive.trail none (first :: rest) = .missing) {id : String}
    (found : (drive.grown (provision drive.created (first :: rest))).trail none (first :: rest) =
      .found id) :
    drive.folders first none = [] ∧ drive.pageSize ≠ some 0 ∧
      (drive.pageSize = some 1 ∨ first ∉ rest ∧ first ∉ Slot.titles) := by
  obtain ⟨middle, onward, later⟩ := trail_cons_eq_found.mp found
  obtain ⟨quotable, folder, others, folders, rfl, paged, few⟩ := lookup_eq_found.mp onward
  rw [folders_provision] at folders
  have absent : drive.folders first none = [] := by
    cases old : drive.folders first none with
    | nil => rfl
    | cons start more =>
      -- Only pages of one folder tell the old one alone, and the trail was missing below it.
      rw [old] at folders
      obtain ⟨rfl, rfl⟩ := List.cons.inj folders
      have narrow : drive.pageSize = some 1 := few.resolve_right (by simp)
      have first_found : drive.lookup first none = .found start.id :=
        lookup_eq_found.mpr ⟨quotable, start, more, old, rfl, paged, .inl narrow⟩
      have held : start ∈ drive.files := (mem_folders.mp (by rw [old]; exact List.mem_cons_self)).1
      have apart : ∀ file ∈ provision drive.created (first :: rest), ∀ old ∈ drive.files,
          old.id ∉ file.parents := by
        intro file member other there inside
        rw [provision_cons] at member
        obtain rfl | member := List.mem_cons.mp member
        · cases inside
        · obtain ⟨n, later, _, parents⟩ := parents_of_mem_below member
          rw [parents, List.mem_singleton] at inside
          exact (unused other there n later).1 inside
      rw [trail_grown_of_old apart held] at later
      rw [trail_cons, first_found] at missing
      cases later.symm.trans missing
  rw [absent, List.nil_append] at folders
  obtain ⟨rfl, rfl⟩ := List.cons.inj folders
  exact ⟨absent, paged, few.imp_right below_filter_eq_nil.mp⟩

end

end Drive

end DriveDepot
