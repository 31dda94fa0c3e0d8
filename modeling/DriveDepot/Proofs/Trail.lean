import DriveDepot.Drive
import DriveDepot.Proofs.Query

/-!
Where the titles of a path lead on a drive. At each title the folders that a listing tells decide:
one folder is gone into, and with none or with several the trail ends. A listing is read up to its
first page, so that a drive with small pages hides folders from the one who follows a trail.
-/

namespace DriveDepot

inductive Lookup
  | found (id : String)
  | missing
  | several
  /-- The drive does not read the expression. -/
  | refused
  deriving DecidableEq, Repr

/-- What the folders of a page say. -/
def Lookup.ofPage : List StoredFile → Lookup
  | [] => .missing
  | [folder] => .found folder.id
  | _ => .several

theorem Lookup.ofPage_eq_found {files : List StoredFile} {id : String} :
    ofPage files = .found id ↔ ∃ folder, files = [folder] ∧ folder.id = id := by
  rcases files with _ | ⟨_, _ | _⟩ <;> simp [ofPage]

theorem Lookup.ofPage_eq_missing {files : List StoredFile} :
    ofPage files = .missing ↔ files = [] := by
  rcases files with _ | ⟨_, _ | _⟩ <;> simp [ofPage]

/-- There is more than one folder to choose from, or the drive does not read the expression. -/
def Lookup.Stuck (lookup : Lookup) : Prop := lookup = .several ∨ lookup = .refused

theorem Lookup.stuck_ofPage {files : List StoredFile} : (ofPage files).Stuck ↔ 1 < files.length := by
  rcases files with _ | ⟨_, _ | _⟩ <;> simp [ofPage, Stuck]

namespace StoredFile

/-- The file is a folder of the title, inside a parent if one is given. -/
def IsSought (file : StoredFile) (title : String) (parent : Option String) : Prop :=
  (Query.ofFolders title parent).all file.satisfies = true

instance (file : StoredFile) (title : String) (parent : Option String) :
    Decidable (file.IsSought title parent) := inferInstanceAs (Decidable (_ = true))

theorem isSought_iff {file : StoredFile} {title : String} {parent : Option String} :
    file.IsSought title parent ↔
      file.trashed = false ∧ file.mimeType = Query.folderMimeType ∧ file.title = title ∧
        ∀ folder, parent = some folder → folder ∈ file.parents := by
  cases parent <;> simp [IsSought, Query.ofFolders, satisfies]

end StoredFile

namespace Drive

/-- The folders of a title, inside a parent if one is given. -/
def folders (drive : Drive) (title : String) (parent : Option String) : List StoredFile :=
  drive.select (Query.ofFolders title parent)

def firstPage (drive : Drive) (matching : List StoredFile) : List StoredFile :=
  (drive.page matching .null).1

def lookup (drive : Drive) (title : String) (parent : Option String) : Lookup :=
  if ∀ c ∈ Query.ofFolders title parent, c.Quotable then
    .ofPage (drive.firstPage (drive.folders title parent))
  else .refused

/-- Where the titles lead from a parent. The first is looked for everywhere if there is none. -/
def trail (drive : Drive) (parent : Option String) : List String → Lookup
  | [] => match parent with
    | some id => .found id
    | none => .missing
  | title :: rest => match drive.lookup title parent with
    | .found id => drive.trail (some id) rest
    | other => other

/-- Folders that are not trashed, each inside the one before, spell the titles and end at `id`. -/
def Spells (drive : Drive) (id : String) (parent : Option String) : List String → Prop
  | [] => parent = some id
  | title :: rest => ∃ folder ∈ drive.folders title parent, drive.Spells id (some folder.id) rest

/-- A page tells of two folders, if there are two. -/
def WidePages (drive : Drive) : Prop := ∀ size, drive.pageSize = some size → 1 < size

section
variable {drive : Drive} {title : String} {parent : Option String} {file : StoredFile}

@[simp]
theorem trail_none_nil (drive : Drive) : drive.trail none [] = .missing := rfl

@[simp]
theorem trail_some_nil (drive : Drive) (id : String) : drive.trail (some id) [] = .found id := rfl

theorem trail_cons (drive : Drive) (parent : Option String) (title : String) (rest : List String) :
    drive.trail parent (title :: rest) = match drive.lookup title parent with
      | .found id => drive.trail (some id) rest
      | other => other := rfl

theorem folders_eq (drive : Drive) (title : String) (parent : Option String) :
    drive.folders title parent = drive.files.filter (·.IsSought title parent) :=
  List.filter_congr fun _ _ => Bool.decide_eq_true.symm

theorem mem_folders : file ∈ drive.folders title parent ↔
    file ∈ drive.files ∧ file.IsSought title parent := by
  rw [folders_eq, List.mem_filter, decide_eq_true_iff]

theorem quotable_ofFolders : (∀ c ∈ Query.ofFolders title parent, c.Quotable) ↔
    Query.Quotable title ∧ ∀ folder, parent = some folder → Query.Quotable folder := by
  have folderType : Query.Quotable Query.folderMimeType := by decide
  cases parent <;> simp [Query.ofFolders, Clause.Quotable, folderType]

theorem firstPage_eq (drive : Drive) (matching : List StoredFile) :
    drive.firstPage matching = match drive.pageSize with
      | none => matching
      | some size => matching.take size := by
  rw [firstPage, page]
  cases drive.pageSize <;> rfl

theorem firstPage_eq_singleton {matching : List StoredFile} :
    drive.firstPage matching = [file] ↔ ∃ rest, matching = file :: rest ∧
      drive.pageSize ≠ some 0 ∧ (drive.pageSize = some 1 ∨ rest = []) := by
  rw [firstPage_eq]
  rcases drive.pageSize with _ | _ | _ | size <;> cases matching <;> simp

theorem WidePages.eq_nil_of_firstPage {matching : List StoredFile} (wide : drive.WidePages)
    (empty : drive.firstPage matching = []) : matching = [] := by
  rw [firstPage_eq] at empty
  split at empty
  · exact empty
  · rename_i size paging
    have := wide size paging
    rw [List.take_eq_nil_iff] at empty
    exact empty.resolve_left (by omega)

theorem lookup_eq_found {id : String} : drive.lookup title parent = .found id ↔
    (∀ c ∈ Query.ofFolders title parent, c.Quotable) ∧ ∃ folder rest,
      drive.folders title parent = folder :: rest ∧ folder.id = id ∧ drive.pageSize ≠ some 0 ∧
        (drive.pageSize = some 1 ∨ rest = []) := by
  rw [lookup]
  split
  · rename_i quotable
    rw [Lookup.ofPage_eq_found, and_iff_right quotable]
    constructor
    · rintro ⟨folder, single, same⟩
      obtain ⟨rest, first, paged⟩ := firstPage_eq_singleton.mp single
      exact ⟨folder, rest, first, same, paged⟩
    · rintro ⟨folder, rest, first, same, paged⟩
      exact ⟨folder, firstPage_eq_singleton.mpr ⟨rest, first, paged⟩, same⟩
  · rename_i unquotable
    exact iff_of_false nofun fun h => unquotable h.1

/-- A folder that was found is one of the title. -/
theorem exists_of_lookup {id : String} (h : drive.lookup title parent = .found id) :
    ∃ folder ∈ drive.folders title parent, folder.id = id := by
  obtain ⟨_, folder, rest, first, same, _⟩ := lookup_eq_found.mp h
  exact ⟨folder, by simp [first], same⟩

end

variable {drive : Drive} {parent : Option String} {titles : List String} {id : String}

theorem trail_cons_eq_found {title : String} {rest : List String} :
    drive.trail parent (title :: rest) = .found id ↔
      ∃ middle, drive.lookup title parent = .found middle ∧
        drive.trail (some middle) rest = .found id := by
  rw [trail_cons]
  cases drive.lookup title parent <;> simp

/-- A trail ends where its next title has not one folder. -/
theorem trail_cons_ne_found {title : String} {rest : List String}
    (ended : ∀ middle, drive.lookup title parent ≠ .found middle) (id : String) :
    drive.trail parent (title :: rest) ≠ .found id := by
  intro found
  obtain ⟨middle, onward, _⟩ := trail_cons_eq_found.mp found
  exact ended middle onward

theorem trail_cons_eq_missing {title : String} {rest : List String} :
    drive.trail parent (title :: rest) = .missing ↔ drive.lookup title parent = .missing ∨
      ∃ middle, drive.lookup title parent = .found middle ∧
        drive.trail (some middle) rest = .missing := by
  rw [trail_cons]
  cases drive.lookup title parent <;> simp

/-- A trail that leads somewhere spells its titles. -/
theorem spells_of_trail (h : drive.trail parent titles = .found id) :
    drive.Spells id parent titles := by
  induction titles generalizing parent with
  | nil =>
    cases parent with
    | none => cases h
    | some start => exact congrArg some (Lookup.found.inj h)
  | cons title rest ih =>
    obtain ⟨middle, first, later⟩ := trail_cons_eq_found.mp h
    obtain ⟨folder, member, rfl⟩ := exists_of_lookup first
    exact ⟨folder, member, ih later⟩

/-- Where a title is missing on the trail nothing spells the titles, unless pages hide it. -/
theorem not_spells_of_missing (wide : drive.WidePages) (h : drive.trail parent titles = .missing) :
    ¬ drive.Spells id parent titles := by
  induction titles generalizing parent with
  | nil =>
    cases parent with
    | none => exact Option.some_ne_none id ∘ Eq.symm
    | some start => cases h
  | cons title rest ih =>
    rintro ⟨folder, member, later⟩
    obtain none_there | ⟨middle, first, missing⟩ := trail_cons_eq_missing.mp h
    · rw [lookup] at none_there
      split at none_there
      · rw [wide.eq_nil_of_firstPage (Lookup.ofPage_eq_missing.mp none_there)] at member
        cases member
      · cases none_there
    · obtain ⟨_, only, others, single, rfl, _, narrow | rfl⟩ := lookup_eq_found.mp first
      · exact absurd (wide 1 narrow) (by decide)
      · rw [single, List.mem_singleton] at member
        exact ih missing (member ▸ later)

theorem quotable_of_trail (h : drive.trail parent titles = .found id) :
    ∀ title ∈ titles, Query.Quotable title := by
  induction titles generalizing parent with
  | nil => simp
  | cons title rest ih =>
    obtain ⟨middle, first, later⟩ := trail_cons_eq_found.mp h
    rintro other (_ | ⟨_, member⟩)
    · exact (quotable_ofFolders.mp (lookup_eq_found.mp first).1).1
    · exact ih later other member

end Drive

end DriveDepot
