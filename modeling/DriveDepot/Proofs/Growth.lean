import DriveDepot.Proofs.Trail

/-!
A drive that has got new folders. They matter to a trail only where it looks for one of them: there
the new folder stands beside the old one, and a trail does not choose between two. Folders that are
made one inside the other lead from the first to the last, as new ids are not in use.
-/

namespace DriveDepot

namespace Drive

/-- The id of the file that is the `n`th to be made. -/
def issuedId (n : Nat) : String := "new" ++ Text.Decimal.text n

theorem issuedId_injective {m n : Nat} (same : issuedId m = issuedId n) : m = n :=
  Text.Decimal.text_injective ((String.append_right_inj _).mp same)

theorem issuedId_ne_empty (n : Nat) : issuedId n ≠ "" := by
  intro empty
  have := congrArg String.length empty
  simp [issuedId, String.length_append] at this

theorem quotable_issuedId (n : Nat) : Query.Quotable (issuedId n) := by
  have digit : ∀ d < 10, Text.Decimal.digit d ≠ '\\' := by decide
  obtain ⟨before, d, small, last⟩ :
      ∃ before, ∃ d < 10, Text.Decimal.digits n = before ++ [Text.Decimal.digit d] := by
    rw [Text.Decimal.digits]
    split
    · rename_i small
      exact ⟨[], n, small, rfl⟩
    · exact ⟨_, _, Nat.mod_lt n (by decide), rfl⟩
  have characters : (issuedId n).toList = "new".toList ++ before ++ [Text.Decimal.digit d] := by
    simp [issuedId, Text.Decimal.text, last]
  rw [Query.Quotable, characters, List.getLast?_concat]
  exact fun same => digit d small (Option.some.inj same)

/-- Neither an id nor a parent of a file is one of the ids that the drive has yet to give. -/
def UnusedIds (drive : Drive) : Prop :=
  ∀ file ∈ drive.files, ∀ n, drive.created < n → file.id ≠ issuedId n ∧ issuedId n ∉ file.parents

def newFolder (id title : String) (parent : Option String) : StoredFile :=
  ⟨id, title, parent.toList, Query.folderMimeType, false, none, []⟩

/-- The drive after it has made some more files. -/
def grown (drive : Drive) (new : List StoredFile) : Drive :=
  { drive with files := drive.files ++ new, created := drive.created + new.length }

theorem grown_nil (drive : Drive) : drive.grown [] = drive := by
  rw [grown, List.append_nil]
  rfl

theorem grown_grown (drive : Drive) (new more : List StoredFile) :
    (drive.grown new).grown more = drive.grown (new ++ more) := by
  simp only [grown, List.append_assoc, List.length_append, Nat.add_assoc]

/-- Folders that are made one inside the other, when `created` files have been made before. -/
def chain (created : Nat) (parent : Option String) : List String → List StoredFile
  | [] => []
  | title :: rest =>
    newFolder (issuedId (created + 1)) title parent ::
      chain (created + 1) (some (issuedId (created + 1))) rest

/-- Folders that are made one beside the other. -/
def siblings (created : Nat) (parent : String) : List String → List StoredFile
  | [] => []
  | title :: rest =>
    newFolder (issuedId (created + 1)) title (some parent) :: siblings (created + 1) parent rest

@[simp] theorem length_chain (created : Nat) (parent : Option String) (titles : List String) :
    (chain created parent titles).length = titles.length := by
  induction titles generalizing created parent with
  | nil => rfl
  | cons title rest ih => simp only [chain, List.length_cons, ih]

theorem titles_chain (created : Nat) (parent : Option String) (titles : List String) :
    (chain created parent titles).map (·.title) = titles := by
  induction titles generalizing created parent with
  | nil => rfl
  | cons title rest ih => exact congrArg (title :: ·) (ih ..)

theorem titles_siblings (created : Nat) (parent : String) (titles : List String) :
    (siblings created parent titles).map (·.title) = titles := by
  induction titles generalizing created with
  | nil => rfl
  | cons title rest ih => exact congrArg (title :: ·) (ih ..)

theorem isSought_newFolder {id name title : String} {inside parent : Option String} :
    (newFolder id name inside).IsSought title parent ↔
      name = title ∧ ∀ folder, parent = some folder → inside = some folder := by
  simp [StoredFile.isSought_iff, newFolder]

/-- Each folder of a chain that goes on from a new folder lies inside a new one. -/
theorem parents_of_mem_chain {created : Nat} {titles : List String} {file : StoredFile}
    (member : file ∈ chain created (some (issuedId created)) titles) :
    ∃ n, created ≤ n ∧ n < created + titles.length ∧ file.parents = [issuedId n] := by
  induction titles generalizing created with
  | nil => cases member
  | cons title rest ih =>
    obtain rfl | later := List.mem_cons.mp member
    · exact ⟨created, Nat.le_refl _, by simp, rfl⟩
    · obtain ⟨n, least, most, parents⟩ := ih later
      rw [List.length_cons]
      exact ⟨n, by omega, by omega, parents⟩

theorem mem_siblings {created : Nat} {parent : String} {titles : List String} {file : StoredFile}
    (member : file ∈ siblings created parent titles) :
    file.parents = [parent] ∧ file.title ∈ titles := by
  induction titles generalizing created with
  | nil => cases member
  | cons title rest ih =>
    obtain rfl | later := List.mem_cons.mp member
    · exact ⟨rfl, List.mem_cons_self⟩
    · exact ⟨(ih later).1, List.mem_cons_of_mem _ (ih later).2⟩

/-- A title is looked for among the new folders of a chain only if one of them has it. -/
theorem exists_isSought_chain {created : Nat} {parent : Option String} {titles : List String}
    {title : String} :
    (∃ file ∈ chain created parent titles, file.IsSought title none) ↔ title ∈ titles := by
  induction titles generalizing created parent with
  | nil => simp [chain]
  | cons name rest ih =>
    rw [chain, List.exists_mem_cons_iff, ih, isSought_newFolder, List.mem_cons]
    simp [eq_comm]

theorem exists_isSought_siblings (created : Nat) {root title : String} {parent : Option String}
    {titles : List String} :
    (∃ file ∈ siblings created root titles, file.IsSought title parent) ↔
      title ∈ titles ∧ ∀ folder, parent = some folder → root = folder := by
  induction titles generalizing created with
  | nil => simp [siblings]
  | cons name rest ih =>
    rw [siblings, List.exists_mem_cons_iff, ih, isSought_newFolder, List.mem_cons, or_and_right,
      eq_comm]
    simp only [Option.some.injEq]

section
variable {drive : Drive} {new : List StoredFile} {title : String} {parent : Option String}
  {file : StoredFile}

/-- The new folders that a listing tells come after the old ones. -/
theorem folders_grown (drive : Drive) (new : List StoredFile) (title : String)
    (parent : Option String) : (drive.grown new).folders title parent =
      drive.folders title parent ++ new.filter (·.IsSought title parent) := by
  rw [folders_eq, folders_eq, grown, List.filter_append]

theorem folders_eq_singleton {before after : List StoredFile}
    (files : drive.files = before ++ file :: after) (sought : file.IsSought title parent)
    (others : ∀ other ∈ before ++ after, ¬ other.IsSought title parent) :
    drive.folders title parent = [file] := by
  have none_there {part : List StoredFile} (within : part ⊆ before ++ after) :
      part.filter (·.IsSought title parent) = [] :=
    List.filter_eq_nil_iff.mpr fun other member => by simpa using others other (within member)
  rw [folders_eq, files, List.filter_append, List.filter_cons_of_pos (by simpa using sought),
    none_there (List.subset_append_left before after),
    none_there (List.subset_append_right before after)]
  rfl

theorem lookup_eq_of_folders {other : Drive} (paging : other.pageSize = drive.pageSize)
    (same : other.folders title parent = drive.folders title parent) :
    other.lookup title parent = drive.lookup title parent := by
  rw [lookup, lookup, firstPage_eq, firstPage_eq, paging, same]

theorem lookup_grown (unsought : ∀ file ∈ new, ¬ file.IsSought title parent) :
    (drive.grown new).lookup title parent = drive.lookup title parent := by
  have none_there : new.filter (·.IsSought title parent) = [] :=
    List.filter_eq_nil_iff.mpr fun file member => by simpa using unsought file member
  refine lookup_eq_of_folders rfl ?_
  rw [folders_grown, none_there, List.append_nil]

/-- A new folder beside the one that was found hides it, unless pages tell of one folder only. -/
theorem lookup_grown_eq_found {id other : String} (found : drive.lookup title parent = .found id) :
    (drive.grown new).lookup title parent = .found other ↔ id = other ∧
      (drive.pageSize = some 1 ∨ ∀ file ∈ new, ¬ file.IsSought title parent) := by
  obtain ⟨quotable, folder, rest, first, rfl, sized, few⟩ := lookup_eq_found.mp found
  rw [lookup_eq_found, folders_grown, first, and_iff_right quotable]
  constructor
  · rintro ⟨_, _, cons, same, _, few'⟩
    obtain ⟨rfl, rfl⟩ := List.cons.inj cons
    refine ⟨same, few'.imp_right fun empty => ?_⟩
    have none_there := List.filter_eq_nil_iff.mp (List.append_eq_nil_iff.mp empty).2
    simpa using none_there
  · rintro ⟨same, few'⟩
    refine ⟨folder, _, rfl, same, sized, ?_⟩
    obtain narrow | rfl := few
    · exact .inl narrow
    · exact few'.imp_right fun unsought => List.filter_eq_nil_iff.mpr (by simpa using unsought)

end

/-- New folders do not leave fewer to choose from. -/
theorem lookup_grown_of_stuck {drive : Drive} {title : String} {parent : Option String}
    (stuck : (drive.lookup title parent).Stuck) (new : List StoredFile) (id : String) :
    (drive.grown new).lookup title parent ≠ .found id := by
  intro found
  obtain ⟨quotable, folder, rest, folders, _, sized, few⟩ := lookup_eq_found.mp found
  rw [folders_grown] at folders
  have read : drive.lookup title parent =
      .ofPage (drive.firstPage (drive.folders title parent)) := if_pos quotable
  rw [read, Lookup.stuck_ofPage, firstPage_eq] at stuck
  have fewer : (drive.folders title parent).length ≤ 1 + rest.length := by
    have := congrArg List.length folders
    simp only [List.length_append, List.length_cons] at this
    omega
  obtain narrow | rfl := few
  · have narrow : drive.pageSize = some 1 := narrow
    rw [narrow, List.length_take] at stuck
    omega
  · split at stuck
    · exact absurd stuck (by simpa using fewer)
    · rw [List.length_take] at stuck
      simp only [List.length_nil] at fewer
      omega

/-- The titles that a trail looks for, each with the folder that it looks in. -/
def route (drive : Drive) (parent : Option String) : List String → List (String × Option String)
  | [] => []
  | title :: rest => (title, parent) :: match drive.lookup title parent with
    | .found id => drive.route (some id) rest
    | _ => []

/-- None of the files is looked for on the way along the titles. -/
def OffRoute (drive : Drive) (parent : Option String) (titles : List String)
    (new : List StoredFile) : Prop :=
  ∀ step ∈ drive.route parent titles, ∀ file ∈ new, ¬ file.IsSought step.1 step.2

section
variable {drive : Drive} {new : List StoredFile} {parent : Option String} {titles : List String}
  {id : String}

/-- A trail still leads to its folder if none of the new ones is looked for on the way. -/
theorem trail_grown_iff (found : drive.trail parent titles = .found id) :
    (∃ other, (drive.grown new).trail parent titles = .found other) ↔
      drive.pageSize = some 1 ∨ drive.OffRoute parent titles new := by
  induction titles generalizing parent with
  | nil =>
    cases parent with
    | none => cases found
    | some start => exact iff_of_true ⟨start, rfl⟩ (.inr nofun)
  | cons title rest ih =>
    obtain ⟨middle, first, later⟩ := trail_cons_eq_found.mp found
    have route : drive.route parent (title :: rest) =
        (title, parent) :: drive.route (some middle) rest := by rw [Drive.route, first]
    have ahead : drive.OffRoute parent (title :: rest) new ↔
        (∀ file ∈ new, ¬ file.IsSought title parent) ∧ drive.OffRoute (some middle) rest new := by
      rw [OffRoute, route, List.forall_mem_cons]
      rfl
    have ih := ih later
    constructor
    · rintro ⟨other, leads⟩
      obtain ⟨_, onward, leads⟩ := trail_cons_eq_found.mp leads
      obtain ⟨rfl, beside⟩ := (lookup_grown_eq_found first).mp onward
      rw [ahead]
      have := ih.mp ⟨other, leads⟩
      tauto
    · intro off
      rw [ahead] at off
      have onward := (lookup_grown_eq_found first).mpr ⟨rfl, off.imp_right And.left⟩
      obtain ⟨other, leads⟩ := ih.mpr (off.imp_right And.right)
      exact ⟨other, trail_cons_eq_found.mpr ⟨middle, onward, leads⟩⟩

/-- A trail that was stuck leads nowhere with the new folders either. -/
theorem trail_grown_of_stuck (stuck : (drive.trail parent titles).Stuck) :
    (drive.grown new).trail parent titles ≠ .found id := by
  induction titles generalizing parent with
  | nil => cases parent <;> simp [Lookup.Stuck] at stuck
  | cons title rest ih =>
    rw [trail_cons] at stuck
    intro found
    obtain ⟨middle, onward, later⟩ := trail_cons_eq_found.mp found
    cases first : drive.lookup title parent with
    | found start =>
      rw [first] at stuck
      obtain ⟨rfl, _⟩ := (lookup_grown_eq_found first).mp onward
      exact ih stuck later
    | missing => simp [first, Lookup.Stuck] at stuck
    | several => exact lookup_grown_of_stuck (.inl first) new middle onward
    | refused => exact lookup_grown_of_stuck (.inr first) new middle onward

/-- New folders do not matter below an old one if they do not lie inside old folders. -/
theorem trail_grown_of_old
    (apart : ∀ file ∈ new, ∀ old ∈ drive.files, old.id ∉ file.parents) {start : StoredFile}
    (held : start ∈ drive.files) (titles : List String) :
    (drive.grown new).trail (some start.id) titles = drive.trail (some start.id) titles := by
  induction titles generalizing start with
  | nil => rfl
  | cons title rest ih =>
    have same : (drive.grown new).lookup title (some start.id) =
        drive.lookup title (some start.id) :=
      lookup_grown fun file member sought =>
        apart file member start held ((StoredFile.isSought_iff.mp sought).2.2.2 _ rfl)
    rw [trail_cons, trail_cons, same]
    cases found : drive.lookup title (some start.id) with
    | found id =>
      obtain ⟨folder, member, rfl⟩ := exists_of_lookup found
      exact ih (mem_folders.mp member).1
    | missing | several | refused => rfl

/-- The first folder of a chain is the only one of its title inside the folder before it. -/
theorem lookup_chain {before after : List StoredFile} {created : Nat} {title : String}
    {rest : List String} (quotable : Query.Quotable title) (paged : drive.pageSize ≠ some 0)
    (files : drive.files =
      before ++ chain created (some (issuedId created)) (title :: rest) ++ after)
    (apart : ∀ file ∈ before ++ after, issuedId created ∉ file.parents) :
    drive.lookup title (some (issuedId created)) = .found (issuedId (created + 1)) := by
  let folder := newFolder (issuedId (created + 1)) title (some (issuedId created))
  refine lookup_eq_found.mpr ⟨?_, folder, [], ?_, rfl, paged, .inr rfl⟩
  · exact quotable_ofFolders.mpr ⟨quotable, fun _ same =>
      Option.some.inj same ▸ quotable_issuedId created⟩
  have files : drive.files = before ++ folder ::
      (chain (created + 1) (some (issuedId (created + 1))) rest ++ after) := by
    rw [files, chain, List.append_assoc, List.cons_append]
  refine folders_eq_singleton files (isSought_newFolder.mpr ⟨rfl, fun _ same => same⟩) ?_
  intro other member sought
  have inside := (StoredFile.isSought_iff.mp sought).2.2.2 _ rfl
  rw [← List.append_assoc, List.mem_append, List.mem_append, or_right_comm,
    ← List.mem_append] at member
  obtain old | new := member
  · exact apart other old inside
  · obtain ⟨n, least, _, parents⟩ := parents_of_mem_chain new
    rw [parents, List.mem_singleton] at inside
    have := issuedId_injective inside
    omega

/-- A chain leads to its last folder, whatever lies elsewhere. -/
theorem trail_chain {before after : List StoredFile} {created : Nat}
    (files : drive.files = before ++ chain created (some (issuedId created)) titles ++ after)
    (quotable : ∀ title ∈ titles, Query.Quotable title) (paged : drive.pageSize ≠ some 0)
    (apart : ∀ file ∈ before ++ after, ∀ n, created ≤ n → n < created + titles.length →
      issuedId n ∉ file.parents) :
    drive.trail (some (issuedId created)) titles = .found (issuedId (created + titles.length)) := by
  induction titles generalizing created before with
  | nil => rfl
  | cons title rest ih =>
    let folder := newFolder (issuedId (created + 1)) title (some (issuedId created))
    rw [List.length_cons] at apart ⊢
    have first : drive.lookup title (some (issuedId created)) = .found (issuedId (created + 1)) :=
      lookup_chain (quotable title List.mem_cons_self) paged files fun file member =>
        apart file member created (Nat.le_refl _) (by omega)
    refine trail_cons_eq_found.mpr ⟨_, first, ?_⟩
    rw [Nat.add_comm rest.length, ← Nat.add_assoc]
    have files : drive.files = (before ++ [folder]) ++
        chain (created + 1) (some (issuedId (created + 1))) rest ++ after := by
      rw [files, chain, List.append_assoc, List.append_assoc, List.append_assoc,
        List.singleton_append, List.cons_append]
    refine ih files (fun name member => quotable name (List.mem_cons_of_mem _ member)) ?_
    intro file member n least most
    rw [List.append_assoc, List.mem_append, List.singleton_append, List.mem_cons] at member
    obtain old | rfl | later := member
    · exact apart file (List.mem_append_left _ old) n (by omega) (by omega)
    · intro inside
      have := issuedId_injective (List.mem_singleton.mp inside)
      omega
    · exact apart file (List.mem_append_right _ later) n (by omega) (by omega)

end

end Drive

end DriveDepot
