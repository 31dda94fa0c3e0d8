import DriveDepot.Proofs.FolderPath
import DriveDepot.Proofs.Settings

/-!
The titles that a path can name: none is empty, and a backslash can end only the last one, as before
a slash it would escape it. Each such list of titles can be written as a path, also as the root path
of the settings, and is read back from it.
-/

namespace DriveDepot

namespace FolderPath

structure Nameable (titles : List String) : Prop where
  nonempty : ∀ title ∈ titles, title ≠ ""
  /-- No backslash stands before a slash between two titles. -/
  closed : ∀ title ∈ titles.dropLast, title.toList.getLast? ≠ some '\\'

theorem ne_nil_of_mem_scan {current path segment : List Char}
    (member : segment ∈ scan current path) : segment ≠ [] := by
  have kept {current : List Char} {later : List (List Char)}
      (member : segment ∈ close current later) (rest : segment ∈ later → segment ≠ []) :
      segment ≠ [] := by
    cases current with
    | nil => exact rest member
    | cons c current =>
      obtain rfl | later := List.mem_cons.mp member
      · simp
      · exact rest later
  fun_induction scan current path with
  | case1 current => exact kept member (by simp)
  | case2 current path ih => exact ih member
  | case3 current path ih => exact kept member ih
  | case4 current c path single other ih => exact ih member

/-- A segment that a slash has ended does not end in a backslash. -/
theorem getLast?_ne_of_mem_dropLast_scan {current path segment : List Char}
    (apart : Apart current.reverse path) (member : segment ∈ (scan current path).dropLast) :
    segment.getLast? ≠ some '\\' := by
  fun_induction scan current path with
  | case1 current => cases current <;> simp [close] at member
  | case2 current path ih => exact ih (.of_ne (by simp)) member
  | case3 current path ih =>
    have ih := ih (.of_ne (by simp))
    cases current with
    | nil => exact ih member
    | cons c current =>
      cases later : scan [] path with
      | nil => simp [close, later] at member
      | cons first others =>
        rw [later] at ih
        rw [close, later] at member
        obtain rfl | member := List.mem_cons.mp member
        · exact fun last => apart last rfl
        · exact ih member
  | case4 current c path single other ih =>
    refine ih (fun last first => ?_) member
    obtain rfl : c = '\\' := by simpa using last
    obtain ⟨rest, rfl⟩ := List.head?_eq_some_iff.mp first
    exact single rest rfl rfl

/-- An escaped title is read as what it was, whatever follows it. -/
theorem scan_escape_append (current : List Char) {title rest : List Char}
    (apart : Apart title rest) :
    scan current (escape title ++ rest) = scan (title.reverse ++ current) rest := by
  induction title generalizing current with
  | nil => rfl
  | cons c title ih =>
    have onward := ih (c :: current) apart.of_cons
    rw [List.reverse_cons, List.append_assoc, List.singleton_append, ← onward]
    by_cases slash : c = '/'
    · obtain rfl := slash
      rfl
    · have written : escape (c :: title) = c :: escape title := by simp [escape, slash]
      rw [written, List.cons_append, scan]
      · rintro rest' rfl first
        cases title with
        | nil => exact apart rfl (congrArg List.head? first)
        | cons d title => by_cases slash : d = '/' <;> simp [escape, slash] at first
      · exact slash

theorem Nameable.of_cons {title : String} {rest : List String} (h : Nameable (title :: rest)) :
    Nameable rest where
  nonempty other member := h.nonempty other (List.mem_cons_of_mem _ member)
  closed other member := by
    cases rest with
    | nil => cases member
    | cons next rest => exact h.closed other (List.mem_cons_of_mem _ member)

theorem close_reverse {title : List Char} (nonempty : title ≠ []) (later : List (List Char)) :
    close title.reverse later = title :: later := by
  simp [close, nonempty]

theorem scan_join {titles : List String} (nameable : Nameable titles) :
    scan [] (join titles).toList = titles.map String.toList := by
  rw [join, String.toList_ofList]
  induction titles with
  | nil => rfl
  | cons title rest ih =>
    have nonempty : title.toList ≠ [] := by simpa using nameable.nonempty title (by simp)
    cases rest with
    | nil =>
      have apart : Apart title.toList [] := fun _ first => by cases first
      have read := scan_escape_append [] apart
      rw [List.append_nil, List.append_nil] at read
      simp [read, scan, close_reverse nonempty]
    | cons next rest =>
      have closed := nameable.closed title (by simp)
      rw [List.map_cons, List.map_cons, List.intercalate_cons_cons, List.append_assoc,
        scan_escape_append [] (.of_ne closed), List.append_nil, List.singleton_append, scan,
        close_reverse nonempty]
      exact congrArg (title.toList :: ·) (ih nameable.of_cons)

theorem nameable_segments (path : String) : Nameable (segments path) := by
  constructor
  · intro title member
    obtain ⟨segment, inside, rfl⟩ := List.mem_map.mp member
    simpa using ne_nil_of_mem_scan inside
  · intro title member
    rw [segments, ← List.map_dropLast] at member
    obtain ⟨segment, inside, rfl⟩ := List.mem_map.mp member
    rw [String.toList_ofList]
    have apart : Apart ([] : List Char).reverse path.toList := .of_ne (by simp)
    exact getLast?_ne_of_mem_dropLast_scan apart inside

theorem segments_join {titles : List String} (nameable : Nameable titles) :
    segments (join titles) = titles := by
  rw [segments, scan_join nameable, List.map_map]
  simp

end FolderPath

namespace Settings

theorem isEmpty_trim_slash (path : String) : (Text.trim ("/" ++ path)).isEmpty = false := by
  have slash : '/' ∈ ("/" ++ path).toList := by simp
  refine Bool.eq_false_iff.mpr fun empty => absurd (isEmpty_trim_iff.mp empty _ slash) ?_
  decide

/-- A root path may begin with a slash, which does not matter, and is not blank then. -/
theorem exists_ofVariables_rootPath (package : LocalPath) (path : String) :
    ∃ environment settings, ofVariables package environment = .ok settings ∧
      settings.rootPath = "/" ++ path := by
  let environment : Environment :=
    [("GDRIVE_CLIENT_ID", "id"), ("GDRIVE_CLIENT_SECRET", "secret"),
     ("GDRIVE_ROOT_PATH", "/" ++ path)]
  have clientId : required environment "GDRIVE_CLIENT_ID" = .ok "id" :=
    required_eq_ok rfl (by decide)
  have clientSecret : required environment "GDRIVE_CLIENT_SECRET" = .ok "secret" :=
    required_eq_ok rfl (by decide)
  have rootPath : required environment "GDRIVE_ROOT_PATH" = .ok ("/" ++ path) :=
    required_eq_ok rfl (isEmpty_trim_slash path)
  refine ⟨environment, ?_⟩
  rw [ofVariables, clientId, clientSecret, rootPath]
  exact ⟨_, rfl, rfl⟩

end Settings

namespace FolderPath

theorem segments_slash_append (path : String) : segments ("/" ++ path) = segments path := by
  have slash : ("/" ++ path).toList = '/' :: path.toList := by simp
  rw [segments, slash]
  rfl

/-- What a path names is nameable, and nameable titles can be written as a path that names them. So
these are the titles of the root paths that there can be, and splitting a path that was split and
joined again gives the same titles. -/
theorem nameable_round_trip :
    (∀ path, Nameable (segments path)) ∧
    (∀ titles, Nameable titles → segments (join titles) = titles) ∧
    (∀ package titles, Nameable titles ↔ ∃ environment settings,
      Settings.ofVariables package environment = .ok settings ∧
        segments settings.rootPath = titles) ∧
    ∀ path, segments (join (segments path)) = segments path := by
  refine ⟨nameable_segments, fun _ => segments_join, fun package titles => ⟨fun nameable => ?_, ?_⟩,
    fun path => segments_join (nameable_segments path)⟩
  · obtain ⟨environment, settings, read, root⟩ :=
      Settings.exists_ofVariables_rootPath package (join titles)
    refine ⟨environment, settings, read, ?_⟩
    rw [root, segments_slash_append, segments_join nameable]
  · rintro ⟨_, settings, _, rfl⟩
    exact nameable_segments settings.rootPath

/-- Backslashes within titles and at the end of the last, and slashes within titles. -/
theorem nameable_round_trip_oddTitles :
    Nameable ["a/b", "\\\\/x", "c\\"] ∧ join ["a/b", "\\\\/x", "c\\"] = "a\\/b/\\\\\\/x/c\\" ∧
      segments "a\\/b/\\\\\\/x/c\\" = ["a/b", "\\\\/x", "c\\"] := by
  have nameable : Nameable ["a/b", "\\\\/x", "c\\"] := by constructor <;> decide
  have written : join ["a/b", "\\\\/x", "c\\"] = "a\\/b/\\\\\\/x/c\\" := by decide +kernel
  exact ⟨nameable, written, written ▸ nameable_round_trip.2.1 _ nameable⟩

end FolderPath

end DriveDepot
