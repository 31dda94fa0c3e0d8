import DriveDepot.FolderPath

namespace DriveDepot.FolderPath

/-- The pieces of a path between the slashes that no backslash stands before. `earlier` is the
character before the path. -/
def piecesAfter (earlier : Char) (path : List Char) : List (List Char) :=
  ((path.zip (earlier :: path)).splitOnP fun (c, earlier) => c = '/' && earlier ≠ '\\').map
    (·.map Prod.fst)

/-- No backslash stands before the first character of a path. -/
def pieces (path : List Char) : List (List Char) := piecesAfter '/' path

/-- A piece with a slash in the place of each backslash and slash. -/
def unescape : List Char → List Char
  | '\\' :: '/' :: rest => '/' :: unescape rest
  | c :: rest => c :: unescape rest
  | [] => []

theorem map_modifyHead {f : α → β} {g : α → α} {h : β → β} {list : List α}
    (commute : ∀ a ∈ list.head?, f (g a) = h (f a)) :
    (list.modifyHead g).map f = (list.map f).modifyHead h := by
  cases list with
  | nil => rfl
  | cons a rest => simp [commute a rfl]

theorem modifyHead_nil_append (list : List (List α)) : list.modifyHead ([].reverse ++ ·) = list :=
  congrFun List.modifyHead_id list

section
variable (earlier c : Char) (rest : List Char)

theorem piecesAfter_cons :
    piecesAfter earlier (c :: rest) =
      if c = '/' ∧ earlier ≠ '\\' then [] :: piecesAfter c rest
      else (piecesAfter c rest).modifyHead (c :: ·) := by
  simp only [piecesAfter, List.zip_cons_cons, List.splitOnP_cons_eq_if_modifyHead,
    Bool.and_eq_true, decide_eq_true_eq]
  split
  · rfl
  · exact map_modifyHead fun _ _ => rfl

theorem piecesAfter_separator (unescaped : earlier ≠ '\\') :
    piecesAfter earlier ('/' :: rest) = [] :: piecesAfter '/' rest := by
  rw [piecesAfter_cons, if_pos ⟨rfl, unescaped⟩]

theorem piecesAfter_other (other : c ≠ '/') :
    piecesAfter earlier (c :: rest) = (piecesAfter c rest).modifyHead (c :: ·) := by
  rw [piecesAfter_cons, if_neg fun h => other h.1]

theorem piecesAfter_escaped :
    piecesAfter earlier ('\\' :: '/' :: rest) =
      (piecesAfter '/' rest).modifyHead ('\\' :: '/' :: ·) := by
  rw [piecesAfter_other _ _ _ (by decide), piecesAfter_cons, if_neg (by simp),
    List.modifyHead_modifyHead]
  rfl

/-- The first piece begins with a slash only if the path does. -/
theorem head?_ne_of_mem_head?_piecesAfter (other : rest.head? ≠ some '/') :
    ∀ piece ∈ (piecesAfter earlier rest).head?, piece.head? ≠ some '/' := by
  cases rest with
  | nil => simp [piecesAfter]
  | cons c rest =>
    have other : c ≠ '/' := fun same => other (congrArg some same)
    rw [piecesAfter_other earlier c rest other, List.head?_modifyHead]
    simpa using fun _ _ => other

end

theorem unescape_cons {c : Char} {rest : List Char} (single : c = '\\' → rest.head? ≠ some '/') :
    unescape (c :: rest) = c :: unescape rest := by
  rw [unescape]
  rintro rest' rfl rfl
  exact single rfl rfl

/-- No escaped slash lies across the two parts of a path. -/
def Apart (front rest : List Char) : Prop := front.getLast? = some '\\' → rest.head? ≠ some '/'

theorem Apart.of_ne {front rest : List Char} (other : front.getLast? ≠ some '\\') :
    Apart front rest := fun last => absurd last other

theorem Apart.slash (rest : List Char) : Apart ['/'] rest := .of_ne (by decide)

theorem Apart.of_cons {c : Char} {front rest : List Char} (h : Apart (c :: front) rest) :
    Apart front rest := by
  intro last
  apply h
  rw [List.getLast?_cons, last]
  rfl

/-- Reading comes only to places that are apart from what was read before: from there on the pieces
are those of what is left, the first one continuing the segment that is begun. -/
theorem scan_eq_pieces (current : List Char) {earlier : Char} {path : List Char}
    (apart : Apart [earlier] path) :
    scan current path =
      (((piecesAfter earlier path).map unescape).modifyHead (current.reverse ++ ·)).filter
        (· ≠ []) := by
  fun_induction scan current path generalizing earlier with
  | case1 current => cases current <;> simp [close, piecesAfter, unescape]
  | case2 current rest ih =>
    have read : ∀ piece ∈ (piecesAfter '/' rest).head?,
        unescape ('\\' :: '/' :: piece) = '/' :: unescape piece := fun _ _ => rfl
    rw [ih (.slash _), piecesAfter_escaped, map_modifyHead (h := ('/' :: ·)) read,
      List.modifyHead_modifyHead]
    simp [Function.comp_def]
  | case3 current rest ih =>
    have unescaped : earlier ≠ '\\' := by
      rintro rfl
      exact apart rfl rfl
    rw [piecesAfter_separator _ _ unescaped, ih (.slash _), modifyHead_nil_append]
    cases current <;> simp [close, unescape]
  | case4 current c rest single other ih =>
    have single : Apart [c] rest := by
      intro backslash first
      obtain rfl : c = '\\' := Option.some.inj backslash
      obtain ⟨rest', rfl⟩ := List.head?_eq_some_iff.mp first
      exact single rest' rfl rfl
    have read : ∀ piece ∈ (piecesAfter c rest).head?,
        unescape (c :: piece) = c :: unescape piece := by
      intro piece first
      apply unescape_cons
      rintro rfl
      exact head?_ne_of_mem_head?_piecesAfter _ _ (single rfl) piece first
    rw [ih single, piecesAfter_other _ _ _ other, map_modifyHead (h := (c :: ·)) read,
      List.modifyHead_modifyHead]
    simp [Function.comp_def]

theorem scan_cons_append (current : List Char) {c : Char} {front rest : List Char} (other : c ≠ '/')
    (single : ∀ rest', c = '\\' → front = '/' :: rest' → False) (apart : Apart (c :: front) rest) :
    scan current (c :: front ++ rest) = scan (c :: current) (front ++ rest) := by
  rw [List.cons_append, scan]
  · rintro rest' rfl first
    cases front with
    | nil => exact apart rfl (congrArg List.head? first)
    | cons d front =>
      obtain ⟨rfl, _⟩ := List.cons.inj first
      exact single front rfl rfl
  · exact other

theorem close_append (current : List Char) (later more : List (List Char)) :
    close current (later ++ more) = close current later ++ more := by
  cases current <;> rfl

theorem scan_append_separator (current : List Char) {path rest : List Char}
    (apart : Apart path ('/' :: rest)) :
    scan current (path ++ '/' :: rest) = scan current path ++ scan [] rest := by
  fun_induction scan current path with
  | case1 current => rw [List.nil_append, scan, ← close_append, List.nil_append]
  | case2 current path ih =>
    rw [List.cons_append, List.cons_append, scan, ih apart.of_cons.of_cons]
  | case3 current path ih => rw [List.cons_append, scan, ih apart.of_cons, close_append]
  | case4 current c path single other ih =>
    rw [scan_cons_append current other single apart, ih apart.of_cons]

theorem flatten_close (current : List Char) (later : List (List Char)) :
    (close current later).flatten = current.reverse ++ later.flatten := by
  cases current <;> simp [close]

theorem flatten_scan (current path : List Char) :
    (scan current path).flatten = current.reverse ++ (scan [] path).flatten := by
  have some_piece : (piecesAfter '/' path).map unescape ≠ [] := by simp [piecesAfter]
  obtain ⟨piece, others, cut⟩ := List.exists_cons_of_ne_nil some_piece
  rw [scan_eq_pieces current (.slash path), scan_eq_pieces [] (.slash path),
    List.flatten_filter_ne_nil, List.flatten_filter_ne_nil, cut]
  simp

theorem flatten_scan_append (current : List Char) {front rest : List Char}
    (apart : Apart front rest) :
    (scan current (front ++ rest)).flatten =
      (scan current front).flatten ++ (scan [] rest).flatten := by
  fun_induction scan current front with
  | case1 current =>
    rw [List.nil_append, flatten_scan, flatten_close, List.flatten_nil, List.append_nil]
  | case2 current front ih =>
    rw [List.cons_append, List.cons_append, scan, ih apart.of_cons.of_cons]
  | case3 current front ih =>
    rw [List.cons_append, scan, flatten_close, flatten_close, ih apart.of_cons, List.append_assoc]
  | case4 current c front single other ih =>
    rw [scan_cons_append current other single apart, ih apart.of_cons]

/-- After a backslash a slash remains, which takes the place of the backslash. -/
theorem scan_append_escaped_ne {path : List Char} (last : path.getLast? = some '\\')
    (rest : List Char) : scan [] (path ++ '/' :: rest) ≠ scan [] path ++ scan [] rest := by
  obtain ⟨front, rfl⟩ := List.getLast?_eq_some_iff.mp last
  have apart (more : List Char) : Apart front ('\\' :: more) := fun _ first => by cases first
  intro same
  have remain := congrArg List.flatten same
  rw [List.append_assoc, List.singleton_append, List.flatten_append,
    flatten_scan_append [] (apart _), flatten_scan_append [] (apart _), List.append_assoc] at remain
  have after := List.append_cancel_left remain
  rw [scan, flatten_scan] at after
  simp [scan, close] at after

/-- The segments of a path are its pieces between the slashes that no backslash stands before, with
a slash for each backslash and slash, as far as they are not empty. So what follows a slash is split
on its own if and only if no backslash stands before that slash. -/
theorem segments_piecewise :
    (∀ path : String, segments path =
      (((pieces path.toList).map unescape).filter (· ≠ [])).map String.ofList) ∧
    ∀ path rest : String, segments (path ++ "/" ++ rest) = segments path ++ segments rest ↔
      path.toList.getLast? ≠ some '\\' := by
  constructor
  · intro path
    rw [segments, scan_eq_pieces [] (.slash _), modifyHead_nil_append, pieces]
  · intro path rest
    have joined : (path ++ "/" ++ rest).toList = path.toList ++ '/' :: rest.toList := by simp
    rw [segments, segments, segments, joined, ← List.map_append,
      List.map_inj_right fun _ _ => String.ofList_inj.mp]
    constructor
    · exact fun same last => scan_append_escaped_ne last _ same
    · exact fun other => scan_append_separator [] (.of_ne other)

/-- The second slash is part of a title, as the backslash before it is not itself escaped. -/
example : segments "a/b\\\\/c//d\\" = ["a", "b\\/c", "d\\"] := by decide +kernel

end DriveDepot.FolderPath
