import Mathlib.Data.List.Basic
import DriveDepot.Query

/-!
Reading back what was written as a search expression. A value that ends in a backslash escapes its
own closing quote, so that the drive refuses the expression; all others are read as they were
given, whatever quotes and backslashes they hold.
-/

namespace DriveDepot.Query

/-- Whether the closing quote after a value is one. -/
def Quotable (value : String) : Prop := value.toList.getLast? ≠ some '\\'

instance (value : String) : Decidable (Quotable value) := inferInstanceAs (Decidable (_ ≠ _))

/-- The literal of a value. -/
abbrev escaped (value : List Char) : List Char := value.flatMap escape

theorem head?_escaped_append {value tail : List Char}
    (h : (escaped value ++ tail).head? = some '\x27') : value = [] := by
  cases value with
  | nil => rfl
  | cons c rest =>
    by_cases quote : c = '\x27'
    · simp [escaped, escape, quote] at h
    · simp [escaped, escape, quote] at h

theorem literalBody_cons {c : Char} {rest : List Char} (plain : c ≠ '\x27')
    (unescaping : c = '\\' → rest.head? ≠ some '\x27') :
    literalBody (c :: rest) = (literalBody rest).map fun (text, after) => (c :: text, after) := by
  rw [literalBody.eq_def]
  split
  · contradiction
  · rename_i heq
    obtain ⟨rfl, rfl⟩ := List.cons.inj heq
    simp at unescaping
  · rename_i heq
    exact absurd (List.cons.inj heq).1 plain
  · rename_i heq
    obtain ⟨rfl, rfl⟩ := List.cons.inj heq
    rfl

/-- A backslash at the end of a value matters only if a quote follows it. -/
theorem literalBody_escaped_append (value tail : List Char)
    (apart : tail.head? = some '\x27' → value.getLast? ≠ some '\\') :
    literalBody (escaped value ++ tail) =
      (literalBody tail).map fun (text, after) => (value ++ text, after) := by
  induction value with
  | nil => cases h : literalBody tail <;> simp [escaped, h]
  | cons c rest ih =>
    have ih := ih fun h => by
      have := apart h
      cases rest <;> simp_all
    by_cases quote : c = '\x27'
    · subst quote
      show literalBody ('\\' :: '\x27' :: (escaped rest ++ tail)) = _
      rw [literalBody, ih]
      cases literalBody tail <;> rfl
    · have first : escaped (c :: rest) ++ tail = c :: (escaped rest ++ tail) := by
        simp [escaped, escape, quote]
      rw [first, literalBody_cons quote, ih]
      · cases literalBody tail <;> rfl
      · rintro rfl next
        obtain rfl := head?_escaped_append next
        exact apart next rfl

theorem literalBody_quotable {value : String} (quotable : Quotable value) (rest : List Char) :
    literalBody (escaped value.toList ++ '\x27' :: rest) = some (value.toList, rest) := by
  rw [literalBody_escaped_append _ _ fun _ => quotable]
  simp [literalBody]

/-- The quote after a backslash at the end of a value is read as a part of the value. -/
theorem literalBody_unquotable {value : String} (unquotable : ¬ Quotable value)
    (rest : List Char) :
    ∃ start, literalBody (escaped value.toList ++ '\x27' :: rest) =
      (literalBody rest).map fun (text, after) => (start ++ '\x27' :: text, after) := by
  obtain ⟨start, ends⟩ := List.getLast?_eq_some_iff.mp (Classical.not_not.mp unquotable)
  refine ⟨start, ?_⟩
  have split : escaped value.toList ++ '\x27' :: rest =
      escaped start ++ '\\' :: '\x27' :: rest := by
    simp [ends, escaped, escape]
  rw [split, literalBody_escaped_append _ _ (by simp), literalBody]
  cases literalBody rest <;> rfl

theorem literal_quote (value : String) (rest : List Char) :
    literal ((quote value).toList ++ rest) =
      (literalBody (escaped value.toList ++ '\x27' :: rest)).map
        fun (text, after) => (String.ofList text, after) := by
  simp [quote, literal]

theorem literal_quotable {value : String} (quotable : Quotable value) (rest : List Char) :
    literal ((quote value).toList ++ rest) = some (value, rest) := by
  rw [literal_quote, literalBody_quotable quotable]
  simp

theorem after_append (w : String) (rest : List Char) : after w (w.toList ++ rest) = some rest := by
  simp [after]

end DriveDepot.Query

namespace DriveDepot

/-- Whether the value of a clause, if it has one, can be quoted. -/
def Clause.Quotable : Clause → Prop
  | .notTrashed => True
  | .titleIs value | .mimeTypeIs value | .inParents value => Query.Quotable value

instance : (c : Clause) → Decidable c.Quotable
  | .notTrashed => inferInstanceAs (Decidable True)
  | .titleIs value | .mimeTypeIs value | .inParents value =>
    inferInstanceAs (Decidable (Query.Quotable value))

namespace Query

theorem clause_titleIs (title : String) (rest : List Char) :
    clause ((titleIs title).toList ++ rest) =
      (literal ((quote title).toList ++ rest)).map fun (title, rest) => (.titleIs title, rest) := by
  have split : (titleIs title).toList ++ rest =
      "title=".toList ++ ((quote title).toList ++ rest) := by simp [titleIs]
  have other : after notTrashed ("title=".toList ++ ((quote title).toList ++ rest)) = none := rfl
  rw [split, clause, other]
  simp only [after_append]

theorem clause_mimeTypeIs (mimeType : String) (rest : List Char) :
    clause ((mimeTypeIs mimeType).toList ++ rest) =
      (literal ((quote mimeType).toList ++ rest)).map
        fun (mimeType, rest) => (.mimeTypeIs mimeType, rest) := by
  have split : (mimeTypeIs mimeType).toList ++ rest =
      "mimeType=".toList ++ ((quote mimeType).toList ++ rest) := by simp [mimeTypeIs]
  have other : after notTrashed ("mimeType=".toList ++ ((quote mimeType).toList ++ rest)) = none :=
    rfl
  have another : after "title=" ("mimeType=".toList ++ ((quote mimeType).toList ++ rest)) = none :=
    rfl
  rw [split, clause, other]
  simp only [another, after_append]

theorem clause_inParents (folder : String) (rest : List Char) :
    clause ((inParents folder).toList ++ rest) =
      (literal ((quote folder).toList ++ (" in parents".toList ++ rest))).bind
        fun (folder, rest) =>
          (after " in parents" rest).map fun rest => (.inParents folder, rest) := by
  have split : (inParents folder).toList ++ rest =
      (quote folder).toList ++ (" in parents".toList ++ rest) := by simp [inParents]
  have begins : ∃ tail, (quote folder).toList ++ (" in parents".toList ++ rest) = '\x27' :: tail :=
    ⟨_, by simp only [quote, String.toList_ofList, List.cons_append]; rfl⟩
  obtain ⟨tail, begins⟩ := begins
  have one : after notTrashed ('\x27' :: tail) = none := rfl
  have two : after "title=" ('\x27' :: tail) = none := rfl
  have three : after "mimeType=" ('\x27' :: tail) = none := rfl
  rw [split, begins, clause, one]
  simp only [two, three]
  cases literal ('\x27' :: tail) with
  | none => rfl
  | some found =>
    simp only [Option.bind_eq_bind, Option.bind_some]
    cases after " in parents" found.2 <;> rfl

theorem clause_text {c : Clause} (quotable : c.Quotable) (rest : List Char) :
    clause (c.text.toList ++ rest) = some (c, rest) := by
  cases c with
  | notTrashed =>
    rw [Clause.text, clause, after_append]
  | titleIs title =>
    rw [Clause.text, clause_titleIs, literal_quotable quotable]
    rfl
  | mimeTypeIs mimeType =>
    rw [Clause.text, clause_mimeTypeIs, literal_quotable quotable]
    rfl
  | inParents folder =>
    rw [Clause.text, clause_inParents, literal_quotable quotable]
    simp only [Option.bind_some, after_append, Option.map_some]

theorem text_ne_empty (c : Clause) : c.text ≠ "" := by
  intro h
  have h := congrArg String.toList h
  cases c <;>
    simp [Clause.text, notTrashed, titleIs, mimeTypeIs, inParents, quote] at h

theorem text_eq_intercalate (cs : List Clause) :
    text cs = " and ".intercalate (cs.map Clause.text) := by
  have all : (cs.map Clause.text).filter (· ≠ "") = cs.map Clause.text := by
    apply List.filter_eq_self.mpr
    intro t ht
    obtain ⟨c, _, rfl⟩ := List.mem_map.mp ht
    simp [text_ne_empty]
  rw [text, joined, all]

theorem text_singleton (c : Clause) : text [c] = c.text := by
  simp [text_eq_intercalate]

theorem toList_text_cons_cons (c d : Clause) (rest : List Clause) :
    (text (c :: d :: rest)).toList =
      c.text.toList ++ (" and ".toList ++ (text (d :: rest)).toList) := by
  simp only [text_eq_intercalate, List.map_cons, String.intercalate_cons_cons, String.toList_append,
    List.append_assoc]

/-- Clauses whose values can be quoted are read as they were written. -/
theorem clauses_text {cs : List Clause} (some_clause : cs ≠ []) (quotable : ∀ c ∈ cs, c.Quotable)
    {bound : Nat} (enough : cs.length ≤ bound) : clauses bound (text cs).toList = some cs := by
  induction cs generalizing bound with
  | nil => contradiction
  | cons c rest ih =>
    obtain ⟨bound, rfl⟩ : ∃ b, bound = b + 1 := ⟨bound - 1, by simp at enough; omega⟩
    have first := clause_text (quotable c (by simp))
    cases rest with
    | nil =>
      have read := first []
      rw [List.append_nil] at read
      simp [clauses, text_singleton, read]
    | cons d rest =>
      have others : clauses bound (text (d :: rest)).toList = some (d :: rest) :=
        ih (by simp) (fun x hx => quotable x (List.mem_cons_of_mem _ hx)) (by simpa using enough)
      rw [toList_text_cons_cons, clauses, first]
      simp only [Option.bind_eq_bind, Option.bind_some, after_append, others]
      rfl

/-- A word without quotes and backslashes ends before the quote that follows a literal. -/
theorem eq_escaped_of_append_eq {w value rest tail : List Char}
    (plain : ∀ c ∈ w, c ≠ '\x27' ∧ c ≠ '\\')
    (h : w ++ rest = escaped value ++ '\x27' :: tail) :
    ∃ left, rest = escaped left ++ '\x27' :: tail := by
  induction w generalizing value with
  | nil => exact ⟨value, h⟩
  | cons c w ih =>
    have first := plain c (by simp)
    cases value with
    | nil => simp [escaped, first.1] at h
    | cons d value =>
      by_cases quote : d = '\x27'
      · simp [escaped, escape, quote, first.2] at h
      · simp only [escaped, List.flatMap_cons, escape, quote, ↓reduceIte, List.cons_append,
          List.cons.injEq] at h
        exact ih (fun x hx => plain x (List.mem_cons_of_mem _ hx)) h.2

theorem after_escaped {w : String} (plain : ∀ c ∈ w.toList, c ≠ '\x27' ∧ c ≠ '\\')
    {value tail rest : List Char} (h : after w (escaped value ++ '\x27' :: tail) = some rest) :
    ∃ left, rest = escaped left ++ '\x27' :: tail := by
  rw [after, List.isPrefixOf?_eq_some_iff_append_eq] at h
  exact eq_escaped_of_append_eq plain h

theorem literal_escaped {value tail : List Char} (open_end : literalBody tail = none) :
    literal (escaped value ++ '\x27' :: tail) = none := by
  cases value with
  | nil => simp [escaped, literal, open_end]
  | cons c rest =>
    by_cases quote : c = '\x27'
    · simp [escaped, escape, quote, literal]
    · simp only [escaped, List.flatMap_cons, escape, quote, ↓reduceIte, List.cons_append]
      rw [literal.eq_def]
      split
      · rename_i heq
        exact absurd (List.cons.inj heq).1 quote
      · rfl

/-- In a text with a single quote that is none of a value, no literal begins. -/
theorem clause_escaped {value tail : List Char} (open_end : literalBody tail = none)
    {c : Clause} {rest : List Char}
    (h : clause (escaped value ++ '\x27' :: tail) = some (c, rest)) :
    ∃ left, rest = escaped left ++ '\x27' :: tail := by
  rw [clause] at h
  split at h
  · rename_i read
    obtain ⟨rfl, rfl⟩ := Option.some.inj h
    exact after_escaped (by simp [notTrashed]) read
  · split at h
    · rename_i read
      obtain ⟨left, rfl⟩ := after_escaped (by simp) read
      simp [literal_escaped open_end] at h
    · split at h
      · rename_i read
        obtain ⟨left, rfl⟩ := after_escaped (by simp) read
        simp [literal_escaped open_end] at h
      · simp [literal_escaped open_end] at h

theorem clauses_escaped {tail : List Char} (open_end : literalBody tail = none)
    (bound : Nat) (value : List Char) :
    clauses bound (escaped value ++ '\x27' :: tail) = none := by
  induction bound generalizing value with
  | zero => rfl
  | succ bound ih =>
    rw [clauses]
    cases read : clause (escaped value ++ '\x27' :: tail) with
    | none => rfl
    | some found =>
      obtain ⟨left, ends⟩ := clause_escaped open_end read
      simp only [Option.bind_eq_bind, Option.bind_some, ends]
      cases next : after " and " (escaped left ++ '\x27' :: tail) with
      | none => simp
      | some rest =>
        obtain ⟨left, rfl⟩ := after_escaped (by simp) next
        simp [ih left]

theorem clauses_cons_eq_none {c d : Clause} {rest : List Clause} (quotable : c.Quotable)
    (refused : ∀ bound, clauses bound (text (d :: rest)).toList = none) (bound : Nat) :
    clauses bound (text (c :: d :: rest)).toList = none := by
  cases bound with
  | zero => rfl
  | succ bound =>
    rw [toList_text_cons_cons, clauses, clause_text quotable]
    simp only [Option.bind_eq_bind, Option.bind_some, after_append, refused]
    rfl

theorem clauses_inParents_eq_none {folder : String} (unquotable : ¬ Quotable folder)
    (bound : Nat) : clauses bound (text [.inParents folder]).toList = none := by
  cases bound with
  | zero => rfl
  | succ bound =>
    obtain ⟨start, read⟩ := literalBody_unquotable unquotable (" in parents".toList ++ [])
    have open_end : literalBody (" in parents".toList ++ []) = none := rfl
    have refused := clause_inParents folder []
    rw [List.append_nil, literal_quote, read, open_end] at refused
    rw [text_singleton, clauses, Clause.text, refused]
    rfl

theorem clauses_titleIs_eq_none {title : String} (unquotable : ¬ Quotable title)
    (folder : Option String) (bound : Nat) :
    clauses bound (text (.titleIs title :: (folder.map Clause.inParents).toList)).toList =
      none := by
  cases bound with
  | zero => rfl
  | succ bound =>
    cases folder with
    | none =>
      obtain ⟨start, read⟩ := literalBody_unquotable unquotable []
      have refused := clause_titleIs title []
      rw [List.append_nil, literal_quote, read, literalBody] at refused
      simp only [Option.map_none, Option.toList_none, text_singleton, clauses, Clause.text, refused]
      rfl
    | some folder =>
      -- The title goes on to the opening quote of the folder, whose closing quote stays alone.
      have split : (text [.titleIs title, .inParents folder]).toList =
          (titleIs title).toList ++ (" and ".toList ++ (inParents folder).toList) := by
        rw [toList_text_cons_cons, text_singleton, Clause.text, Clause.text]
      have folderText : (inParents folder).toList =
          '\x27' :: (escaped folder.toList ++ '\x27' :: " in parents".toList) := by
        simp [inParents, quote]
      obtain ⟨start, read⟩ :=
        literalBody_unquotable unquotable (" and ".toList ++ (inParents folder).toList)
      have swallowed : literalBody (" and ".toList ++ (inParents folder).toList) =
          some (" and ".toList, escaped folder.toList ++ '\x27' :: " in parents".toList) := by
        rw [folderText]
        rfl
      have open_end : literalBody " in parents".toList = none := rfl
      rw [Option.map_some, Option.toList_some, split, clauses, clause_titleIs, literal_quote, read,
        swallowed]
      simp only [Option.map_some, Option.bind_eq_bind, Option.bind_some]
      cases next : after " and " (escaped folder.toList ++ '\x27' :: " in parents".toList) with
      | none => simp
      | some rest =>
        obtain ⟨left, rfl⟩ := after_escaped (by simp) next
        simp [-String.reduceToList, clauses_escaped open_end]

theorem ofText?_text {cs : List Clause} (some_clause : cs ≠ [])
    (quotable : ∀ c ∈ cs, c.Quotable) : ofText? (text cs) = some cs := by
  have long : ∀ cs : List Clause, cs ≠ [] → cs.length ≤ (text cs).toList.length := by
    intro cs some_clause
    induction cs with
    | nil => contradiction
    | cons c rest ih =>
      have one : c.text.toList.length ≠ 0 := by simp [text_ne_empty]
      cases rest with
      | nil => simp only [text_singleton, List.length_singleton]; omega
      | cons d rest =>
        have := ih (by simp)
        simp only [toList_text_cons_cons, List.length_append, List.length_cons] at this ⊢
        omega
  rw [ofText?, ← String.length_toList]
  exact clauses_text some_clause quotable (long cs some_clause)

/-- The expression for files is read as it was meant if both values can be quoted, and is refused
otherwise. -/
theorem ofText?_ofFiles (folder name : Option String) :
    ofText? (text (ofFiles folder name)) =
      if ∀ c ∈ ofFiles folder name, c.Quotable then some (ofFiles folder name) else none := by
  split
  · rename_i quotable
    exact ofText?_text (by simp [ofFiles]) quotable
  · rename_i some_unquotable
    cases name with
    | some name =>
      by_cases title : Quotable name
      · cases folder with
        | none => simp [ofFiles, Clause.Quotable, title] at some_unquotable
        | some folder =>
          have unquotable : ¬ Quotable folder := by
            simpa [ofFiles, Clause.Quotable, title] using some_unquotable
          refine clauses_cons_eq_none (c := .notTrashed) trivial ?_ _
          exact clauses_cons_eq_none (c := .titleIs name) title
            (clauses_inParents_eq_none unquotable)
      · exact clauses_cons_eq_none (c := .notTrashed) trivial
          (clauses_titleIs_eq_none title folder) _
    | none =>
      cases folder with
      | none => simp [ofFiles, Clause.Quotable] at some_unquotable
      | some folder =>
        have unquotable : ¬ Quotable folder := by
          simpa [ofFiles, Clause.Quotable] using some_unquotable
        exact clauses_cons_eq_none (c := .notTrashed) trivial
          (clauses_inParents_eq_none unquotable) _

/-- The expression for folders is read as it was meant if all values can be quoted, and is refused
otherwise. -/
theorem ofText?_ofFolders (title : String) (parent : Option String) :
    ofText? (text (ofFolders title parent)) =
      if ∀ c ∈ ofFolders title parent, c.Quotable then some (ofFolders title parent) else none := by
  have folderType : Clause.Quotable (.mimeTypeIs folderMimeType) :=
    (by decide : Quotable folderMimeType)
  split
  · rename_i quotable
    exact ofText?_text (by simp [ofFolders]) quotable
  · rename_i some_unquotable
    refine clauses_cons_eq_none (c := .notTrashed) trivial ?_ _
    refine clauses_cons_eq_none (c := .mimeTypeIs folderMimeType) folderType ?_
    by_cases quotable : Quotable title
    · cases parent with
      | none => exact absurd (by simp_all [ofFolders, Clause.Quotable]) some_unquotable
      | some folder =>
        have unquotable : ¬ Quotable folder :=
          fun h => some_unquotable (by simp_all [ofFolders, Clause.Quotable])
        exact clauses_cons_eq_none (c := .titleIs title) quotable
          (clauses_inParents_eq_none unquotable)
    · exact clauses_titleIs_eq_none quotable parent

end Query

end DriveDepot
