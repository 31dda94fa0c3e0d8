import DriveDepot.Proofs.Along
import DriveDepot.Proofs.Browsing

namespace DriveDepot

open Operation

namespace Query

/-- The drive reads the expression as the clauses if all the values can be quoted, and refuses it
otherwise. -/
structure ReadsAs (query : String) (meant : List Clause) (values : List String) : Prop where
  read : ofText? query = some meant ↔ ∀ value ∈ values, Quotable value
  refused : ofText? query = none ↔ ∃ value ∈ values, ¬ Quotable value

theorem ReadsAs.of_ite {query : String} {meant : List Clause} {values : List String}
    (reading : ofText? query =
      if ∀ value ∈ values, Quotable value then some meant else none) :
    ReadsAs query meant values := by
  constructor
  · rw [reading]
    split <;> simp_all
  · rw [reading]
    split <;> simp_all

theorem forall_quotable_ofFiles {folder name : Option String} :
    (∀ c ∈ ofFiles folder name, c.Quotable) ↔
      ∀ value ∈ name.toList ++ folder.toList, Quotable value := by
  cases folder <;> cases name <;> simp [ofFiles, Clause.Quotable]

theorem forall_quotable_ofFolders {title : String} {parent : Option String} :
    (∀ c ∈ ofFolders title parent, c.Quotable) ↔
      ∀ value ∈ title :: parent.toList, Quotable value := by
  rw [Drive.quotable_ofFolders]
  cases parent <;> simp

theorem readsAs_ofFiles (folder name : Option String) :
    ReadsAs (text (ofFiles folder name))
      (.notTrashed :: (name.toList.map .titleIs ++ folder.toList.map .inParents))
      (name.toList ++ folder.toList) := by
  apply ReadsAs.of_ite
  have meant : ofFiles folder name =
      .notTrashed :: (name.toList.map .titleIs ++ folder.toList.map .inParents) := by
    cases folder <;> cases name <;> rfl
  simp only [← forall_quotable_ofFiles, ← meant]
  exact ofText?_ofFiles folder name

theorem readsAs_ofFolders (title : String) (parent : Option String) :
    ReadsAs (text (ofFolders title parent))
      (.notTrashed :: .mimeTypeIs folderMimeType :: .titleIs title ::
        parent.toList.map .inParents)
      (title :: parent.toList) := by
  apply ReadsAs.of_ite
  have meant : ofFolders title parent =
      .notTrashed :: .mimeTypeIs folderMimeType :: .titleIs title ::
        parent.toList.map .inParents := by
    cases parent <;> rfl
  simp only [← forall_quotable_ofFolders, ← meant]
  exact ofText?_ofFolders title parent

end Query

namespace Session

/-- Between the two sessions pages of the files of an expression were asked for, and nothing else. -/
def Queried (query : String) (s t : Session) : Prop :=
  ∃ tokens : List Json, t.calls = s.calls ++ tokens.map fun token => .drive (.listFiles query token)

instance (query : String) : IsPreorder Session (Queried query) where
  refl s := ⟨[], (List.append_nil s.calls).symm⟩
  trans := by
    rintro s t u ⟨tokens, first⟩ ⟨more, later⟩
    exact ⟨tokens ++ more, by rw [later, first, List.map_append, List.append_assoc]⟩

theorem Asked.queried {s t : Session} {query : String} {token : Json}
    (h : s.Asked (.listFiles query token) t) : s.Queried query t := ⟨[token], h.calls⟩

end Session

namespace Search

section
variable {R : Session → Session → Prop} [IsPreorder Session R] {query : String}

/-- What follows a page leads on if the pages after it do. -/
theorem collect_after_page {bound : Nat} {found : List FoundFile} {token : Json} {s : Session}
    {P : Session → Prop} (first : (page query found token).Ends s fun _ t => P t)
    (rest : ∀ found token, (collect query bound found token).Along R) :
    (collect query (bound + 1) found token).Ends s fun _ u => ∃ t, P t ∧ R t u := by
  refine first.bind ?_ fun _ t h => ⟨t, h, refl_of R t⟩
  rintro (_ | response) t h
  · exact ends_pure.mpr ⟨t, h, refl_of R t⟩
  · refine Ends.mono (P := fun _ u => R t u) ?_ fun _ u later => ⟨t, h, later⟩
    refine Along.bind (along_ofExcept _ _) (fun more => ?_) t
    exact (along_ofExcept _ _).bind fun next => (along_pure _).ite (rest _ _)

variable (logs : ∀ level message, (log level message).Along R)
variable (requests : ∀ token, (request (.listFiles query token)).Along R)
include logs requests

theorem along_page (found : List FoundFile) (token : Json) :
    (page query found token).Along R := by
  have listing : (some <$> request (.listFiles query token)).Along R := by
    rw [map_eq_pure_bind]
    exact (requests token).bind fun _ => along_pure _
  exact listing.handleIf fun _ => (logs _ _).bind fun _ => along_pure _

/-- Collecting pages leads along whatever its requests and its messages lead along. -/
theorem along_collect (bound : Nat) (found : List FoundFile) (token : Json) :
    (collect query bound found token).Along R := by
  induction bound generalizing found token with
  | zero => exact along_throw _
  | succ bound ih =>
    intro s
    apply (collect_after_page (along_page logs requests found token s) ih).mono
    rintro _ u ⟨t, first, later⟩
    exact trans_of R first later

end

theorem queried_collect (query : String) (bound : Nat) (found : List FoundFile) (token : Json) :
    (collect query bound found token).Along (Session.Queried query) := by
  apply along_collect
  · exact fun _ _ s => Ends.log fun _ => refl_of (Session.Queried query) s
  · exact fun _ s => (request_asks _ s).mono fun _ _ asked => asked.queried

theorem page_asks (query : String) (found : List FoundFile) (token : Json) (s : Session) :
    (page query found token).Ends s fun _ t =>
      t.calls = s.calls ++ [.drive (.listFiles query token)] := by
  refine (request_asks _ s).map.handleIf ?_ ?_ ?_
  · rintro _ t ⟨_, asked, _⟩
    exact asked.calls
  · rintro _ t _ ⟨_, asked, _⟩
    exact Ends.log_bind fun _ => ends_pure.mpr asked.calls
  · rintro _ t _ ⟨_, asked, _⟩
    exact asked.calls

theorem files_ask (folder name : Option String) (s : Session) :
    (files folder name).Ends s fun _ t => ∃ tokens : List Json,
      t.calls = s.calls ++ (.null :: tokens).map fun token =>
        .drive (.listFiles (Query.text (Query.ofFiles folder name)) token) := by
  obtain ⟨bound, some_page⟩ : ∃ bound, pageBound s = bound + 1 := ⟨_, rfl⟩
  rw [files, ends_get_bind, some_page]
  apply (collect_after_page (page_asks _ [] .null s) (queried_collect _ bound)).mono
  rintro _ u ⟨t, first, tokens, later⟩
  exact ⟨tokens, by rw [later, first, List.append_assoc, List.map_cons]; rfl⟩

end Search

theorem Folders.matching_asks (title : String) (parent : Option String) (s : Session) :
    (matching title (within parent)).Ends s fun _ t =>
      t.calls = s.calls ++
        [.drive (.listFolders (Query.text (Query.ofFolders title parent)))] := by
  rw [matching, optionalText_within, ofMishap, ofExcept_ok, pure_bind]
  refine (request_asks _ s).bind ?_ fun _ _ asked => asked.calls
  intro response t asked
  exact Ends.ofExcept_bind (fun _ _ => ends_pure.mpr asked.calls) fun _ _ => asked.calls

/-- Whatever a search sends is read as the filters that were meant, with the values that were given,
or refused; the values decide which. -/
theorem searches_read_as_meant (s : Session) :
    (∀ folder name : Option String, ∃ query,
      ((Search.files folder name).Ends s fun _ t => ∃ tokens : List Json,
        t.calls = s.calls ++ (.null :: tokens).map fun token =>
          .drive (.listFiles query token)) ∧
      Query.ReadsAs query
        (.notTrashed :: (name.toList.map .titleIs ++ folder.toList.map .inParents))
        (name.toList ++ folder.toList)) ∧
    ∀ (title : String) (parent : Option String), ∃ query,
      ((Folders.matching title (Folders.within parent)).Ends s fun _ t =>
        t.calls = s.calls ++ [.drive (.listFolders query)]) ∧
      Query.ReadsAs query
        (.notTrashed :: .mimeTypeIs Query.folderMimeType :: .titleIs title ::
          parent.toList.map .inParents)
        (title :: parent.toList) := by
  constructor
  · intro folder name
    exact ⟨_, Search.files_ask folder name s, Query.readsAs_ofFiles folder name⟩
  · intro title parent
    exact ⟨_, Folders.matching_asks title parent s, Query.readsAs_ofFolders title parent⟩

end DriveDepot
