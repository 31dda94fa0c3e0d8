import DriveDepot.Layout.File
import DriveDepot.Proofs.Disk
import DriveDepot.Proofs.Folder
import DriveDepot.Proofs.Json
import DriveDepot.Proofs.Text
import DriveDepot.Proofs.Tidy

namespace DriveDepot

namespace Disk

theorem setEntry_setEntry (place : Place) (first second : Node) (entries : List (Place × Node)) :
    setEntry place second (setEntry place first entries) = setEntry place second entries := by
  induction entries with
  | nil => simp only [setEntry, ↓reduceIte]
  | cons entry rest ih =>
    obtain ⟨p, n⟩ := entry
    by_cases here : p = place
    · rw [setEntry, if_pos here, setEntry, if_pos rfl, setEntry, if_pos here]
    · rw [setEntry, if_neg here, setEntry, if_neg here, ih, setEntry, if_neg here]

/-- What is written last at a place is there, and nothing is left of what was there before. -/
theorem set_set (disk : Disk) (place : Place) (first second : Node) :
    (disk.set place first).set place second = disk.set place second := by
  rw [set, set, set, setEntry_setEntry]

end Disk

namespace Layout

open Operation

/-- Each id is a text or is not known. -/
def Plain (layout : Layout) : Prop :=
  ∀ place, layout.idAt place = .null ∨ ∃ id, layout.idAt place = .string id

theorem plain_fresh (rootPath : String) : (fresh rootPath).Plain := by
  rintro (_ | slot)
  · exact .inl rfl
  · exact .inl (by cases slot <;> rfl)

theorem idOfJson_plain {id : Json} (plain : id = .null ∨ ∃ text, id = .string text) :
    idOfJson (some id) = .ok id := by
  obtain rfl | ⟨text, rfl⟩ := plain <;> rfl

variable {layout : Layout}

theorem Plain.fields (plain : layout.Plain) : ∀ field ∈ layout.fields, field.2.IsPlain := by
  have id (place : Option Slot) : (layout.idAt place).IsPlain := by
    obtain same | ⟨text, same⟩ := plain place <;> rw [same] <;> trivial
  simp only [Layout.fields, List.forall_mem_cons, List.not_mem_nil, false_implies, implies_true,
    and_true]
  exact ⟨trivial, id none, id (some .content), id (some .metadata), id (some .actions),
    id (some .transactions), id (some .temporary), trivial⟩

theorem Plain.ofFields (plain : layout.Plain) : ofFields layout.fields = .ok layout := by
  have id (place : Option Slot) := idOfJson_plain (plain place)
  have rootId : idOfJson (layout.fields.lookup "root_id") = .ok layout.rootId := id none
  have contentId : idOfJson (layout.fields.lookup "content_id") = .ok layout.contentId :=
    id (some .content)
  have metadataId : idOfJson (layout.fields.lookup "metadata_id") = .ok layout.metadataId :=
    id (some .metadata)
  have actionsId : idOfJson (layout.fields.lookup "actions_id") = .ok layout.actionsId :=
    id (some .actions)
  have transactionsId : idOfJson (layout.fields.lookup "transactions_id") =
    .ok layout.transactionsId := id (some .transactions)
  have temporaryId : idOfJson (layout.fields.lookup "temp_id") = .ok layout.temporaryId :=
    id (some .temporary)
  have rootPath : rootPathOfJson (layout.fields.lookup "root_path") = .ok layout.rootPath := rfl
  have complete : completeOfJson (layout.fields.lookup "setup_complete") = .ok layout.complete :=
    rfl
  simp only [Layout.ofFields, rootPath, rootId, contentId, metadataId, actionsId, transactionsId,
    temporaryId, complete]

/-- The bytes of its file hold the layout. -/
theorem Plain.ofBytes (plain : layout.Plain) :
    ofBytes (Text.Utf8.encode layout.text) = .ok layout := by
  have unified :
      Text.unifyNewlines layout.text.toList = Json.Writer.lines 0 (.object layout.fields) := by
    rw [text, String.toList_ofList]
    exact Text.unifyNewlines_of_not_mem (Json.Writer.return_not_mem_lines_object plain.fields 0)
  have read : Json.ofText (Text.unifyNewlines layout.text.toList) = .ok (.object layout.fields) := by
    rw [unified]
    have names : ((fresh "").fields.map Prod.fst).Nodup := by decide
    exact Json.ofText_lines plain.fields names
  rw [Layout.ofBytes, Text.Utf8.decode_encode]
  simp only [read, ofJson, plain.ofFields]
  rfl

theorem plain_of_ofFields {fields : List (String × Json)} {layout : Layout}
    (read : ofFields fields = .ok layout) : layout.Plain := by
  have plain {given : Option Json} {id : Json} (read : idOfJson given = .ok id) :
      id = .null ∨ ∃ text, id = .string text := by
    rw [idOfJson.eq_def] at read
    split at read
    · exact .inl (Except.ok.inj read).symm
    · exact .inl (Except.ok.inj read).symm
    · rename_i value _
      cases checked : value.checkedText with
      | error => rw [checked] at read; cases read
      | ok text =>
        rw [checked] at read
        exact .inr ⟨text, (Except.ok.inj read).symm⟩
  simp only [ofFields] at read
  split at read
  · rename_i _ rootId contentId metadataId actionsId transactionsId temporaryId _
    cases read
    rintro (_ | slot)
    · exact plain rootId
    · cases slot
      · exact plain contentId
      · exact plain metadataId
      · exact plain actionsId
      · exact plain transactionsId
      · exact plain temporaryId
  · cases read

theorem plain_of_ofBytes {content : Bytes} {layout : Layout}
    (read : ofBytes content = .ok layout) : layout.Plain := by
  rw [ofBytes] at read
  split at read
  · cases read
  · split at read
    · cases read
    · rename_i value _
      cases value with
      | object fields =>
        rw [ofJson] at read
        cases checked : ofFields fields with
        | error => rw [checked] at read; cases read
        | ok found =>
          rw [checked] at read
          cases read
          exact plain_of_ofFields checked
      | _ => cases read

section
variable {path : LocalPath} {place : Place} {s : Session}

theorem runOn_save (located : s.disk.locate path = .ok place)
    (other : s.disk.node? place ≠ some .directory) (clear : s.disk.Clear place) :
    runOn (layout.save path) s =
      (.ok (), { s with disk := s.disk.set place (.file (Text.Utf8.encode layout.text)) }) := by
  rw [save, disk]
  simp only [bind_assoc, runOn_bind, runOn_get, runOn_pure, clear.write located other]
  rfl

/-- There is no file at the path. -/
theorem runOn_load_of_absent (absent : s.disk.isFile path = .ok false) (rootPath : String) :
    runOn (load path rootPath) s = (.ok (fresh rootPath), s) := by
  rw [load, disk]
  simp only [bind_assoc, runOn_bind, runOn_get, runOn_pure, absent]
  rfl

/-- The file at the path holds a layout. -/
theorem runOn_load_of_held {content : Bytes} (held : s.disk.readAt path = .ok content)
    (holds : ofBytes content = .ok layout) (rootPath : String) :
    runOn (load path rootPath) s =
      if layout.rootPath = rootPath then (.ok layout, s)
      else runOn (do
        warn <| s!"Layout file {path} belongs to root path '{layout.rootPath}', " ++
          s!"not '{rootPath}'. Starting fresh."
        return fresh rootPath) s := by
  have there := (Disk.holds_of_readAt held).isFile
  have read : s.disk.read path = .ok content := by rw [Disk.read, held]; rfl
  rw [load, disk]
  simp only [bind_assoc, runOn_bind, runOn_get, runOn_pure, there, read, holds, ofDisk, ofMishap,
    ofExcept_ok, Bool.not_true, Bool.false_eq_true, ↓reduceIte]
  split <;> rfl

/-- A layout file for another root path is told of and left aside. -/
theorem ends_load_of_other {content : Bytes} (held : s.disk.readAt path = .ok content)
    (holds : ofBytes content = .ok layout) {rootPath : String}
    (other : layout.rootPath ≠ rootPath) :
    (load path rootPath).Ends s fun outcome t =>
      outcome = .ok (fresh rootPath) ∧ ∃ journal, t = { s with journal } := by
  rw [Ends, runOn_load_of_held held holds, if_neg other]
  refine Ends.log_bind (R := fun outcome t =>
    outcome = .ok (fresh rootPath) ∧ ∃ journal, t = { s with journal }) fun journal => ?_
  exact ends_pure.mpr ⟨rfl, journal, rfl⟩

/-- A layout that was saved is loaded for its own root path, and saving it once more leaves its file
as it is; for any other root path the layout begins fresh. -/
theorem save_then_load {layout : Layout} (plain : layout.Plain) {path : LocalPath} {place : Place}
    {s : Session} (located : s.disk.locate path = .ok place)
    (other : s.disk.node? place ≠ some .directory) (clear : s.disk.Clear place) :
    (layout.save path).Ends s fun outcome t =>
      outcome = .ok () ∧ t.disk.read path = .ok (Text.Utf8.encode layout.text) ∧
      runOn (load path layout.rootPath) t = (.ok layout, t) ∧
      runOn (load path layout.rootPath >>= fun loaded => loaded.save path) t = (.ok (), t) ∧
      ∀ rootPath, layout.rootPath ≠ rootPath →
        (load path rootPath).Ends t fun outcome u =>
          outcome = .ok (fresh rootPath) ∧ ∃ journal, u = { t with journal } := by
  rw [Ends, runOn_save located other clear]
  have still := Disk.locate_set located other (Text.Utf8.encode layout.text)
  have file := Disk.node?_set_self other (Text.Utf8.encode layout.text)
  have clear' : (s.disk.set place (.file (Text.Utf8.encode layout.text))).Clear place :=
    clear.of_barriers rfl
  have held := Disk.readAt_of_file still file (clear'.file rfl)
  have loaded : runOn (load path layout.rootPath)
      { s with disk := s.disk.set place (.file (Text.Utf8.encode layout.text)) } = (.ok layout, _) :=
    (runOn_load_of_held held plain.ofBytes layout.rootPath).trans (if_pos rfl)
  refine ⟨rfl, by rw [Disk.read, held]; rfl, loaded, ?_, ?_⟩
  · rw [runOn_bind, loaded]
    have saved := @runOn_save layout path place
      { s with disk := s.disk.set place (.file (Text.Utf8.encode layout.text)) } still
      (by simp [file]) clear'
    refine saved.trans ?_
    rw [Disk.set_set]
  · exact fun rootPath => ends_load_of_other held plain.ofBytes

/-- A layout half of whose folders are known, with texts of all kinds of characters. -/
def oddLayout : Layout :=
  { fresh "a \"b\" \\ \x00\x01\x1f\r\n\r\t\x7f\u0085\u2028\u2029😀 \x7b\x7d/[],:" with
    rootId := .string "\r", contentId := .string "", metadataId := .string "\\u0041\x0c\x08" }

theorem save_then_load_oddLayout :
    oddLayout.Plain ∧ Disk.empty.locate ⟨.none, ["layout.json"]⟩ = .ok ["local", "layout.json"] ∧
      Disk.empty.node? ["local", "layout.json"] ≠ some .directory ∧
      Disk.empty.Clear ["local", "layout.json"] ∧
      (oddLayout.save ⟨.none, ["layout.json"]⟩).Ends (Repository.smallSession [] [] .empty)
        fun outcome t => outcome = .ok () ∧
          runOn (load ⟨.none, ["layout.json"]⟩ oddLayout.rootPath) t = (.ok oddLayout, t) := by
  have plain : oddLayout.Plain := by
    rintro (_ | _ | _ | _ | _ | _)
    · exact .inr ⟨_, rfl⟩
    · exact .inr ⟨_, rfl⟩
    · exact .inr ⟨_, rfl⟩
    all_goals exact .inl rfl
  have located : Disk.empty.locate ⟨.none, ["layout.json"]⟩ = .ok ["local", "layout.json"] := by
    decide +kernel
  have other : Disk.empty.node? ["local", "layout.json"] ≠ some .directory := by decide
  have clear : Disk.empty.Clear ["local", "layout.json"] := by decide
  refine ⟨plain, located, other, clear, ?_⟩
  exact (save_then_load plain (s := Repository.smallSession [] [] .empty) located other clear).mono
    fun _ _ h => ⟨h.1, h.2.2.1⟩

end

end Layout
end DriveDepot
