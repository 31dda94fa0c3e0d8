import DriveDepot.Proofs.Search
import DriveDepot.Repository

namespace DriveDepot.Repository

open Operation

theorem ends_folderFor_bind {s : Session} {category : Category} {next : Json → Operation α}
    {Q : Except Failure α → Session → Prop} :
    (folderFor category >>= next).Ends s Q ↔ (next (s.layout.folderFor category)).Ends s Q := by
  rw [folderFor, bind_assoc, ends_layout_bind, pure_bind]

theorem text_or_not (value : Json) :
    (∃ id, value = .string id) ∨ value.text = .error (.notAText value.kind) := by
  cases value with
  | string id => exact .inl ⟨id, rfl⟩
  | _ => exact .inr rfl

theorem filesIn_string (folder : String) (name : Option String) :
    filesIn (.string folder) name = Search.files folder name := by
  simp [filesIn, Json.text, ofMishap]

theorem oneFileIn_string (folder name : String) :
    oneFileIn (.string folder) name = Search.oneFile folder name := by
  simp [oneFileIn, Json.text, ofMishap]

theorem filesIn_notText {folder : Json} {kind : Json.Kind}
    (other : folder.text = .error (.notAText kind)) (name : Option String) :
    filesIn folder name = throw (.ofMishap (.notAText kind)) := by
  rw [filesIn, other]
  rfl

theorem oneFileIn_notText {folder : Json} {kind : Json.Kind}
    (other : folder.text = .error (.notAText kind)) (name : String) :
    oneFileIn folder name = throw (.ofMishap (.notAText kind)) := by
  rw [oneFileIn, other]
  rfl

/-- A layout whose folders have their titles as their ids. -/
def smallLayout : Layout :=
  ⟨"repo", .string "repo", .string "multichunks", .string "databases", .string "actions",
    .string "transactions", .string "temporary", true⟩

def smallFolder (id : String) (parents : List String) : StoredFile :=
  ⟨id, id, parents, Query.folderMimeType, false, none, []⟩

/-- A drive with the folders of that layout and with files of contents. -/
def smallDrive (files : List StoredFile) : Drive :=
  ⟨smallFolder "repo" [] :: Slot.all.map (fun slot => smallFolder slot.title ["repo"]) ++ files,
    0, some 1, 2, .null⟩

def smallFile (id title folder : String) (content : Bytes) : StoredFile :=
  ⟨id, title, [folder], Drive.contentType, false, Drive.defaultUrl Drive.contentType id, content⟩

/-- A file that can take the place of another. -/
def smallSource : RemoteFile := ⟨.temp, "temp-1", by decide +kernel⟩

def smallSession (files : List StoredFile) (faults : List Fault) (disk : Disk) : Session :=
  ⟨smallDrive files, .ofFaults faults, disk, smallLayout, ⟨"", none⟩, none, [], [], 0, ""⟩

end DriveDepot.Repository
