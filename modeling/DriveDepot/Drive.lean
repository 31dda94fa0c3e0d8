import DriveDepot.Failure
import DriveDepot.FoundFile
import DriveDepot.Query
import DriveDepot.Text

/-!
The drive: files in the order of their creation, each addressed by its id. Folders are files of a
type of their own. Several files may have one title, and a file may have several parents.
-/

namespace DriveDepot

structure StoredFile where
  id : String
  title : String
  parents : List String
  mimeType : String
  trashed : Bool
  downloadUrl : Option String
  content : Bytes
  deriving DecidableEq, Repr

structure Drive where
  files : List StoredFile
  /-- How many files were created, the next id being one further. -/
  created : Nat
  /-- How many files a listing tells at a time; all of them without a size. -/
  pageSize : Option Nat
  /-- How many bytes a download takes at a time. -/
  chunkSize : Nat
  /-- What the drive tells of the account. -/
  account : Json

namespace StoredFile

/-- Whether a file is one that the clause asks for. -/
def satisfies (file : StoredFile) : Clause → Bool
  | .notTrashed => !file.trashed
  | .titleIs title => file.title == title
  | .mimeTypeIs mimeType => file.mimeType == mimeType
  | .inParents folder => file.parents.contains folder

def isFolder (file : StoredFile) : Bool := file.mimeType == Query.folderMimeType

/-- The file as a listing tells it. -/
def listed (file : StoredFile) : Json :=
  .object <|
    [("id", .string file.id), ("title", .string file.title),
     ("parents", .array (file.parents.map fun parent => .object [("id", .string parent)]))] ++
    (file.downloadUrl.map fun url => ("downloadUrl", Json.string url)).toList

/-- The fields that a listing tells. -/
def found (file : StoredFile) : FoundFile := ⟨file.id, file.title, file.parents, file.downloadUrl⟩

theorem mapM_required_id (parents : List String) :
    parents.mapM (Json.required "id" ∘ fun parent => Json.object [("id", .string parent)]) =
      Except.ok (parents.map Json.string) := by
  induction parents with
  | nil => rfl
  | cons parent rest ih => simp [List.mapM_cons, ih, Json.required]; rfl

/-- Reading what a listing tells of a file gives the same fields. -/
theorem ofJson_listed (file : StoredFile) : FoundFile.ofJson file.listed = .ok file.found := by
  cases h : file.downloadUrl <;>
    simp [FoundFile.ofJson, listed, found, h, Json.required, Json.optional, List.lookup_cons,
      FoundFile.parentIds, Json.elements, Json.elements?, mapM_required_id, FoundFile.ofValues,
      FoundFile.text_string, FoundFile.texts_string, FoundFile.optionalText, bind, Except.bind,
      Functor.map, Except.map]

end StoredFile

namespace Drive

/-- The type of a file's content. -/
def contentType : String := "application/x-syncany"

/-- The address at which a file can be fetched; a folder has none. -/
def defaultUrl (mimeType id : String) : Option String :=
  if mimeType = Query.folderMimeType then none else some ("https://drive.example/" ++ id)

/-- The file of an id. Only texts are ids, and no file has an empty one. -/
def file? (drive : Drive) (id : Json) : Option StoredFile :=
  match id with
  | .string "" => none
  | .string id => drive.files.find? (·.id == id)
  | _ => none

def holds (drive : Drive) (id : Json) : Bool := (drive.file? id).isSome

/-- The files that satisfy every clause. -/
def select (drive : Drive) (clauses : List Clause) : List StoredFile :=
  drive.files.filter fun file => clauses.all file.satisfies

def change (drive : Drive) (id : String) (f : StoredFile → StoredFile) : Drive :=
  { drive with files := drive.files.map fun file => if file.id == id then f file else file }

def newId (drive : Drive) : String := "new" ++ Text.Decimal.text (drive.created + 1)

/-- A page token is the letter `p` and the position at which the page starts. -/
def pageStart : Json → Nat
  | .string token => Text.Decimal.number (token.toList.drop 1)
  | _ => 0

def pageToken (first : Nat) : Json := .string ("p" ++ Text.Decimal.text first)

theorem pageStart_pageToken (first : Nat) : pageStart (pageToken first) = first := by
  simp [pageStart, pageToken, Text.Decimal.text, Text.Decimal.number_digits]

/-- The page that starts at a position, and the position after it if more files follow. -/
def page (drive : Drive) (matching : List StoredFile) (token : Json) :
    List StoredFile × Option Nat :=
  match drive.pageSize with
  | none => (matching, none)
  | some size =>
    let first := pageStart token
    ((matching.drop first).take size,
      if first + size < matching.length then some (first + size) else none)

def listing (files : List StoredFile) (next : Option Nat) : Json :=
  .object <|
    [("items", .array (files.map (·.listed)))] ++
    (next.map fun position => ("nextPageToken", pageToken position)).toList

def list (drive : Drive) (query : String) (token : Json) : Except ProviderError Json :=
  match Query.ofText? query with
  | none => .error (.http 400 "Invalid query")
  | some clauses =>
    let (files, next) := drive.page (drive.select clauses) token
    .ok (listing files next)

/-- Puts a new file into folders, all of which have to exist. -/
def insert (drive : Drive) (title mimeType : String) (parents : List Json) (content : Bytes) :
    Except ProviderError (Json × Drive) :=
  if parents.all drive.holds then
    let id := drive.newId
    let file : StoredFile :=
      ⟨id, title, parents.filterMap Json.text?, mimeType, false, defaultUrl mimeType id, content⟩
    .ok (.object [("id", .string id)],
      { drive with files := drive.files ++ [file], created := drive.created + 1 })
  else .error .notFound

def rename (drive : Drive) (id : Json) (title : String) : Except ProviderError (Json × Drive) :=
  match drive.file? id with
  | none => .error .notFound
  | some file =>
    .ok (.object [("title", .string title)], drive.change file.id ({ · with title := title }))

/-- Removes a file. The files in a removed folder stay. -/
def delete (drive : Drive) (id : Json) : Except ProviderError (Json × Drive) :=
  match drive.file? id with
  | none => .error .notFound
  | some file =>
    .ok (.string "", { drive with files := drive.files.filter (·.id != file.id) })

def removeParent (drive : Drive) (id parent : String) : Except ProviderError (Json × Drive) :=
  match drive.file? (.string id) with
  | none => .error .notFound
  | some file =>
    if file.parents.contains parent then
      .ok (.string "", drive.change file.id fun f => { f with parents := f.parents.erase parent })
    else .error .notFound

def addParent (drive : Drive) (id parent : String) : Except ProviderError (Json × Drive) :=
  match drive.file? (.string id), drive.holds (.string parent) with
  | some file, true =>
    .ok (.object [("id", .string parent)],
      drive.change file.id fun f =>
        { f with parents := if f.parents.contains parent then f.parents
                            else f.parents ++ [parent] })
  | _, _ => .error .notFound

end Drive

end DriveDepot
