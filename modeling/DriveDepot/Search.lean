import DriveDepot.Operation

namespace DriveDepot.Search

open Operation

/-- One page of a listing; none if the drive refuses it. -/
def page (query : String) (found : List FoundFile) (token : Json) : Operation (Option Json) :=
  onProviderError (some <$> request (.listFiles query token)) fun failure => do
    warn s!"Listing stopped after {found.length} files for query [{query}]: {failure.message}"
    return none

/-- The files of a page. -/
def filesOf (response : Json) : Except Mishap (List FoundFile) := do
  match ← response.optional "items" with
  | none => return []
  | some items => (← items.elements).mapM FoundFile.ofJson

/-- Goes on with the page of `token`, after the files found so far. A listing with more than `bound`
pages is taken for one without an end. -/
def collect (query : String) : (bound : Nat) → List FoundFile → (token : Json) →
    Operation (List FoundFile)
  | 0, _, _ => throw .endless
  | bound + 1, found, token => do
    match ← page query found token with
    | none => return found
    | some response =>
      let found := found ++ (← ofMishap (filesOf response))
      let next := ((← ofMishap (response.optional "nextPageToken")).getD .null)
      if next.isNothing then return found
      else collect query bound found next

/-- A listing that ends has no more pages. After the last numbered fault they are the drive's, one
at most for each file and one more, or all are the same answer of one fault. -/
def pageBound (s : Session) : Nat := s.schedule.lastNumber .list + s.drive.files.length + 2

/-- The files of a folder and of a name, as far as these are given, in the order of the pages. A
listing that fails ends with the files of the pages before. -/
def files (folder name : Option String) : Operation (List FoundFile) := do
  collect (Query.text (Query.ofFiles folder name)) (pageBound (← get)) [] .null

/-- How a folder is told in a message. -/
def folderText (folder : Option String) : String := folder.getD "None"

/-- The one file of a name in a folder. -/
def oneFile (folder : Option String) (name : String) : Operation FoundFile := do
  match ← files folder name with
  | [file] => return file
  | [] => refuse (.fileMissing name (folderText folder))
  | found => refuse (.severalFiles found.length name (folderText folder))
where
  refuse (error : StorageError) : Operation FoundFile := do
    warn error.message
    storageError error

end DriveDepot.Search
