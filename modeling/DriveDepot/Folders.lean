import DriveDepot.Json.Access
import DriveDepot.Json.Wording
import DriveDepot.Operation

namespace DriveDepot.Folders

open Operation

/-- The id that an answer tells. -/
def idOf (answer : Json) : Except Mishap Json := answer.required "id"

@[simp] theorem idOf_object (id : Json) : idOf (.object [("id", id)]) = .ok id := by
  simp [idOf, Json.required]

/-- Makes one folder, whether or not there is one of that title. Without a parent, which is null
then, it lies in no folder. -/
def make (title : String) (parent : Json) : Operation Json := do
  let id ← ofMishap (idOf (← request (.insertFolder title parent)))
  info s!"Created folder '{title}' with ID: {id}"
  return id

/-- Makes a folder for each title, each inside the one before. -/
def makeEach (parent : Json) : (titles : List String) → Operation Json
  | [] => return parent
  | title :: rest => do
    let id ← onProviderError (make title parent) fun failure => do
      error s!"Failed to create folder '{title}': {failure.message}"
      throw (failure.wrap (.folderNotCreated title))
    makeEach id rest

/-- The id of the innermost of the new folders. -/
def makePath (titles : List String) (parent : Json) : Operation Json :=
  if titles.isEmpty then storageError .emptyPath else makeEach parent titles

/-- The folders of a title, as the drive lists them. -/
def matching (title : String) (parent : Json) : Operation Json := do
  let parent ← ofMishap parent.optionalText
  let response ← request (.listFolders (Query.text (Query.ofFolders title parent)))
  return (← ofMishap (response.optional "items")).getD (.array [])

/-- The id of the first of the folders. -/
def firstId (folders : Json) : Except Mishap Json := do idOf (← folders.first)

/-- The id of the only folder of a title. -/
def only (title : String) (parent : Json) : Operation Json := do
  let folders ← onProviderError (matching title parent) fun failure => do
    warn s!"Search for folder '{title}' failed: {failure.message}"
    throw (failure.wrap (.folderSearchFailed title))
  if folders.isNothing then storageError (.folderMissing title)
  else
    let count ← ofMishap folders.count
    if count > 1 then storageError (.severalFolders count title)
    else ofMishap (firstId folders)

/-- Goes down from a folder along the titles; null where a title has no folder or several. -/
def followFrom (parent : Json) : (titles : List String) → Operation Json
  | [] => return parent
  | title :: rest => do
    let folders ← matching title parent
    if folders.isNothing then
      info s!"Folder '{title}' does NOT exist."
      return .null
    else
      let count ← ofMishap folders.count
      if count > 1 then
        warn s!"Folder '{title}' exists, but there are {count} folders with the same name."
        return .null
      else followFrom (← ofMishap (firstId folders)) rest

/-- The id of the folder at the end of the titles. The first title is looked for everywhere. -/
def follow (titles : List String) : Operation Json := followFrom .null titles

end DriveDepot.Folders
