import DriveDepot.Repository

namespace DriveDepot.Repository

open Operation

/-- The answer of a probe, with `onFailure` for what goes wrong. -/
def probe (operation : Operation Bool) (onFailure : Failure → Operation Unit) :
    Operation Bool :=
  onAnyError operation fun failure => do
    onFailure failure
    return false

/-- The ids of the category folders that lie in the root folder. -/
def lookupSlots (rootId : Json) : Operation (List (Slot × Json)) :=
  Slot.all.mapM fun slot => return (slot, ← Folders.only slot.title rootId)

/-- Records the ids of all category folders, or of none if one of them is not found. -/
def discover : Operation Unit := do
  let found ← lookupSlots (← layout).rootId
  let known := found.foldl (fun layout (slot, id) => layout.setSlot slot id) (← layout)
  setLayout { known with complete := true }

/-- Records the id of the root folder, and the ids of the category folders if all are found. A
layout that is complete stays as it is. -/
def attach (rootId : Json) : Operation Unit := do
  if !(← layout).complete then
    setLayout { ← layout with rootId := rootId }
    onStorageError discover fun failure =>
      info <| "Not all subfolders exist yet, which is fine if the repository is still " ++
        s!"initializing: {failure.message}"

/-- Whether each folder of the root path exists exactly once. Until the layout is complete, this
also records the ids of the folders that are there. -/
def targetExists : Operation Bool :=
  probe
    (do
      let rootId ← Folders.follow (FolderPath.segments (← layout).rootPath)
      if rootId matches .null then
        info "testTargetExists: Target does NOT exist."
        return false
      attach rootId
      info "testTargetExists: Target does exist."
      return true)
    fun failure =>
      warn s!"testTargetExists: Target does NOT exist, error occurred: {failure.message}"

/-- The title and the content of the file that is written to see whether one can be. -/
def trialName : String := "syncany-write-test"

/-- Whether a file can be put into the root folder and be deleted again. -/
def targetCanWrite : Operation Bool :=
  probe
    (do
      if !(← targetExists) then
        info "testTargetCanWrite: Can NOT write, target does not exist."
        return false
      setDisk ((← disk).stageTemporary trialName (Text.Utf8.encode trialName))
      let created ← ensuring
        (do insertFile trialName (← layout).rootId (← disk).staged)
        (do setDisk (← disk).discard)
      delete (← ofMishap (Folders.idOf created))
      info "testTargetCanWrite: Can write, test file created/deleted successfully."
      return true)
    fun failure => info s!"testTargetCanWrite: Can NOT write to target. Error: {failure.message}"

/-- Whether the target exists, or a single folder titled with the whole root path can be made. -/
def targetCanCreate : Operation Bool :=
  probe
    (do
      if ← targetExists then return true
      delete (← Folders.make (← layout).rootPath .null)
      info s!"testTargetCanCreate: Can create target at {(← layout).rootPath}"
      return true)
    fun failure => info s!"testTargetCanCreate: Can NOT create target. Error: {failure.message}"

/-- Whether exactly one file marks the root folder as a repository. -/
def markerExists : Operation Bool := do
  let marker := RemoteFile.marker
  let folder ← folderFor marker.category
  let location := s!"{folder}:{marker.name}"
  probe
    (do
      match ← filesIn folder marker.name with
      | [] =>
        info s!"testRepoFileExists: Repo file DOES NOT exist at {location}"
        return false
      | [_] =>
        info s!"testRepoFileExists: Repo file exists at {location}"
        return true
      | _ =>
        warn s!"testRepoFileExists: Multiple repo files exist at {location}"
        return false)
    fun failure =>
      info <| "testRepoFileExists: Exception when trying to check repo file existence: " ++
        failure.message

end DriveDepot.Repository
