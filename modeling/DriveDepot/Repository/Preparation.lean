import DriveDepot.Repository.Probe

namespace DriveDepot.Repository

open Operation

/-- Makes a folder for each title of the root path, and records the id of the innermost. -/
def createRoot : Operation Unit := do
  let rootId ← Folders.makePath (FolderPath.segments (← layout).rootPath) .null
  setLayout { ← layout with rootId := rootId }

/-- Makes the root folder, if it is wanted and missing. -/
def ensureRoot (wanted : Bool) : Operation Unit := do
  let found ← targetExists
  if !found && wanted then createRoot

/-- Fails if there is no root folder. -/
def requireRoot : Operation Unit := do
  let layout ← layout
  if layout.rootId.isNothing then storageError (.rootMissing layout.rootPath)

/-- Makes one category folder and records its id. -/
def createSlot (slot : Slot) : Operation Unit := do
  let id ← Folders.makePath [slot.title] (← layout).rootId
  setLayout ((← layout).setSlot slot id)

/-- Makes the category folders in the root folder, which completes the layout. -/
def createSlots : Operation Unit := do
  Slot.all.forM createSlot
  setLayout { ← layout with complete := true }

/-- Makes the root folder, if it is wanted and missing, and all category folders in it. -/
def prepare (wanted : Bool) : Operation Unit :=
  ensuring
    (onStorageError
      (do
        connect
        ensureRoot wanted
        requireRoot
        createSlots)
      fun failure => do
        error s!"init: Cannot create required directories. Error: {failure.message}"
        throw failure)
    disconnect

end DriveDepot.Repository
