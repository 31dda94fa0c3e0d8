import DriveDepot.Repository

namespace DriveDepot.Repository

open Operation

/-- What the title of a file begins with while its upload is not complete. -/
def temporaryMark : String := "temp-"

def upload (source : LocalPath) (file : RemoteFile) : Operation Unit := do
  let folder ← folderFor file.category
  let temporaryTitle := temporaryMark ++ file.name
  let confirmed ← onProviderError
    (do
      info s!"Uploading {source} to temp file {folder}:{temporaryTitle}"
      let inserted ← insertFile temporaryTitle folder (← ofDisk ((← disk).read source))
      info s!"Renaming temp file {temporaryTitle} to file {file.name}"
      rename (← ofMishap (Folders.idOf inserted)) file.name)
    fun failure => do
      error s!"Could not upload file {source} to {file.name}: {failure.message}"
      throw (failure.wrap (.uploadFailed source.toString file.name))
  if !confirmed then
    warn s!"Renaming temp file {temporaryTitle} failed"
    storageError (.renameUnconfirmed temporaryTitle file.name)

/-- Writes the next bytes of a content to the temporary file, and tells whether it is complete. -/
def writeChunk (content : Bytes) : Operation Json := do
  let s ← get
  let disk := s.disk.append ((content.drop s.disk.staged.length).take s.drive.chunkSize)
  setDisk disk
  return .array [.null, .bool (content.length ≤ disk.staged.length)]

/-- Whether an answer, of which that is the second part, says that a download is complete. -/
def isLast (answer : Json) : Except Mishap Bool := do return !(← answer.pair).2.isNothing

/-- Fetches chunks until the last one. A download of more than `bound` chunks is taken for one
without an end. -/
def fetchChunks (content : Bytes) : (bound : Nat) → Operation Unit
  | 0 => throw .endless
  | bound + 1 => do
    let answer ← perform .nextChunk (writeChunk content)
    if !(← ofMishap (isLast answer)) then fetchChunks content bound

/-- A download that ends has no more chunks. After the last numbered fault each brings a byte, or
all are the same answer of one fault. -/
def chunkBound (s : Session) (content : Bytes) : Nat :=
  s.schedule.lastNumber .nextChunk + content.length + 2

/-- Writes the content of a file to the temporary file. -/
def fetch (id : String) : Operation Unit := do
  record (.openMedia id)
  let s ← get
  match s.drive.file? (.string id) with
  | none => throw (.ofProvider .notFound)
  | some file => fetchChunks file.content (chunkBound s file.content)

/-- The names `.` and `..` denote no file. -/
def denotesNoFile (name : String) : Bool := name == "." || name == ".."

/-- Begins the temporary file for a target. -/
def stage (target : LocalPath) : Operation Unit :=
  onProviderError (do setDisk (← ofDisk ((← disk).stage target))) fun failure =>
    throw (failure.wrap (.noTemporaryFile target.toString))

/-- Removes the temporary file for a target. That this is refused, no handler sees. -/
def unstage (target : LocalPath) : Operation Unit := do
  setDisk (← ofDisk ((← disk).unlink target))

/-- Writes the content of a file to the temporary file and lets this take the target's place. -/
def fetchTo (target : LocalPath) (name id : String) : Operation Unit :=
  let temporary := Disk.scratchPath target
  onProviderError
    (do
      info s!"Downloading {name} to temp file {temporary}"
      fetch id
      info s!"Renaming temp file {temporary} to file {target}"
      setDisk (← ofDisk ((← disk).commit target)))
    fun failure => do
      error s!"Error while downloading file {name}: {failure.message}"
      throw (failure.wrap (.downloadFailed name))

/-- Fetches the one file of the name. For a name that denotes no file nothing is done. -/
def download (file : RemoteFile) (target : LocalPath) : Operation Unit := do
  if denotesNoFile file.name then return
  let found ← oneFileIn (← folderFor file.category) file.name
  if (found.downloadUrl.getD "").isEmpty then storageError (.noDownloadUrl file.name)
  stage target
  ensuring (fetchTo target file.name found.id) (unstage target)

/-- Deletes one of the files of a name. One that the drive does not know any more is gone. -/
def deleteFound (name : String) (found : FoundFile) : Operation Unit :=
  onProviderError
    (do
      info s!"Deleting file with ID '{found.id}'..."
      delete (.string found.id))
    fun failure => do
      if failure.isNotFound then
        warn s!"File with ID '{found.id}' not found. Nothing to delete."
      else
        error s!"Could not delete file {name}: {failure.message}"
        throw (failure.wrap (.deletionFailed name))

/-- Deletes every file of the name. -/
def remove (file : RemoteFile) : Operation Unit := do
  let found ← filesIn (← folderFor file.category) file.name
  found.forM (deleteFound file.name)

/-- Gives the file another title, if the names differ, and tells whether they did. -/
def moveTitle (source target : RemoteFile) (id : String) : Operation Bool := do
  if source.name = target.name then return false
  info s!"Renaming file {source.name} to file {target.name}"
  if !(← rename (.string id) target.name) then
    warn s!"Renaming file {source.name} failed"
    storageError .renamingFailed
  return true

/-- Takes the file from one folder to the other, if these differ, and tells whether they did. -/
def moveFolder (name sourceFolder targetFolder id : String) : Operation Bool := do
  if sourceFolder = targetFolder then return false
  info s!"Moving file {name} from folder {sourceFolder} to {targetFolder}"
  let _ ← request (.removeParent id sourceFolder)
  let _ ← request (.addParent id targetFolder)
  return true

/-- The one file at the source, and what is at the target, one file at most. -/
def locate (source target : RemoteFile) : Operation (FoundFile × List FoundFile) := do
  let file ← oneFileIn (← folderFor source.category) source.name
  let replaced ← filesIn (← folderFor target.category) target.name
  if replaced.length > 1 then storageError (.severalTargets replaced.length)
  return (file, replaced)

/-- Deletes the file that was at the target, if there was one and the move has changed something. -/
def deleteReplaced (modified : Bool) (targetText : String) : List FoundFile → Operation Unit
  | [] => return
  | old :: _ => do
    if modified then
      info s!"Deleting replaced file {targetText}"
      delete (.string old.id)

/-- Renames a file and moves it to the target's folder, each as far as it is needed. A file that
was already at the target is deleted afterwards. Once both folders have been searched, their ids are
texts, and so are told as they are. -/
def move (source target : RemoteFile) : Operation Unit := do
  let sourceFolder ← folderFor source.category
  let targetFolder ← folderFor target.category
  let sourceText := s!"{sourceFolder}:{source.name}"
  let targetText := s!"{targetFolder}:{target.name}"
  handleIf (fun failure => failure.isStorage || failure.isProvider)
    (do
      let (file, replaced) ← locate source target
      let renamed ← moveTitle source target file.id
      let moved ← moveFolder source.name sourceFolder.told targetFolder.told file.id
      deleteReplaced (renamed || moved) targetText replaced)
    fun failure => do
      error s!"Could not rename file {sourceText} to {targetText}: {failure.message}"
      throw (failure.wrap (.moveFailed sourceText targetText))

/-- The references that a category has for the titles, each title once. -/
def references (category : Category) : (titles : List String) → List RemoteFile
  | [] => []
  | title :: rest =>
    let others := (references category rest).filter (·.name ≠ title)
    match RemoteFile.make category title with
    | .ok file => file :: others
    | .error _ => others

/-- Notes a file that has no name of the category. -/
def noteRefused (category : Category) (file : FoundFile) : Operation Unit := do
  if !category.accepts file.title then
    info <| s!"Cannot create {category.word} file for '{file.title}'; " ++
      "maybe invalid file name pattern. Ignoring file."

/-- The files in the folder of a category that have a name of that category, in the order in which
the drive lists their names first. -/
def list (category : Category) : Operation (List RemoteFile) := do
  let found ← filesIn (← folderFor category) none
  found.forM (noteRefused category)
  return references category (found.map (·.title))

end DriveDepot.Repository
