import DriveDepot.Disk

namespace DriveDepot.Disk

/-- The name under which the file `name` is written before it is complete. Of its characters the
eight that are drawn at random are not told. -/
def scratchName (name : String) : String := s!".{name}-########.tmp"

/-- The path of the temporary file for `target`. -/
def scratchPath (target : LocalPath) : LocalPath :=
  absolute target.parent / ⟨.none, [scratchName target.name]⟩

/-- Begins a temporary file next to `target`. -/
def stage (disk : Disk) (target : LocalPath) : Except Fault Disk :=
  naming (scratchPath target).toString do
    let place ← disk.locate (scratchPath target)
    disk.pass .add place.dropLast
    return { disk with scratch := some ⟨place, []⟩ }

/-- Begins a temporary file, with this content, in the directory for such files. -/
def stageTemporary (disk : Disk) (name : String) (content : Bytes) : Disk :=
  { disk with scratch := some ⟨temporaryDirectory ++ [name], content⟩ }

def append (disk : Disk) (more : Bytes) : Disk :=
  { disk with scratch := disk.scratch.map fun s => { s with content := s.content ++ more } }

/-- What the temporary file holds so far. -/
def staged (disk : Disk) : Bytes := (disk.scratch.map (·.content)).getD []

def discard (disk : Disk) : Disk := { disk with scratch := none }

/-- Lets another file of the directory take a place, if that is not a directory. -/
def yieldAt (disk : Disk) (place : Place) : Except Refusal Unit := do
  disk.pass .remove place.dropLast
  match disk.node? place with
  | none => disk.pass .add place.dropLast
  | some .directory =>
    disk.pass .replace place
    .error .isDirectory
  | some (.file _) => disk.pass .replace place

/-- The place of `target`, if another file may take it. -/
def destination (disk : Disk) (target : LocalPath) : Except Refusal Place := do
  let place ← disk.locate target
  if target.name = "" ∨ target.name = ".." then .error .busy
  else
    disk.yieldAt place
    return place

/-- Lets the temporary file take the place of `target`. -/
def commit (disk : Disk) (target : LocalPath) : Except Fault Disk :=
  match disk.destination target with
  | .ok place => .ok (disk.discard.set place (.file disk.staged))
  | .error refusal => .error ⟨refusal, (scratchPath target).toString, some target.toString⟩

/-- Removes the temporary file for `target`, unless it has taken the target's place. -/
def unlink (disk : Disk) (target : LocalPath) : Except Fault Disk :=
  match disk.scratch with
  | none => .ok disk
  | some scratch =>
    naming (scratchPath target).toString do
      disk.pass .remove scratch.place.dropLast
      return disk.discard

end DriveDepot.Disk
