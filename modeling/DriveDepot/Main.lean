import DriveDepot.Command.Run

/-!
The program: it runs one command against a drive that is kept in memory and begins empty. It shows
what the command asks of a drive and what it leaves in the local files.
-/

open DriveDepot

namespace DriveDepot.Main

/-- The variables that the settings are made of. -/
def variableNames : List String :=
  ["TOKEN_STORAGE_FILE", "LOG_LEVEL", "LAYOUT_FILE", "GDRIVE_CLIENT_ID", "GDRIVE_CLIENT_SECRET",
   "GDRIVE_REFRESH_TOKEN", "GDRIVE_ROOT_PATH", "BASE_DIR"]

def environment : IO Environment := do
  let found ← variableNames.mapM fun name => return (name, ← IO.getEnv name)
  return found.filterMap fun (name, value) => value.map (name, ·)

/-- Takes a file into the disk of the session, if it can be read. -/
def take (disk : Disk) (path : LocalPath) : IO Disk := do
  try
    let content ← IO.FS.readBinFile path.toString
    return disk.plant path (.file content.toList)
  catch _ => return disk.plant path.parent .directory

/-- The directory of the program. -/
def package : IO LocalPath := return (LocalPath.ofString (← IO.appPath).toString).parent

/-- The files that a command reads. -/
def sources (package : LocalPath) (arguments : List String) (environment : Environment) :
    List LocalPath :=
  let settings := match Settings.ofVariables package environment with
    | .ok settings => [settings.tokenFile, settings.layoutFile]
    | .error _ => []
  settings ++ arguments.map .ofString

def session (disk : Disk) : Session where
  drive := ⟨[], 0, none, 1048576, .object [("name", .string "nobody")]⟩
  schedule := .calm
  disk := disk
  layout := .fresh ""
  grant := ⟨"https://drive.example/", none⟩
  granted := none
  calls := []
  journal := []
  threshold := 0
  output := ""

/-- Writes the files that the command changed. -/
def putBack (before after : Disk) : IO Unit :=
  after.files.forM fun (path, content) => do
    if before.files.lookup path != some content then
      IO.FS.writeBinFile path ⟨content.toArray⟩

end DriveDepot.Main

open DriveDepot.Main in
def main (arguments : List String) : IO UInt32 := do
  let package ← package
  let given ← environment
  let disk ← take .empty Settings.variableFile
  let stored := match disk.read Settings.variableFile with
    | .ok content => ((Text.Utf8.decode content).toOption.map Environment.ofText).getD []
    | .error _ => []
  let disk ← (sources package arguments (stored ++ given)).foldlM take disk
  let input ← (← IO.getStdin).getLine
  let (result, after) := (Command.run package arguments given input).runOn (session disk)
  putBack disk after.disk
  IO.print after.output
  after.journal.forM fun entry => IO.eprintln s!"{entry.level.name} - {entry.message}"
  match result with
  | .ok status => return UInt32.ofNat status.code
  | .error failure =>
    IO.eprintln failure.message
    return 1
