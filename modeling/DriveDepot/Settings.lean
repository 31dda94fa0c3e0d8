import DriveDepot.Operation
import DriveDepot.Settings.Environment

/-!
Settings: the client, the token that gives access, the root path, and where the program keeps its
files. They come from the environment, or else from the file `.env` in the working directory; a
token that neither gives is taken from the token file. Files are kept in the base directory, which
is the directory of the program itself unless a variable names another.
-/

namespace DriveDepot

structure Settings where
  clientId : String
  clientSecret : String
  refreshToken : Option String
  rootPath : String
  baseDirectory : LocalPath
  tokenFileName : String
  layoutFileName : String
  logLevel : String
  deriving DecidableEq, Repr

namespace Settings

open Operation

def tokenFile (settings : Settings) : LocalPath :=
  settings.baseDirectory / .ofString settings.tokenFileName

def layoutFile (settings : Settings) : LocalPath :=
  settings.baseDirectory / .ofString settings.layoutFileName

def logFile (settings : Settings) : LocalPath :=
  settings.baseDirectory / .ofString "app.log"

def client (settings : Settings) : Client := ⟨settings.clientId, settings.clientSecret⟩

def hasToken (settings : Settings) : Bool := !(settings.refreshToken.getD "").isEmpty

/-- The variables as a report tells them. -/
def given (environment : Environment) : Given :=
  .ofJson (.object (environment.map fun (name, value) => (name, .string value)))

/-- A value that has to be there and must not be blank. -/
def required (environment : Environment) (name : String) : Except (List Issue) String :=
  let value := (environment.get? name).getD ""
  if (Text.trim value).isEmpty then
    .error [.ofWhole (.refused s!"{name} is required and cannot be empty") (given environment)]
  else .ok value

/-- The settings that the variables give to a program in the directory `package`. -/
def ofVariables (package : LocalPath) (environment : Environment) :
    Except (List Issue) Settings := do
  let clientId ← required environment "GDRIVE_CLIENT_ID"
  let clientSecret ← required environment "GDRIVE_CLIENT_SECRET"
  let rootPath ← required environment "GDRIVE_ROOT_PATH"
  return {
    clientId, clientSecret, rootPath
    refreshToken := environment.get? "GDRIVE_REFRESH_TOKEN"
    baseDirectory := ((environment.get? "BASE_DIR").map .ofString).getD package
    tokenFileName := (environment.get? "TOKEN_STORAGE_FILE").getD ".gdrive.token"
    layoutFileName := (environment.get? "LAYOUT_FILE").getD ".gdrive.layout.json"
    logLevel := (environment.get? "LOG_LEVEL").getD "INFO" }

def variableFile : LocalPath := .ofString ".env"

/-- The variables of the file in the working directory, if there is one. -/
def fileVariables (disk : Disk) : Operation Environment := do
  if ← ofDisk (disk.isFile variableFile) then
    match Text.Utf8.decode (← ofDisk (disk.read variableFile)) with
    | .ok text => return .ofText text
    | .error fault => throw (.ofMishap (.undecodable fault.message))
  else return []

/-- The token that a token file holds, without the blanks around it. -/
def storedToken (environment : Environment) (content : Bytes) : Except (List Issue) String :=
  match Text.Utf8.decode content with
  | .ok text => .ok (String.ofList (Text.trimChars (Text.unifyNewlines text.toList)))
  | .error fault => .error [.ofWhole (.refused fault.message) (given environment)]

/-- Takes the token from the token file, unless one is given or the file has none. -/
def completeToken (settings : Settings) (environment : Environment) (disk : Disk) :
    Operation Settings := do
  if settings.hasToken then return settings
  if !(← ofDisk (disk.isFile settings.tokenFile)) then return settings
  let content ← ofDisk (disk.read settings.tokenFile)
  let token ← ofIssues .settings (storedToken environment content)
  if token.isEmpty then return settings
  info s!"Found refresh token in file: {settings.tokenFile}"
  return { settings with refreshToken := some token }

/-- Reads the settings. Variables of the environment come before those of the file. -/
def read (package : LocalPath) (environment : Environment) : Operation Settings := do
  let disk ← disk
  let known := (← fileVariables disk) ++ environment
  let settings ← ofIssues .settings (ofVariables package known)
  if !settings.hasToken then
    warn <| "GDRIVE_REFRESH_TOKEN not found in environment. " ++
      "Will attempt to load from .gdrive.token file."
  settings.completeToken known disk

/-- The settings that are remembered from before, or else newly read ones. -/
def remembered (earlier : Option Settings) (package : LocalPath) (environment : Environment) :
    Operation Settings :=
  match earlier with
  | some settings => return settings
  | none => read package environment

end Settings

end DriveDepot
