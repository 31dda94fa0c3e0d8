import DriveDepot.Authorization
import DriveDepot.Command
import DriveDepot.Layout.File
import DriveDepot.Repository.Preparation
import DriveDepot.Repository.Transfer
import DriveDepot.Settings
import DriveDepot.Text.Uppercase

namespace DriveDepot.Command

open Operation

inductive Status
  | success
  | failed
  | badUsage
  deriving DecidableEq, Repr

def Status.code : Status → Nat
  | .success => 0
  | .failed => 1
  | .badUsage => 2

/-- Sets the threshold of the journal, and opens the log file if that is possible. -/
def setUpJournal (settings : Settings) : Operation Unit := do
  let level := Text.uppercase settings.logLevel
  match Level.threshold? level with
  | none => throw (.ofMishap (.badValue s!"Unknown level: {Text.quoted level}"))
  | some threshold => modify ({ · with threshold := threshold })
  onProviderError (do setDisk (← ofDisk ((← disk).touch settings.logFile))) fun failure =>
    error s!"Failed to set up file logging to {settings.logFile}: {failure.message}"

/-- The first line of the input. -/
def firstLine (input : String) : Operation String :=
  if input.isEmpty then throw (.ofMishap .endOfInput)
  else return String.ofList (input.toList.takeWhile (· ≠ '\n'))

/-- Leads the user through the authorization and keeps the token. -/
def authorize (settings : Settings) (input : String) : Operation Unit := do
  Authorization.start settings.client
  printLine "--- Google Drive Authorization ---"
  printLine s!"1. Go to: {← Authorization.url}"
  printLine "2. Click 'Allow' (you might have to log in first)."
  print "3. Enter the authorization code here: "
  let code := Text.trim (← firstLine input)
  let token ← Authorization.token code
  setDisk (← ofDisk ((← disk).write settings.tokenFile (Text.Utf8.encode token)))
  printLine s!"Token saved to {settings.tokenFile}"

/-- Where nothing is left of an argument, an empty list stands for it. -/
def argumentJson (argument : Option String) : Json :=
  match argument with
  | some text => .string text
  | none => .array []

def remoteFile (file : FileArgument) : Operation RemoteFile :=
  ofIssues .remoteFile <|
    RemoteFile.ofJson (argumentJson (file.category.map (·.word))) (argumentJson file.name)

/-- A download needs a path, unless it does nothing anyway. -/
def downloadTo (target : Option LocalPath) (file : RemoteFile) : Operation Unit :=
  match target with
  | some target => Repository.download file target
  | none =>
    if Repository.denotesNoFile file.name then return else throw (.ofMishap .notAPath)

def answerText (answer : Bool) : String := if answer then "True" else "False"

/-- What a command does with the repository. -/
def operate : Command → Operation Unit
  | .auth => return
  | .init createRoot => do
    Repository.prepare createRoot
    info s!"Repository folders ready under '{(← layout).rootPath}'."
  | .test => do
    printLine s!"target exists:     {answerText (← Repository.targetExists)}"
    printLine s!"target can write:  {answerText (← Repository.targetCanWrite)}"
    printLine s!"target can create: {answerText (← Repository.targetCanCreate)}"
    printLine s!"repo file exists:  {answerText (← Repository.markerExists)}"
  | .list category => do
    let names := (← Repository.list category).map (·.name)
    (names.mergeSort fun a b => decide (a ≤ b)).forM printLine
  | .upload source file => do Repository.upload source (← remoteFile file)
  | .download file target => do downloadTo target (← remoteFile file)
  | .move source target => do Repository.move (← remoteFile source) (← remoteFile target)
  | .remove file => do Repository.remove (← remoteFile file)

/-- Runs a command other than `auth`, on the layout of the layout file. -/
def operateOn (settings : Settings) (refreshToken : String) (command : Command) :
    Operation Status := do
  setLayout (← Layout.load settings.layoutFile settings.rootPath)
  match ← attempt (Repository.openClient settings.client refreshToken) with
  | .error failure =>
    error s!"Failed to initialize Google Drive client. Error: {failure.message}"
    return .failed
  | .ok () =>
    ensuring
      (handleIf (fun failure => failure.isStorage || failure.isBadValue)
        (do
          command.operate
          return .success)
        fun failure => do
          error s!"Command '{command.word}' failed. Error: {failure.message}"
          return .failed)
      (do (← layout).save settings.layoutFile)

def runWith (settings : Settings) (input : String) : Command → Operation Status
  | .auth =>
    onStorageError
      (do
        authorize settings input
        return .success)
      fun failure => do
        error s!"Authorization failed. Error: {failure.message}"
        return .failed
  | command =>
    match settings.refreshToken with
    | none | some "" => do
      log .critical "No Google Drive refresh token found. Run the 'auth' command first."
      return .failed
    | some refreshToken => operateOn settings refreshToken command

/-- Runs the program, which is in the directory `package`, with its arguments, its environment and
what the user enters. -/
def run (package : LocalPath) (arguments : List String) (environment : Environment)
    (input : String) : Operation Status := do
  match ofArguments? arguments with
  | none => return .badUsage
  | some command =>
    modify ({ · with threshold := 0 })
    let settings ← Settings.read package environment
    setUpJournal settings
    runWith settings input command

end DriveDepot.Command
