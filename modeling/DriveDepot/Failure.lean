import DriveDepot.Disk
import DriveDepot.Issue
import DriveDepot.Json
import DriveDepot.Text
import DriveDepot.Text.Quoted

namespace DriveDepot

/-- Failures of a single call to the drive, or of the file system. -/
inductive ProviderError
  | http (status : Int) (reason : String)
  | refreshRefused (message : String)
  | unreachable (message : String)
  | system (message : String)
  | disk (fault : Disk.Fault)
  deriving DecidableEq, Repr

namespace ProviderError

/-- The reason that the drive gives is told without the blanks around it. -/
def message : ProviderError → String
  | .http status reason => s!"<HttpError {status} \"{Text.trim reason}\">"
  | .refreshRefused message | .unreachable message | .system message => message
  | .disk fault => fault.message

/-- The drive's answer to an id that it does not know. -/
def notFound : ProviderError := .http 404 "Not Found"

def status? : ProviderError → Option Int
  | .http status _ => some status
  | _ => none

end ProviderError

inductive StorageError
  | cannotConnect
  | tokenRequestFailed (detail : String)
  | noRefreshToken
  | rootMissing (rootPath : String)
  | fileMissing (name folder : String)
  | folderMissing (title : String)
  | severalFiles (count : Nat) (name folder : String)
  | severalFolders (count : Nat) (title : String)
  | severalTargets (count : Nat)
  | emptyPath
  | folderNotCreated (title : String)
  | folderSearchFailed (title : String)
  | noDownloadUrl (name : String)
  | noTemporaryFile (path : String)
  | downloadFailed (name : String)
  | uploadFailed (path name : String)
  | deletionFailed (name : String)
  | renamingFailed
  | renameUnconfirmed (temporaryTitle name : String)
  | moveFailed (source target : String)
  deriving DecidableEq, Repr

inductive StorageError.Kind
  | general
  | connection
  | notFound
  | ambiguous (count : Nat)
  | upload
  | move (source target : String)
  deriving DecidableEq, Repr

namespace StorageError

def kind : StorageError → Kind
  | .cannotConnect | .tokenRequestFailed _ | .noRefreshToken => .connection
  | .rootMissing _ | .fileMissing .. | .folderMissing _ => .notFound
  | .severalFiles count .. | .severalFolders count _ | .severalTargets count => .ambiguous count
  | .renameUnconfirmed .. => .upload
  | .moveFailed source target => .move source target
  | _ => .general

def message : StorageError → String
  | .cannotConnect => "Unable to connect to Google Drive"
  | .tokenRequestFailed detail => s!"Error requesting Google Drive token: {detail}"
  | .noRefreshToken => "Google did not return a refresh token."
  | .rootMissing rootPath => s!"Root folder '{rootPath}' does not exist."
  | .fileMissing name folder => s!"File '{name}' does not exist in folder '{folder}'."
  | .folderMissing title => s!"Folder '{title}' does not exist."
  | .severalFiles count name folder =>
    s!"{count} files named '{name}' exist in folder '{folder}'."
  | .severalFolders count title => s!"{count} folders with name '{title}' exist."
  | .severalTargets _ => "Multiple destination files matching destination criteria"
  | .emptyPath => "Cannot create a folder from an empty path."
  | .folderNotCreated title => s!"Could not create folder '{title}' in Google Drive."
  | .folderSearchFailed title => s!"Search for folder '{title}' failed."
  | .noDownloadUrl name => s!"Cannot get download URL for file '{name}'"
  | .noTemporaryFile path => s!"Cannot create temp file next to {path}"
  | .downloadFailed name => s!"Error while downloading file {name}"
  | .uploadFailed path name => s!"Could not upload file {path} to {name}"
  | .deletionFailed name => s!"Could not delete file {name}"
  | .renamingFailed => "Renaming failed"
  | .renameUnconfirmed temporaryTitle name =>
    s!"Renaming temp file {temporaryTitle} to {name} failed"
  | .moveFailed source target => s!"Could not move file {source} to {target}"

end StorageError

/-- What neither the drive nor the storage reports. -/
inductive Mishap
  | badValue (message : String)
  | defect (message : String)
  | undecodable (message : String)
  | unreadableJson (defect : Json.Defect)
  | invalid (subject : Subject) (issues : List Issue)
  | missingKey (key : String)
  /-- A position was asked of something that has keys. -/
  | missingPosition (position : Nat)
  /-- Keys were asked of something that has none. -/
  | notKeyed (kind : Json.Kind)
  /-- Positions were asked of something that has none. -/
  | notOrdered (kind : Json.Kind)
  /-- The items were counted of something that has none. -/
  | notCounted (kind : Json.Kind)
  /-- The items were asked of something that has none. -/
  | notIterable (kind : Json.Kind)
  /-- Fields were asked of something that has none. -/
  | notAnObject (kind : Json.Kind)
  /-- Something else stands where a text has to be. -/
  | notAText (kind : Json.Kind)
  /-- Something that has no items stands where a pair has to be. -/
  | notAPair (kind : Json.Kind)
  /-- Where a pair has to be, there are more or fewer items. -/
  | miscounted (count : Nat)
  /-- Nothing is left of the argument that has to be a path. -/
  | notAPath
  | endOfInput
  deriving DecidableEq, Repr

/-- How it is told that keys were asked of something that has none. -/
def Mishap.keyMessage : Json.Kind → String
  | .array => "list indices must be integers or slices, not str"
  | .string => "string indices must be integers, not 'str'"
  | kind => s!"'{kind.word}' object is not subscriptable"

def Mishap.message : Mishap → String
  | .badValue message | .defect message | .undecodable message => message
  | .unreadableJson found => found.message
  | .invalid subject issues => Issue.report subject issues
  | .missingKey key => Text.quoted key
  | .missingPosition position => toString position
  | .notKeyed kind => keyMessage kind
  | .notOrdered kind => s!"'{kind.word}' object is not subscriptable"
  | .notCounted kind => s!"object of type '{kind.word}' has no len()"
  | .notIterable kind => s!"'{kind.word}' object is not iterable"
  | .notAnObject kind => s!"'{kind.word}' object has no attribute 'get'"
  | .notAText kind => s!"'{kind.word}' object has no attribute 'replace'"
  | .notAPair kind => s!"cannot unpack non-iterable {kind.word} object"
  | .miscounted count =>
    if 2 < count then "too many values to unpack (expected 2)"
    else s!"not enough values to unpack (expected 2, got {count})"
  | .notAPath => "expected str, bytes or os.PathLike object, not list"
  | .endOfInput => "EOF when reading a line"

/-- A mishap that lies in a value which was given. -/
def Mishap.isBadValue : Mishap → Bool
  | .badValue _ | .undecodable _ | .invalid .. | .miscounted _ => true
  | .unreadableJson .malformed | .unreadableJson (.longNumber _) => true
  | _ => false

inductive Reason
  | provider (error : ProviderError)
  | storage (error : StorageError)
  | mishap (mishap : Mishap)
  deriving DecidableEq, Repr

def Reason.message : Reason → String
  | .provider e => e.message
  | .storage e => e.message
  | .mishap m => m.message

inductive Failure
  /-- An error was raised. Its reason comes with what led to it, from the nearest cause to the
  first. -/
  | raised (reason : Reason) (causes : List Reason)
  /-- The operation never ends, so that nothing comes after it. -/
  | endless
  deriving DecidableEq, Repr

namespace Failure

def message : Failure → String
  | .raised reason _ => reason.message
  | .endless => "the answers do not come to an end"

def ofProvider (error : ProviderError) : Failure := .raised (.provider error) []
def ofStorage (error : StorageError) : Failure := .raised (.storage error) []
def ofMishap (mishap : Mishap) : Failure := .raised (.mishap mishap) []

def invalid (subject : Subject) (issues : List Issue) : Failure :=
  ofMishap (.invalid subject issues)

/-- A path that is none is a bad value; all else is the file system's refusal. -/
def ofDisk (fault : Disk.Fault) : Failure :=
  if fault.refusal = .nullCharacter then ofMishap (.badValue fault.message)
  else ofProvider (.disk fault)

theorem ofDisk_ne_endless (fault : Disk.Fault) : ofDisk fault ≠ .endless := by
  rw [ofDisk]
  split <;> nofun

/-- The storage error that takes the place of `failure`, with `failure` as its cause. -/
def wrap (error : StorageError) : Failure → Failure
  | .raised reason causes => .raised (.storage error) (reason :: causes)
  | .endless => .endless

def isRaised (failure : Failure) : Bool := failure matches .raised ..
def isProvider (failure : Failure) : Bool := failure matches .raised (.provider _) _
def isStorage (failure : Failure) : Bool := failure matches .raised (.storage _) _

theorem isRaised_of_isProvider {failure : Failure} (provider : failure.isProvider = true) :
    failure.isRaised = true := by
  cases failure with
  | raised => rfl
  | endless => cases provider

theorem eq_endless_of_not_isRaised {failure : Failure} (unraised : failure.isRaised = false) :
    failure = .endless := by
  cases failure with
  | raised => cases unraised
  | endless => rfl

/-- The drive does not know what was asked for. -/
def isNotFound : Failure → Bool
  | .raised (.provider e) _ => e.status? == some 404
  | _ => false

section
variable (error : StorageError) (failure : Failure)

theorem isRaised_wrap : (failure.wrap error).isRaised = failure.isRaised := by
  cases failure <;> rfl

theorem wrap_ne_endless {failure : Failure} (ended : failure ≠ .endless) (error : StorageError) :
    failure.wrap error ≠ .endless := by
  cases failure with
  | raised => nofun
  | endless => exact absurd rfl ended

theorem isProvider_wrap : (failure.wrap error).isProvider = false := by
  cases failure <;> rfl

theorem isStorage_wrap : (failure.wrap error).isStorage = failure.isRaised := by
  cases failure <;> rfl

theorem wrap_eq_raised {error : StorageError} {failure : Failure}
    (storage : (failure.wrap error).isStorage = true) :
    ∃ causes, failure.wrap error = .raised (.storage error) causes := by
  cases failure with
  | raised reason causes => exact ⟨reason :: causes, rfl⟩
  | endless => cases storage

theorem isNotFound_wrap : (failure.wrap error).isNotFound = false := by
  cases failure <;> rfl

end

def isBadValue : Failure → Bool
  | .raised (.mishap m) _ => m.isBadValue
  | _ => false

end Failure

end DriveDepot
