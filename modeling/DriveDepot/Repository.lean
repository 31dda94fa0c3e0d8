import DriveDepot.FolderPath
import DriveDepot.Folders
import DriveDepot.RemoteFile
import DriveDepot.Search

namespace DriveDepot.Repository

open Operation

/-- Obtains the credential and the service of a client. -/
def openClient (client : Client) (refreshToken : String) : Operation Unit :=
  onAnyError
    (do
      let _ ← perform (.credentials client refreshToken) (pure .null)
      let _ ← perform .build (pure .null))
    fun failure => do
      error s!"Failed to initialize Google Drive client. Error: {failure.message}"
      throw failure

/-- The name of an account; null if it has none. -/
def accountName (account : Json) : Except Mishap Json := do
  return (← account.optional "name").getD .null

/-- Renews the credential and asks for the account. -/
def connect : Operation Unit := do
  let account ← onProviderError
    (do
      let _ ← perform .refresh (pure .null)
      request .account)
    fun failure => do
      error <| "Unable to connect to Google Drive. The refresh token may be expired or revoked. " ++
        s!"Error: {failure.message}"
      throw (failure.wrap .cannotConnect)
  info s!"Using Google Drive account from {← ofMishap (accountName account)}"

/-- Nothing is held beyond the credential. -/
def disconnect : Operation Unit := pure ()

def folderFor (category : Category) : Operation Json := return (← layout).folderFor category

/-- The files of a name, or all files, in the folder of an id. Only a text can be searched for. -/
def filesIn (folder : Json) (name : Option String) : Operation (List FoundFile) := do
  Search.files (some (← ofMishap folder.text)) name

/-- The one file of a name in the folder of an id. -/
def oneFileIn (folder : Json) (name : String) : Operation FoundFile := do
  Search.oneFile (some (← ofMishap folder.text)) name

/-- Puts a new file with this content into a folder. The answer tells its id. -/
def insertFile (title : String) (folder : Json) (content : Bytes) : Operation Json :=
  request (.insertFile title folder content)

/-- Whether the drive confirms the new title. -/
def rename (file : Json) (title : String) : Operation Bool := do
  return !(← request (.rename file title)).isNothing

def delete (file : Json) : Operation Unit := do
  let _ ← request (.delete file)

end DriveDepot.Repository
