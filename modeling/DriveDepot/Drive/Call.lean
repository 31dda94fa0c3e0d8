import DriveDepot.Drive

namespace DriveDepot

inductive CallKind
  | credentials
  | build
  | refresh
  | account
  | list
  | insert
  | rename
  | delete
  | removeParent
  | addParent
  | openMedia
  | nextChunk
  | openFlow
  | authorizationUrl
  | fetchToken
  deriving DecidableEq, Repr

namespace CallKind

def all : List CallKind :=
  [.credentials, .build, .refresh, .account, .list, .insert, .rename, .delete, .removeParent,
   .addParent, .openMedia, .nextChunk, .openFlow, .authorizationUrl, .fetchToken]

def name : CallKind → String
  | .credentials => "credentials"
  | .build => "build"
  | .refresh => "credentials.refresh"
  | .account => "about.get"
  | .list => "files.list"
  | .insert => "files.insert"
  | .rename => "files.patch"
  | .delete => "files.delete"
  | .removeParent => "parents.delete"
  | .addParent => "parents.insert"
  | .openMedia => "files.get_media"
  | .nextChunk => "media.next_chunk"
  | .openFlow => "flow"
  | .authorizationUrl => "authorization_url"
  | .fetchToken => "fetch_token"

def ofName? (name : String) : Option CallKind := all.find? (·.name = name)

theorem mem_all (kind : CallKind) : kind ∈ all := by cases kind <;> decide

end CallKind

structure Client where
  id : String
  secret : String
  deriving DecidableEq, Repr

inductive Request
  | account
  | listFiles (query : String) (pageToken : Json)
  | listFolders (query : String)
  /-- A folder without a parent has null for it. -/
  | insertFolder (title : String) (parent : Json)
  | insertFile (title : String) (folder : Json) (content : Bytes)
  | rename (file : Json) (title : String)
  | delete (file : Json)
  | removeParent (file parent : String)
  | addParent (file parent : String)

inductive Call
  | credentials (client : Client) (refreshToken : String)
  | build
  | refresh
  | drive (request : Request)
  | openMedia (file : String)
  | nextChunk
  | openFlow (client : Client)
  | authorizationUrl
  | fetchToken (code : String)

namespace Request

def kind : Request → CallKind
  | .account => .account
  | .listFiles .. | .listFolders _ => .list
  | .insertFolder .. | .insertFile .. => .insert
  | .rename .. => .rename
  | .delete _ => .delete
  | .removeParent .. => .removeParent
  | .addParent .. => .addParent

def fileFields : String := "nextPageToken, items(id, title, parents(id), downloadUrl)"
def folderFields : String := "items(id, title)"
def fileDescription : String := "Syncany Google Drive Repository file"

/-- The list of the one parent that a new file has. -/
def parentList (parent : Json) : Json := .array [.object [("id", parent)]]

/-- The parent of a new folder, if it has one. -/
def parentOf? : Json → Option Json
  | .null => none
  | parent => some parent

def arguments : Request → List (String × Json)
  | .account => []
  | .listFiles query pageToken =>
    [("q", .string query), ("pageToken", pageToken), ("fields", .string fileFields)]
  | .listFolders query => [("q", .string query), ("fields", .string folderFields)]
  | .insertFolder title parent =>
    let named := [("title", Json.string title), ("mimeType", .string Query.folderMimeType)]
    let placed := (parentOf? parent).toList.map fun folder => ("parents", parentList folder)
    [("body", .object (named ++ placed)), ("fields", .string "id")]
  | .insertFile title folder content =>
    let body : Json := .object
      [("title", .string title), ("description", .string fileDescription),
       ("mimeType", .string Drive.contentType), ("parents", parentList folder)]
    let media : Json := .object
      [("mimetype", .string Drive.contentType), ("resumable", .bool true),
       ("size", .integer content.length)]
    [("body", body), ("fields", .string "id"), ("media", media)]
  | .rename file title =>
    [("fileId", file), ("body", .object [("title", .string title)]),
     ("fields", .string "title")]
  | .delete file => [("fileId", file)]
  | .removeParent file parent => [("fileId", .string file), ("parentId", .string parent)]
  | .addParent file parent =>
    [("fileId", .string file), ("body", .object [("id", .string parent)])]

end Request

/-- What the drive answers to a request, and the drive afterwards. -/
def Drive.answer (drive : Drive) : Request → Except ProviderError (Json × Drive)
  | .account => .ok (drive.account, drive)
  | .listFiles query pageToken => return (← drive.list query pageToken, drive)
  | .listFolders query => return (← drive.list query .null, drive)
  | .insertFolder title parent =>
    drive.insert title Query.folderMimeType (Request.parentOf? parent).toList []
  | .insertFile title folder content => drive.insert title Drive.contentType [folder] content
  | .rename file title => drive.rename file title
  | .delete file => drive.delete file
  | .removeParent file parent => drive.removeParent file parent
  | .addParent file parent => drive.addParent file parent

namespace Call

def kind : Call → CallKind
  | .credentials .. => .credentials
  | .build => .build
  | .refresh => .refresh
  | .drive request => request.kind
  | .openMedia _ => .openMedia
  | .nextChunk => .nextChunk
  | .openFlow _ => .openFlow
  | .authorizationUrl => .authorizationUrl
  | .fetchToken _ => .fetchToken

def scopes : Json := .array [.string "https://www.googleapis.com/auth/drive"]
def tokenUri : Json := .string "https://oauth2.googleapis.com/token"
def redirectUri : Json := .string "urn:ietf:wg:oauth:2.0:oob"

/-- The description of a client that an authorization begins with. -/
def clientConfig (client : Client) : Json :=
  .object [("installed", .object
    [("client_id", .string client.id), ("client_secret", .string client.secret),
     ("auth_uri", .string "https://accounts.google.com/o/oauth2/auth"), ("token_uri", tokenUri),
     ("redirect_uris", .array [redirectUri])])]

def arguments : Call → Json
  | .credentials client refreshToken => .object
    [("token", .null), ("refresh_token", .string refreshToken), ("token_uri", tokenUri),
     ("client_id", .string client.id), ("client_secret", .string client.secret),
     ("scopes", scopes)]
  | .build => .object
    [("name", .string "drive"), ("version", .string "v2"), ("cache_discovery", .bool false)]
  | .refresh | .nextChunk => .object []
  | .drive request => .object request.arguments
  | .openMedia file => .object [("fileId", .string file)]
  | .openFlow client => .object
    [("config", clientConfig client), ("scopes", scopes), ("redirect_uri", redirectUri)]
  | .authorizationUrl => .object
    [("access_type", .string "offline"), ("prompt", .string "consent")]
  | .fetchToken code => .object [("code", .string code)]

end Call

end DriveDepot
