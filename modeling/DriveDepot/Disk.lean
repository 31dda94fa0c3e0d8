import DriveDepot.LocalPath
import DriveDepot.Text.Quoted
import DriveDepot.Text.Utf8

/-!
The local file system: directories and regular files under absolute places, a working directory,
and at most one temporary file, which is kept apart until it either replaces a file or is dropped.
-/

namespace DriveDepot

/-- The names on the way from the root. -/
abbrev Place := List String

inductive Node
  | directory
  | file (content : Bytes)
  deriving DecidableEq, Repr

def Node.isFile : Node → Bool
  | .file _ => true
  | .directory => false

/-- What is done with a directory (a name is looked up in it, a file is put into it or taken out)
or with a file. -/
inductive Disk.Access
  | search
  | add
  | remove
  | read
  | write
  | append
  | replace
  deriving DecidableEq, Repr

/-- Why an access is refused although all that it needs is there. -/
inductive Disk.Obstacle
  | denied
  | notPermitted
  | readOnly
  | full
  | faulty
  deriving DecidableEq, Repr

structure Disk.Barrier where
  place : Place
  access : Disk.Access
  obstacle : Disk.Obstacle
  deriving DecidableEq, Repr

inductive Disk.Refusal
  | missing
  | isDirectory
  | notDirectory
  | nameTooLong
  | busy
  /-- A path with the null character in it is no path. -/
  | nullCharacter
  | barred (obstacle : Disk.Obstacle)
  deriving DecidableEq, Repr

structure Disk.Fault where
  refusal : Disk.Refusal
  path : String
  /-- The path that was to be replaced, where there are two. -/
  replaced : Option String
  deriving DecidableEq, Repr

/-- A file that is being written under a temporary name. -/
structure Disk.Scratch where
  place : Place
  content : Bytes
  deriving DecidableEq, Repr

structure Disk where
  /-- Each place once. The root is a directory without an entry. -/
  entries : List (Place × Node)
  scratch : Option Disk.Scratch
  /-- What may not be done, and where. This does not change. -/
  barriers : List Disk.Barrier
  deriving DecidableEq, Repr

namespace Disk

def Obstacle.description : Obstacle → String
  | .denied => "[Errno 13] Permission denied"
  | .notPermitted => "[Errno 1] Operation not permitted"
  | .readOnly => "[Errno 30] Read-only file system"
  | .full => "[Errno 28] No space left on device"
  | .faulty => "[Errno 5] Input/output error"

def Refusal.description : Refusal → String
  | .missing => "[Errno 2] No such file or directory"
  | .isDirectory => "[Errno 21] Is a directory"
  | .notDirectory => "[Errno 20] Not a directory"
  | .nameTooLong => "[Errno 36] File name too long"
  | .busy => "[Errno 16] Device or resource busy"
  | .nullCharacter => "embedded null byte"
  | .barred obstacle => obstacle.description

def Fault.message (fault : Fault) : String :=
  match fault.refusal with
  | .nullCharacter => fault.refusal.description
  | refusal =>
    let replaced := match fault.replaced with
      | some path => s!" -> {Text.quoted path}"
      | none => ""
    s!"{refusal.description}: {Text.quoted fault.path}{replaced}"

def workingDirectory : Place := ["local"]
def temporaryDirectory : Place := ["tmp"]

def empty : Disk := ⟨[(workingDirectory, .directory), (temporaryDirectory, .directory)], none, []⟩

def node? (disk : Disk) (place : Place) : Option Node :=
  if place = [] then some .directory else disk.entries.lookup place

/-- Puts a node at a place, in place of the one that is there. -/
def setEntry (place : Place) (node : Node) : List (Place × Node) → List (Place × Node)
  | [] => [(place, node)]
  | (p, n) :: rest =>
    if p = place then (place, node) :: rest else (p, n) :: setEntry place node rest

def set (disk : Disk) (place : Place) (node : Node) : Disk :=
  { disk with entries := setEntry place node disk.entries }

/-- What stands in the way of an access to a place. -/
def obstacle? (disk : Disk) (access : Access) (place : Place) : Option Obstacle :=
  (disk.barriers.find? fun b => b.access = access ∧ b.place = place).map (·.obstacle)

def pass (disk : Disk) (access : Access) (place : Place) : Except Refusal Unit :=
  match disk.obstacle? access place with
  | some obstacle => .error (.barred obstacle)
  | none => .ok ()

/-- A name has at most 255 bytes. -/
def tooLong (name : String) : Bool := name.utf8ByteSize > 255

/-- The place that the parts lead to from a directory. All of them but the last have to be
directories, the last need not exist. Each is looked up in the directory before it. -/
def walk (disk : Disk) (start : Place) : List String → Except Refusal Place
  | [] => .ok start
  | name :: rest =>
    match disk.obstacle? .search start with
    | some obstacle => .error (.barred obstacle)
    | none =>
      if name = ".." then walk disk start.dropLast rest
      else if tooLong name then .error .nameTooLong
      else if rest = [] then .ok (start ++ [name])
      else match disk.node? (start ++ [name]) with
        | none => .error .missing
        | some (.file _) => .error .notDirectory
        | some .directory => walk disk (start ++ [name]) rest

def start (path : LocalPath) : Place := if path.root = .none then workingDirectory else []

/-- A path has at most 4095 bytes. -/
def pathLimit : Nat := 4095

/-- What makes a text no path, whatever is on the disk. -/
def refusal? (path : LocalPath) : Option Refusal :=
  if path.toString.toList.contains '\x00' then some .nullCharacter
  else if pathLimit < path.toString.utf8ByteSize then some .nameTooLong
  else none

def locate (disk : Disk) (path : LocalPath) : Except Refusal Place :=
  match refusal? path with
  | some refusal => .error refusal
  | none => disk.walk (start path) path.parts

/-- Opens what is at a place to read it. -/
def contentAt (disk : Disk) (place : Place) : Except Refusal Bytes :=
  match disk.node? place with
  | none => .error .missing
  | some .directory => do
    disk.pass .read place
    .error .isDirectory
  | some (.file content) => do
    disk.pass .read place
    return content

def readAt (disk : Disk) (path : LocalPath) : Except Refusal Bytes := do
  disk.contentAt (← disk.locate path)

/-- Opens a file to write to it, or puts a new one into the directory. -/
def openAt (disk : Disk) (access : Access) (place : Place) : Except Refusal Unit :=
  match disk.node? place with
  | none => disk.pass .add place.dropLast
  | some .directory => .error .isDirectory
  | some (.file _) => disk.pass access place

def writeAt (disk : Disk) (path : LocalPath) (content : Bytes) : Except Refusal Disk := do
  let place ← disk.locate path
  disk.openAt .write place
  return disk.set place (.file content)

/-- Names the path in the refusal. -/
def naming (path : String) (result : Except Refusal α) : Except Fault α :=
  result.mapError (⟨·, path, none⟩)

def read (disk : Disk) (path : LocalPath) : Except Fault Bytes :=
  naming path.toString (disk.readAt path)

def write (disk : Disk) (path : LocalPath) (content : Bytes) : Except Fault Disk :=
  naming path.toString (disk.writeAt path content)

/-- Whether a path that is refused so leads to nothing. -/
def Refusal.leadsNowhere : Refusal → Bool
  | .missing | .notDirectory | .nullCharacter => true
  | _ => false

/-- Whether a regular file is there. A path that leads to nothing leads to no file; that a name or
a path is too long, or that a directory may not be searched, is an error. -/
def isFile (disk : Disk) (path : LocalPath) : Except Fault Bool :=
  match disk.locate path with
  | .ok place => .ok ((disk.node? place).any (·.isFile))
  | .error refusal =>
    if refusal.leadsNowhere then .ok false else naming path.toString (.error refusal)

/-- Takes `..` out of the names on the way from the root, each with the name before it. -/
def simplify (names : List String) : Place :=
  names.foldl (fun place name => if name = ".." then place.dropLast else place ++ [name]) []

/-- The path from the root, with `..` taken out. -/
def absolute (path : LocalPath) : LocalPath where
  root := if path.root = .none then .slash else path.root
  parts := simplify (start path ++ path.parts)

/-- Opens a file to write at its end, and creates it if it is missing. It is found from the root,
so that a part before `..` need not exist. -/
def touch (disk : Disk) (path : LocalPath) : Except Fault Disk :=
  naming (absolute path).toString do
    let place ← disk.locate (absolute path)
    disk.openAt .append place
    return if (disk.node? place).isSome then disk else disk.set place (.file [])

/-- Puts a directory at each place on the way. -/
def makeDirectories (disk : Disk) (start : Place) : List String → Disk
  | [] => disk
  | name :: rest =>
    let place := start ++ [name]
    let disk := if (disk.node? place).isSome then disk else disk.set place .directory
    disk.makeDirectories place rest

/-- Puts a file, or a directory, and the directories above it. -/
def plant (disk : Disk) (path : LocalPath) (node : Node) : Disk :=
  let place := start path ++ path.parts
  let disk := disk.makeDirectories [] place.dropLast
  match node with
  | .directory => disk.makeDirectories [] place
  | .file content => disk.set place (.file content)

/-- The regular files in and below the working directory, with their paths from there. -/
def files (disk : Disk) : List (String × Bytes) :=
  disk.entries.filterMap fun (place, node) =>
    match workingDirectory.isPrefixOf? place, node with
    | some names, .file content => some ("/".intercalate names, content)
    | _, _ => none

end Disk

end DriveDepot
