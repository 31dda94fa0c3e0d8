import DriveDepot.Operation
import DriveDepot.Json.Reader
import DriveDepot.Text

namespace DriveDepot.Layout

open Operation

/-- The layout that the bytes of a layout file hold. -/
def ofBytes (content : Bytes) : Except Mishap Layout :=
  match Text.Utf8.decode content with
  | .error fault => .error (.undecodable fault.message)
  | .ok text =>
    match Json.ofText (Text.unifyNewlines text.toList) with
    | .error defect => .error (.unreadableJson defect)
    | .ok value => (ofJson value).mapError (.invalid .layout)

def load (path : LocalPath) (rootPath : String) : Operation Layout := do
  let disk ← disk
  if !(← ofDisk (disk.isFile path)) then return fresh rootPath
  else
    let layout ← ofMishap (ofBytes (← ofDisk (disk.read path)))
    if layout.rootPath = rootPath then return layout
    else
      warn <| s!"Layout file {path} belongs to root path '{layout.rootPath}', " ++
        s!"not '{rootPath}'. Starting fresh."
      return fresh rootPath

def save (layout : Layout) (path : LocalPath) : Operation Unit := do
  setDisk (← ofDisk ((← disk).write path (Text.Utf8.encode layout.text)))

end DriveDepot.Layout
