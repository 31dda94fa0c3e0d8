/-!
A folder path names folders from the outermost to the innermost, with slashes between the titles.
A slash inside a title is written with a backslash before it; any other backslash is an ordinary
character. Empty titles are skipped.
-/

namespace DriveDepot.FolderPath

/-- Ends the segment whose characters, latest first, are `current`; an empty one is skipped. -/
def close (current : List Char) (later : List (List Char)) : List (List Char) :=
  if current.isEmpty then later else current.reverse :: later

/-- The segments of a path that is read from the middle of a segment on. -/
def scan (current : List Char) : List Char → List (List Char)
  | [] => close current []
  | '\\' :: '/' :: rest => scan ('/' :: current) rest
  | '/' :: rest => close current (scan [] rest)
  | c :: rest => scan (c :: current) rest

def segments (path : String) : List String := (scan [] path.toList).map String.ofList

/-- A title as it is written inside a path. -/
def escape (title : List Char) : List Char :=
  title.flatMap fun c => if c = '/' then ['\\', '/'] else [c]

/-- The path that leads through the folders of these titles. -/
def join (titles : List String) : String :=
  String.ofList (['/'].intercalate (titles.map fun title => escape title.toList))

end DriveDepot.FolderPath
