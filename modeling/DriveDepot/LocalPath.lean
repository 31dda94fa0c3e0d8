/-!
Paths in the local file system. Repeated slashes and `.` parts mean nothing and are left out, `..`
stays, and exactly two slashes in front are a root of their own.
-/

namespace DriveDepot

inductive LocalPath.Root
  | none
  | slash
  | doubleSlash
  deriving DecidableEq, Repr

structure LocalPath where
  root : LocalPath.Root
  parts : List String
  deriving DecidableEq, Repr

namespace LocalPath

def Root.ofLeadingSlashes : Nat → Root
  | 0 => .none
  | 2 => .doubleSlash
  | _ => .slash

def Root.text : Root → String
  | .none => ""
  | .slash => "/"
  | .doubleSlash => "//"

/-- Splits at every slash. -/
def pieces : List Char → List (List Char)
  | [] => [[]]
  | c :: rest =>
    if c = '/' then [] :: pieces rest
    else match pieces rest with
      | [] => [[c]]
      | piece :: others => (c :: piece) :: others

def ofString (text : String) : LocalPath where
  root := .ofLeadingSlashes (text.toList.takeWhile (· = '/')).length
  parts := ((pieces text.toList).filter fun piece => piece ≠ [] ∧ piece ≠ ['.']).map String.ofList

/-- The empty relative path is written `.`. -/
def toString (path : LocalPath) : String :=
  if path.root = .none ∧ path.parts = [] then "."
  else path.root.text ++ "/".intercalate path.parts

instance : ToString LocalPath := ⟨toString⟩

/-- The last part; a path without parts has the empty name. -/
def name (path : LocalPath) : String := path.parts.getLast?.getD ""

def parent (path : LocalPath) : LocalPath := { path with parts := path.parts.dropLast }

/-- The place of `other` as seen from `base`; one that has a root stays what it is. -/
def join (base other : LocalPath) : LocalPath :=
  if other.root = .none then { base with parts := base.parts ++ other.parts } else other

instance : Div LocalPath := ⟨join⟩

end LocalPath

end DriveDepot
