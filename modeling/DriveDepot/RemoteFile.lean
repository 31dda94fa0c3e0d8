import DriveDepot.Issue
import DriveDepot.Json
import DriveDepot.NamePattern

namespace DriveDepot

structure RemoteFile where
  category : Category
  name : String
  accepted : category.accepts name = true
  deriving DecidableEq, Repr

namespace RemoteFile

/-- A category and a name as a report tells them, whether they go together or not. -/
def given (category : Category) (name : String) : Given :=
  let member := String.ofList (category.word.toList.map Char.toUpper)
  let categoryText := s!"<RemoteFileCategory.{member}: {Text.quoted category.word}>"
  let text := s!"\x7b'category': {categoryText}, 'name': {Text.quoted name}\x7d"
  ⟨text.toList, .object⟩

/-- Why a category refuses a name. -/
def refusal (category : Category) (name : String) : Issue :=
  .ofWhole (.refused s!"'{name}' is not a valid name for a {category.word} file")
    (given category name)

def make (category : Category) (name : String) : Except (List Issue) RemoteFile :=
  if h : category.accepts name = true then .ok ⟨category, name, h⟩
  else .error [refusal category name]

def marker : RemoteFile := ⟨.repositoryMarker, Category.markerName, by decide +kernel⟩

def categoryOfJson (value : Json) : Except (List Issue) Category :=
  match value.text?.bind Category.ofWord? with
  | some category => .ok category
  | none => .error [.atField "category" .unknownCategory (.ofJson value)]

def nameOfJson (value : Json) : Except (List Issue) String :=
  value.checkedText.mapError fun complaint => [.atField "name" complaint (.ofJson value)]

/-- Both fields are checked before the name is held against the category's pattern. -/
def ofJson (category name : Json) : Except (List Issue) RemoteFile :=
  match categoryOfJson category, nameOfJson name with
  | .ok category, .ok name => make category name
  | .error first, .error second => .error (first ++ second)
  | .error issues, _ | _, .error issues => .error issues

end RemoteFile

end DriveDepot
