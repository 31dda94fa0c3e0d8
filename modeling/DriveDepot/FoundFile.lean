import DriveDepot.Json.Access

namespace DriveDepot

structure FoundFile where
  id : String
  title : String
  parents : List String
  downloadUrl : Option String
  deriving DecidableEq, Repr

namespace FoundFile

/-- The ids that the parents of a file tell. -/
def parentIds : Option Json → Except Mishap (List Json)
  | none => .ok []
  | some parents => do (← parents.elements).mapM (Json.required "id")

def text (place : List Issue.Step) (value : Json) : Except (List Issue) String :=
  value.checkedText.mapError fun complaint => [⟨place, complaint, .ofJson value⟩]

@[simp] theorem text_string (place : List Issue.Step) (s : String) :
    text place (.string s) = .ok s := rfl

def optionalText (field : String) : Option Json → Except (List Issue) (Option String)
  | none | some .null => .ok none
  | some value => some <$> text [.field field] value

/-- The texts of a list, or the complaints about all its items. -/
def texts (field : String) : (position : Nat) → List Json → Except (List Issue) (List String)
  | _, [] => .ok []
  | position, item :: rest =>
    match text [.field field, .item position] item, texts field (position + 1) rest with
    | .ok first, .ok others => .ok (first :: others)
    | .error first, .error others => .error (first ++ others)
    | .error issues, _ | _, .error issues => .error issues

theorem texts_string (field : String) (position : Nat) (values : List String) :
    texts field position (values.map Json.string) = .ok values := by
  induction values generalizing position with
  | nil => rfl
  | cons value rest ih => simp [texts, ih]

def issues : Except (List Issue) α → List Issue
  | .ok _ => []
  | .error found => found

/-- Checks the values that an item of a listing gave. -/
def ofValues (id title : Json) (parents : List Json) (downloadUrl : Option Json) :
    Except Mishap FoundFile :=
  let id := text [.field "id"] id
  let title := text [.field "title"] title
  let parents := texts "parents" 0 parents
  let downloadUrl := optionalText "download_url" downloadUrl
  match id, title, parents, downloadUrl with
  | .ok id, .ok title, .ok parents, .ok downloadUrl => .ok ⟨id, title, parents, downloadUrl⟩
  | _, _, _, _ =>
    .error <| .invalid .foundFile <|
      issues id ++ issues title ++ issues parents ++ issues downloadUrl

def ofJson (item : Json) : Except Mishap FoundFile := do
  let id ← item.required "id"
  let title ← item.optional "title"
  let parents ← parentIds (← item.optional "parents")
  let downloadUrl ← item.optional "downloadUrl"
  ofValues id (title.getD (.string "")) parents downloadUrl

end FoundFile

end DriveDepot
