import DriveDepot.Category
import DriveDepot.Issue
import DriveDepot.Json.Writer

/-!
The layout of a repository: the ids of its folders on the drive. The five category folders lie in
the root folder; whatever belongs to none of them lies in the root folder itself. An id is what the
drive told for it: a text, or null while it is not known. Whatever else the drive tells in the place
of an id is kept as well.
-/

namespace DriveDepot

inductive Slot
  | content
  | metadata
  | actions
  | transactions
  | temporary
  deriving DecidableEq, Repr

namespace Slot

/-- The folders in the order in which they are made. -/
def all : List Slot := [.content, .metadata, .actions, .transactions, .temporary]

theorem mem_all (slot : Slot) : slot ∈ all := by cases slot <;> decide

/-- The title of the folder on the drive. -/
def title : Slot → String
  | .content => "multichunks"
  | .metadata => "databases"
  | .actions => "actions"
  | .transactions => "transactions"
  | .temporary => "temporary"

end Slot

/-- The folder that files of a category lie in; without one it is the root folder. -/
def Category.slot? : Category → Option Slot
  | .content => some .content
  | .metadataDb | .cleanup => some .metadata
  | .action => some .actions
  | .transaction => some .transactions
  | .temp => some .temporary
  | .repositoryMarker | .generic => none

structure Layout where
  rootPath : String
  rootId : Json
  contentId : Json
  metadataId : Json
  actionsId : Json
  transactionsId : Json
  temporaryId : Json
  /-- Set once all ids are known. -/
  complete : Bool

namespace Layout

def fresh (rootPath : String) : Layout :=
  ⟨rootPath, .null, .null, .null, .null, .null, .null, false⟩

def slotId (layout : Layout) : Slot → Json
  | .content => layout.contentId
  | .metadata => layout.metadataId
  | .actions => layout.actionsId
  | .transactions => layout.transactionsId
  | .temporary => layout.temporaryId

def setSlot (layout : Layout) (slot : Slot) (id : Json) : Layout :=
  match slot with
  | .content => { layout with contentId := id }
  | .metadata => { layout with metadataId := id }
  | .actions => { layout with actionsId := id }
  | .transactions => { layout with transactionsId := id }
  | .temporary => { layout with temporaryId := id }

theorem slotId_setSlot (layout : Layout) (slot : Slot) (id : Json) :
    (layout.setSlot slot id).slotId slot = id := by cases slot <;> rfl

theorem slotId_setSlot_of_ne (layout : Layout) {slot other : Slot} (h : other ≠ slot)
    (id : Json) : (layout.setSlot slot id).slotId other = layout.slotId other := by
  cases slot <;> cases other <;> first | rfl | exact absurd rfl h

/-- The id of the folder that files of a category lie in. One that is not known is empty, and the
drive knows no folder of that id. -/
def folderFor (layout : Layout) (category : Category) : Json :=
  let id := match category.slot? with
    | some slot => layout.slotId slot
    | none => layout.rootId
  if id.isNothing then .string "" else id

/-- The fields under the names that the layout file has for them. -/
def fields (layout : Layout) : List (String × Json) :=
  [("root_path", .string layout.rootPath), ("root_id", layout.rootId),
   ("content_id", layout.contentId), ("metadata_id", layout.metadataId),
   ("actions_id", layout.actionsId), ("transactions_id", layout.transactionsId),
   ("temp_id", layout.temporaryId), ("setup_complete", .bool layout.complete)]

/-- The text of the layout file. -/
def text (layout : Layout) : String :=
  String.ofList (Json.Writer.lines 0 (.object layout.fields))

/-- The words for true and for false. -/
def trueWords : List String := ["1", "on", "t", "true", "y", "yes"]
def falseWords : List String := ["0", "off", "f", "false", "n", "no"]

/-- Numbers from `-2 ^ 63` to `2 ^ 63 - 1` are held against the truth values. -/
def flagLimit : Int := Nat.pow 2 63

/-- Zero and one stand for false and true, as whole numbers and as doubles. Other whole numbers of
64 bits are no truth values that are known; all other numbers are no truth values at all. The least
of these numbers is not one as a double. -/
def flagOfNumber : Json → Option Int
  | .integer n => if -flagLimit ≤ n ∧ n < flagLimit then some n else none
  | .double d => d.toInt?.filter fun n => -flagLimit < n ∧ n < flagLimit
  | _ => none

/-- Truth values may be given as numbers and as words, in any case of the letters. -/
def flagOfJson : Json → Except Complaint Bool
  | .bool b => .ok b
  | .string s =>
    let w := String.ofList (s.toList.map Char.toLower)
    if trueWords.contains w then .ok true
    else if falseWords.contains w then .ok false
    else .error .unreadableBoolean
  | .halved _ => .error .notUnicode
  | value =>
    match flagOfNumber value with
    | some n =>
      if n = 0 then .ok false else if n = 1 then .ok true else .error .unreadableBoolean
    | none => .error .notABoolean

def rootPathOfJson : Option Json → Except Complaint String
  | none => .error .missing
  | some value => value.checkedText

/-- An id that is given has to be a text or null. -/
def idOfJson : Option Json → Except Complaint Json
  | none | some .null => .ok .null
  | some value => .string <$> value.checkedText

def completeOfJson : Option Json → Except Complaint Bool
  | none => .ok false
  | some value => flagOfJson value

/-- The complaint about a field, if there is one. -/
def issue (found : List (String × Json)) (field : String) : Except Complaint α → List Issue
  | .ok _ => []
  | .error complaint =>
    [.atField field complaint (.ofJson ((found.lookup field).getD (.object found)))]

/-- All fields are checked; fields of other names do not matter. -/
def ofFields (found : List (String × Json)) : Except (List Issue) Layout :=
  let id (field : String) := idOfJson (found.lookup field)
  let rootPath := rootPathOfJson (found.lookup "root_path")
  let complete := completeOfJson (found.lookup "setup_complete")
  match rootPath, id "root_id", id "content_id", id "metadata_id", id "actions_id",
      id "transactions_id", id "temp_id", complete with
  | .ok rootPath, .ok rootId, .ok contentId, .ok metadataId, .ok actionsId, .ok transactionsId,
      .ok temporaryId, .ok complete =>
    .ok ⟨rootPath, rootId, contentId, metadataId, actionsId, transactionsId, temporaryId, complete⟩
  | _, _, _, _, _, _, _, _ =>
    .error <| issue found "root_path" rootPath ++
      ["root_id", "content_id", "metadata_id", "actions_id", "transactions_id", "temp_id"].flatMap
        (fun field => issue found field (id field)) ++
      issue found "setup_complete" complete

def ofJson : Json → Except (List Issue) Layout
  | .object found => ofFields found
  | value => .error [.ofWhole .notALayout (.ofJson value)]

end Layout

end DriveDepot
