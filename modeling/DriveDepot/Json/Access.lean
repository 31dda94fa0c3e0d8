import DriveDepot.Failure
import DriveDepot.Json

namespace DriveDepot.Json

/-- The field that has to be there. -/
def required (key : String) : Json → Except Mishap Json
  | .object fields =>
    match fields.lookup key with
    | some value => .ok value
    | none => .error (.missingKey key)
  | other => .error (.notKeyed other.kind)

/-- The elements of a list, the characters of a text, or the keys of an object. -/
def elements? : Json → Option (List Json)
  | .array items => some items
  | .string s => some (s.toList.map fun c => .string c.toString)
  | .halved codes => some (codes.map fun code => ofCodes [code])
  | .object fields => some (fields.map fun (key, _) => .string key)
  | _ => none

def elements (value : Json) : Except Mishap (List Json) :=
  match value.elements? with
  | some items => .ok items
  | none => .error (.notIterable value.kind)

/-- The two elements of a pair. -/
def pair (value : Json) : Except Mishap (Json × Json) :=
  match value.elements? with
  | some [first, second] => .ok (first, second)
  | some items => .error (.miscounted items.length)
  | none => .error (.notAPair value.kind)

/-- The field, if it is there. -/
def optional (key : String) : Json → Except Mishap (Option Json)
  | .object fields => .ok (fields.lookup key)
  | other => .error (.notAnObject other.kind)

/-- The text that a value has to be. -/
def text : Json → Except Mishap String
  | .string s => .ok s
  | other => .error (.notAText other.kind)

/-- A text, if the value is not null. -/
def optionalText : Json → Except Mishap (Option String)
  | .null => .ok none
  | value => some <$> value.text

/-- How many elements a value has. -/
def count (value : Json) : Except Mishap Nat :=
  match value.elements? with
  | some items => .ok items.length
  | none => .error (.notCounted value.kind)

/-- The first element of a value that has some. -/
def first : Json → Except Mishap Json
  | .array (item :: _) => .ok item
  | .string s => .ok (.string (s.take 1).toString)
  | .halved (code :: _) => .ok (ofCodes [code])
  | .object _ => .error (.missingPosition 0)
  | other => .error (.notOrdered other.kind)

end DriveDepot.Json
