import DriveDepot.Double
import DriveDepot.Text

/-!
JSON values, the form in which the drive answers and in which the layout is kept. Whole numbers are
kept as they are; numbers written with a fraction or an exponent are doubles.
-/

namespace DriveDepot

inductive Json
  | null
  | bool (b : Bool)
  | integer (n : Int)
  | double (d : Double)
  | string (s : String)
  /-- The code points of what would be a text, did not half of a pair of code units stand by itself
  in it. -/
  | halved (codes : List Nat)
  | array (items : List Json)
  /-- Each key once, in the order of their first mention. -/
  | object (fields : List (String × Json))

namespace Json

inductive Kind
  | null
  | bool
  | integer
  | double
  | string
  | array
  | object
  deriving DecidableEq, Repr

/-- How a kind is called in a message. -/
def Kind.word : Kind → String
  | .null => "NoneType"
  | .bool => "bool"
  | .integer => "int"
  | .double => "float"
  | .string => "str"
  | .array => "list"
  | .object => "dict"

def kind : Json → Kind
  | .null => .null
  | .bool _ => .bool
  | .integer _ => .integer
  | .double _ => .double
  | .string _ | .halved _ => .string
  | .array _ => .array
  | .object _ => .object

/-- The text that a value is, if it is one. -/
def text? : Json → Option String
  | .string s => some s
  | _ => none

/-- The value that code points make up. -/
def ofCodes (codes : List Nat) : Json :=
  if codes.all Text.isCharacter then .string (Text.ofCodes codes) else .halved codes

/-- Sets a field in place, or adds it at the end. -/
def setField (key : String) (value : Json) : List (String × Json) → List (String × Json)
  | [] => [(key, value)]
  | (k, v) :: rest => if k = key then (key, value) :: rest else (k, v) :: setField key value rest

/-- Null, false, zero and whatever is empty count as nothing. -/
def isNothing : Json → Bool
  | null => true
  | bool b => !b
  | integer n => n == 0
  | double d => d.isZero
  | string s => s.isEmpty
  | halved codes => codes.isEmpty
  | array items => items.isEmpty
  | object fields => fields.isEmpty

end Json

inductive Json.Defect
  | malformed
  /-- A whole number has more digits than are read. -/
  | longNumber (digits : Nat)
  /-- Brackets lie deeper in each other than they are read. -/
  | deepArray
  | deepObject
  deriving DecidableEq, Repr

/-- How many digits of a whole number are read. -/
def Json.digitLimit : Nat := 4300

def Json.Defect.message : Json.Defect → String
  | .malformed => "the text is not JSON"
  | .longNumber digits =>
    s!"Exceeds the limit ({Json.digitLimit} digits) for integer string conversion: " ++
      s!"value has {digits} digits; use sys.set_int_max_str_digits() to increase the limit"
  | .deepArray =>
    "maximum recursion depth exceeded while decoding a JSON array from a unicode string"
  | .deepObject =>
    "maximum recursion depth exceeded while decoding a JSON object from a unicode string"

end DriveDepot
