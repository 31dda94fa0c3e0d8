import DriveDepot.Double.Text
import DriveDepot.Json
import DriveDepot.Text.Quoted

namespace DriveDepot.Json

/-- In messages an exponent has at least two digits. -/
def toldNumbers : Double.Style := ⟨3, 2, "inf", "-inf", "nan"⟩

/-- The wording of a value without parts; nothing for the others. -/
def scalarWording : Json → List Char
  | .null => "None".toList
  | .bool true => "True".toList
  | .bool false => "False".toList
  | .integer n => (toString n).toList
  | .double d => d.text toldNumbers
  | .string s => (Text.quoted s).toList
  | .halved codes => (Text.quotedCodes codes).toList
  | .array _ | .object _ => []

mutual

/-- A value as a part of another one. -/
def wording : Json → List Char
  | .array items => '[' :: itemsWording items ++ [']']
  | .object fields => '\x7b' :: fieldsWording fields ++ ['\x7d']
  | scalar => scalarWording scalar

def itemsWording : List Json → List Char
  | [] => []
  | [item] => wording item
  | item :: rest => wording item ++ ',' :: ' ' :: itemsWording rest

def fieldsWording : List (String × Json) → List Char
  | [] => []
  | [(key, value)] => (Text.quoted key).toList ++ ':' :: ' ' :: wording value
  | (key, value) :: rest =>
    (Text.quoted key).toList ++ ':' :: ' ' :: wording value ++ ',' :: ' ' :: fieldsWording rest

end

/-- A value by itself. -/
def told : Json → String
  | .string s => s
  | value => String.ofList value.wording

instance : ToString Json := ⟨told⟩

end DriveDepot.Json
