import DriveDepot.Double.Text
import DriveDepot.Json
import DriveDepot.Text

namespace DriveDepot.Json.Writer

open DriveDepot.Text (hexPair)

def escapeChar (c : Char) : List Char :=
  if c = '"' then ['\\', '"']
  else if c = '\\' then ['\\', '\\']
  else if c = '\x08' then ['\\', 'b']
  else if c = '\t' then ['\\', 't']
  else if c = '\n' then ['\\', 'n']
  else if c = '\x0c' then ['\\', 'f']
  else if c = '\r' then ['\\', 'r']
  else if c.toNat < 0x20 then ['\\', 'u', '0', '0'] ++ hexPair c.toNat
  else [c]

def stringText (s : String) : List Char := '"' :: s.toList.flatMap escapeChar ++ ['"']

/-- Half of a pair of code units is written as its escape. -/
def codeText (code : Nat) : List Char :=
  if Text.isCharacter code then escapeChar (Char.ofNat code)
  else ['\\', 'u'] ++ hexPair (code / 0x100) ++ hexPair (code % 0x100)

/-- On one line, what is not a finite number has a word of its own. -/
def wordedNumbers : Double.Style := ⟨4, 1, "Infinity", "-Infinity", "NaN"⟩

/-- In the lines of a file, what is not a finite number is null. -/
def plainNumbers : Double.Style := ⟨4, 1, "null", "null", "null"⟩

/-- The text of a value without parts; nothing for the others. -/
def scalarText (numbers : Double.Style) : Json → List Char
  | .null => "null".toList
  | .bool true => "true".toList
  | .bool false => "false".toList
  | .integer n => (toString n).toList
  | .double d => d.text numbers
  | .string s => stringText s
  | .halved codes => '"' :: codes.flatMap codeText ++ ['"']
  | .array _ | .object _ => []

mutual

/-- A value on one line, without blanks. -/
def compact : Json → List Char
  | .array items => '[' :: compactItems items ++ [']']
  | .object fields => '\x7b' :: compactFields fields ++ ['\x7d']
  | scalar => scalarText wordedNumbers scalar

def compactItems : List Json → List Char
  | [] => []
  | [item] => compact item
  | item :: rest => compact item ++ ',' :: compactItems rest

def compactFields : List (String × Json) → List Char
  | [] => []
  | [(key, value)] => stringText key ++ ':' :: compact value
  | (key, value) :: rest => stringText key ++ ':' :: compact value ++ ',' :: compactFields rest

end

/-- The end of a line, and two blanks for each bracket that is open. -/
def newLine (depth : Nat) : List Char := '\n' :: List.replicate (2 * depth) ' '

mutual

/-- A value with a line for each item and each field, as the content of `depth` brackets. -/
def lines (depth : Nat) : Json → List Char
  | .array [] => ['[', ']']
  | .array items => '[' :: itemLines (depth + 1) items ++ newLine depth ++ [']']
  | .object [] => ['\x7b', '\x7d']
  | .object fields => '\x7b' :: fieldLines (depth + 1) fields ++ newLine depth ++ ['\x7d']
  | scalar => scalarText plainNumbers scalar

def itemLines (depth : Nat) : List Json → List Char
  | [] => []
  | [item] => newLine depth ++ lines depth item
  | item :: rest => newLine depth ++ lines depth item ++ ',' :: itemLines depth rest

def fieldLines (depth : Nat) : List (String × Json) → List Char
  | [] => []
  | [(key, value)] => newLine depth ++ stringText key ++ ':' :: ' ' :: lines depth value
  | (key, value) :: rest =>
    newLine depth ++ stringText key ++ ':' :: ' ' :: lines depth value ++
      ',' :: fieldLines depth rest

end

end DriveDepot.Json.Writer
