import DriveDepot.Text

/-!
Variables by name, from the environment of a program or from a file of `NAME=value` lines. Case
does not matter in a name, and of several values for one name the last counts.
-/

namespace DriveDepot

abbrev Environment := List (String × String)

namespace Environment

/-- Small letters. The Kelvin sign is the one character besides the capitals of ASCII that has a
small letter of ASCII. -/
def lowerCase (c : Char) : Char := if c = '\u212A' then 'k' else c.toLower

def foldCase (name : String) : String := String.ofList (name.toList.map lowerCase)

def get? (environment : Environment) (name : String) : Option String :=
  (environment.reverse.find? fun (other, _) => foldCase other = foldCase name).map (·.2)

/-- Sets a variable in its place, or adds it at the end. -/
def set (name value : String) : Environment → Environment
  | [] => [(name, value)]
  | (other, old) :: rest =>
    if other = name then (name, value) :: rest else (other, old) :: set name value rest

/-- The lines of a text, without their ends. -/
def lines : List Char → List (List Char)
  | [] => [[]]
  | c :: rest =>
    if c = '\n' then [] :: lines rest
    else match lines rest with
      | [] => [[c]]
      | line :: others => (c :: line) :: others

/-- A value without quotes ends where a comment begins, after a blank. -/
def beforeComment : List Char → List Char
  | [] => []
  | [c] => [c]
  | c :: '#' :: rest => if Text.isBlank c then [] else c :: '#' :: beforeComment rest
  | c :: rest => c :: beforeComment rest

/-- What stands before the closing quote, and what follows it. A quote after a backslash does not
close, unless no other quote does. -/
def untilQuote (mark : Char) : List Char → Option (List Char × List Char)
  | [] => none
  | '\\' :: c :: rest =>
    if c = mark then
      match untilQuote mark rest with
      | some (text, after) => some ('\\' :: c :: text, after)
      | none => some (['\\'], rest)
    else (untilQuote mark (c :: rest)).map fun (text, after) => ('\\' :: text, after)
  | c :: rest =>
    if c = mark then some ([], rest)
    else (untilQuote mark rest).map fun (text, after) => (c :: text, after)

/-- What a character after a backslash stands for, between quotes of a kind. -/
def escaped? (mark : Char) (c : Char) : Option Char :=
  if c = '\\' ∨ c = '\x27' then some c
  else if mark = '\x27' then none
  else match c with
    | '"' => some '"'
    | 'a' => some '\x07'
    | 'b' => some '\x08'
    | 'f' => some '\x0c'
    | 'n' => some '\n'
    | 'r' => some '\r'
    | 't' => some '\t'
    | 'v' => some '\x0b'
    | _ => none

/-- A backslash before any other character stands for itself. -/
def unescape (mark : Char) : List Char → List Char
  | '\\' :: c :: rest =>
    match escaped? mark c with
    | some found => found :: unescape mark rest
    | none => '\\' :: unescape mark (c :: rest)
  | c :: rest => c :: unescape mark rest
  | [] => []

/-- A value after its opening quote. Only a comment may follow it. -/
def quotedValue (mark : Char) (cs : List Char) : Option (List Char) := do
  let (text, after) ← untilQuote mark cs
  match after.dropWhile Text.isBlank with
  | [] | '#' :: _ => return unescape mark text
  | _ => none

def value (cs : List Char) : Option (List Char) :=
  match cs.dropWhile Text.isBlank with
  | '\x27' :: rest => quotedValue '\x27' rest
  | '"' :: rest => quotedValue '"' rest
  | _ => some (Text.trimChars (beforeComment cs))

/-- The variable that a line sets. Blank lines, comments and other lines set none. -/
def assignment? (line : List Char) : Option (String × String) :=
  let text := line.dropWhile Text.isBlank
  let name := text.takeWhile fun c => c ≠ '=' && c ≠ '#' && !Text.isBlank c
  match (text.drop name.length).dropWhile Text.isBlank with
  | '=' :: rest =>
    if name.isEmpty then none
    else (value rest).map fun found => (String.ofList name, String.ofList found)
  | _ => none

/-- A text without the mark that may stand before its first character. -/
def withoutByteOrderMark : List Char → List Char
  | '\uFEFF' :: rest => rest
  | cs => cs

/-- The variables that a file sets. Of several values for one spelling of a name the last counts,
in the place of the first. -/
def ofText (text : String) : Environment :=
  ((lines (Text.unifyNewlines (withoutByteOrderMark text.toList))).filterMap assignment?).foldl
    (fun found (name, value) => found.set name value) []

end Environment

end DriveDepot
