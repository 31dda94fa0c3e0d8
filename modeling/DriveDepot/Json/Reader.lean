import DriveDepot.Json
import DriveDepot.Text

/-!
Reading JSON text. The grammar is the strict one, with the three words `NaN`, `Infinity` and
`-Infinity` admitted as numbers. The last of several equal keys counts. The first defect from the
left is the one that is reported.
-/

namespace DriveDepot.Json.Reader

open DriveDepot.Text (hexValue?)
open DriveDepot.Text.Decimal (isDigit number)

/-- The white space between tokens. -/
def isSpace (c : Char) : Bool := c == ' ' || c == '\t' || c == '\n' || c == '\r'

def skipSpace (cs : List Char) : List Char := cs.dropWhile isSpace

/-- The code unit that four hexadecimal digits write. -/
def codeUnit (a b c d : Char) : Option Nat := do
  return 4096 * (← hexValue? a) + 256 * (← hexValue? b) + 16 * (← hexValue? c) + (← hexValue? d)

/-- The character of a one-letter escape. -/
def shortEscape : Char → Option Char
  | '"' => some '"'
  | '\\' => some '\\'
  | '/' => some '/'
  | 'b' => some '\x08'
  | 'f' => some '\x0c'
  | 'n' => some '\n'
  | 'r' => some '\r'
  | 't' => some '\t'
  | _ => none

def isHighSurrogate (n : Nat) : Bool := 0xD800 ≤ n && n < 0xDC00
def isLowSurrogate (n : Nat) : Bool := 0xDC00 ≤ n && n < 0xE000

/-- The code points that an escaped code unit writes after the first half `high`, if there is one.
Halves that do not go together remain halves. -/
def escapedUnit (high : Option Nat) (unit : Nat) : List Nat :=
  match high, isLowSurrogate unit with
  | some high, true => [0x10000 + (high - 0xD800) * 0x400 + (unit - 0xDC00)]
  | high, _ => high.toList ++ [unit]

/-- The code points up to the closing quote, and what follows it; `high` is the first half of a pair
of code units that comes right before. Control characters have to be escaped. -/
def stringBody (high : Option Nat) : List Char → Option (List Nat × List Char)
  | [] => none
  | '"' :: rest => some (high.toList, rest)
  | '\\' :: 'u' :: a :: b :: c :: d :: rest => do
    let unit ← codeUnit a b c d
    if isHighSurrogate unit then
      let (codes, after) ← stringBody (some unit) rest
      return (high.toList ++ codes, after)
    else
      let (codes, after) ← stringBody none rest
      return (escapedUnit high unit ++ codes, after)
  | '\\' :: c :: rest => do
    let escaped ← shortEscape c
    let (codes, after) ← stringBody none rest
    return (high.toList ++ escaped.toNat :: codes, after)
  | c :: rest =>
    if c.toNat < 0x20 then none
    else do
      let (codes, after) ← stringBody none rest
      return (high.toList ++ c.toNat :: codes, after)

/-- The digits after a point; a point without digits is not part of the number. -/
def fraction : List Char → List Char × List Char
  | '.' :: rest =>
    let digits := rest.takeWhile isDigit
    if digits.isEmpty then ([], '.' :: rest) else (digits, rest.dropWhile isDigit)
  | cs => ([], cs)

/-- The exponent after a mantissa; an `e` without digits is not part of the number. -/
def exponent (cs : List Char) : Option Int × List Char :=
  match cs with
  | e :: rest =>
    if e = 'e' ∨ e = 'E' then
      let (negative, digits) : Bool × List Char := match rest with
        | '-' :: r => (true, r)
        | '+' :: r => (false, r)
        | r => (false, r)
      if (digits.takeWhile isDigit).isEmpty then (none, cs)
      else
        let n : Int := number (digits.takeWhile isDigit)
        (some (if negative then -n else n), digits.dropWhile isDigit)
    else (none, cs)
  | [] => (none, [])

/-- The whole part is a zero, or digits that do not begin with one. -/
def wholePart : List Char → Option (List Char × List Char)
  | '0' :: rest => some (['0'], rest)
  | cs =>
    let digits := cs.takeWhile isDigit
    if digits.isEmpty then none else some (digits, cs.dropWhile isDigit)

/-- A number without its sign. With a fraction or an exponent it is a double. -/
def unsignedNumber (negative : Bool) (cs : List Char) : Except Defect (Json × List Char) :=
  match wholePart cs with
  | none => .error .malformed
  | some (whole, afterWhole) =>
    let (decimals, afterFraction) := fraction afterWhole
    let (power, rest) := exponent afterFraction
    let digits := number (whole ++ decimals)
    if decimals.isEmpty && power.isNone then
      if digitLimit < whole.length then .error (.longNumber whole.length)
      else .ok (.integer (if negative then -digits else digits), rest)
    else
      .ok (.double (.ofDecimal negative digits (power.getD 0 - decimals.length)), rest)

/-- The words that stand for a value, with the value. -/
def words : List (List Char × Json) :=
  [("null".toList, .null), ("true".toList, .bool true), ("false".toList, .bool false),
   ("NaN".toList, .double .notANumber), ("Infinity".toList, .double (.infinite false)),
   ("-Infinity".toList, .double (.infinite true))]

def word (cs : List Char) : Option (Json × List Char) :=
  words.findSome? fun (w, value) => (w.isPrefixOf? cs).map fun rest => (value, rest)

def scalar (cs : List Char) : Except Defect (Json × List Char) :=
  match word cs with
  | some found => .ok found
  | none =>
    match cs with
    | '-' :: rest => unsignedNumber true rest
    | _ => unsignedNumber false cs

/-- A string after its opening quote. -/
def stringOrDefect (cs : List Char) : Except Defect (List Nat × List Char) :=
  match stringBody none cs with
  | some found => .ok found
  | none => .error .malformed

mutual

/-- Reads one value inside of which brackets may lie `room` deep. Every step takes one from
`budget`. -/
def value (budget room : Nat) (cs : List Char) : Except Defect (Json × List Char) :=
  match budget with
  | 0 => .error .malformed
  | budget + 1 =>
    match cs, room with
    | '"' :: rest, _ => do
      let (codes, after) ← stringOrDefect rest
      return (.ofCodes codes, after)
    | '[' :: _, 0 => .error .deepArray
    | '\x7b' :: _, 0 => .error .deepObject
    | '[' :: rest, room + 1 =>
      match skipSpace rest with
      | ']' :: after => return (.array [], after)
      | rest => do
        let (found, after) ← items budget room rest
        return (.array found, after)
    | '\x7b' :: rest, room + 1 =>
      match skipSpace rest with
      | '\x7d' :: after => return (.object [], after)
      | rest => do
        let (found, after) ← fields budget room [] rest
        return (.object found, after)
    | _, _ => scalar cs

/-- Reads values up to the closing bracket. -/
def items (budget room : Nat) (cs : List Char) : Except Defect (List Json × List Char) :=
  match budget with
  | 0 => .error .malformed
  | budget + 1 => do
    let (first, rest) ← value budget room cs
    match skipSpace rest with
    | ']' :: after => return ([first], after)
    | ',' :: rest =>
      let (others, after) ← items budget room (skipSpace rest)
      return (first :: others, after)
    | _ => .error .malformed

/-- Reads the fields after `found`, up to the closing brace. Halves in a name are replaced. -/
def fields (budget room : Nat) (found : List (String × Json)) (cs : List Char) :
    Except Defect (List (String × Json) × List Char) :=
  match budget with
  | 0 => .error .malformed
  | budget + 1 =>
    match cs with
    | '"' :: rest => do
      let (key, rest) ← stringOrDefect rest
      match skipSpace rest with
      | ':' :: rest =>
        let (first, rest) ← value budget room (skipSpace rest)
        let found := setField (Text.ofCodes key) first found
        match skipSpace rest with
        | '\x7d' :: after => return (found, after)
        | ',' :: rest => fields budget room found (skipSpace rest)
        | _ => .error .malformed
      | _ => .error .malformed
    | _ => .error .malformed

end

/-- How deep brackets may lie in each other. -/
def nestingLimit : Nat := 989

end Reader

/-- The one value that a text holds. -/
def ofText (text : List Char) : Except Defect Json := do
  let (found, rest) ←
    Reader.value (2 * text.length + 2) Reader.nestingLimit (Reader.skipSpace text)
  if (Reader.skipSpace rest).isEmpty then return found else .error .malformed

end DriveDepot.Json
