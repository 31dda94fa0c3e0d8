namespace DriveDepot.Text

/-- A carriage return, alone or with the line feed after it, reads as one line feed. -/
def unifyNewlines : List Char → List Char
  | '\r' :: '\n' :: rest => '\n' :: unifyNewlines rest
  | '\r' :: rest => '\n' :: unifyNewlines rest
  | c :: rest => c :: unifyNewlines rest
  | [] => []

/-- The white space of Unicode and the separator controls U+001C to U+001F, as closed ranges of code
points in ascending order. -/
def blankRanges : List (Nat × Nat) :=
  [(0x09, 0x0D), (0x1C, 0x20), (0x85, 0x85), (0xA0, 0xA0), (0x1680, 0x1680), (0x2000, 0x200A),
   (0x2028, 0x2029), (0x202F, 0x202F), (0x205F, 0x205F), (0x3000, 0x3000)]

def isBlank (c : Char) : Bool :=
  blankRanges.any fun (low, high) => low ≤ c.toNat && c.toNat ≤ high

/-- What is left of `cs` without the blanks at either end. -/
def trimChars (cs : List Char) : List Char :=
  ((cs.dropWhile isBlank).reverse.dropWhile isBlank).reverse

def trim (s : String) : String := String.ofList (trimChars s.toList)

/-- Whether a code point is a character by itself and no half of one. -/
def isCharacter (code : Nat) : Bool := decide code.isValidChar

/-- What is no character is replaced. -/
def ofCodes (codes : List Nat) : String :=
  String.ofList (codes.map fun code => if isCharacter code then Char.ofNat code else '\uFFFD')

def hexDigit (n : Nat) : Char := "0123456789abcdef".toList.getD n '0'

/-- The two digits of a number below 256. -/
def hexPair (n : Nat) : List Char := [hexDigit (n / 16), hexDigit (n % 16)]

/-- The value of a hexadecimal digit of either case. -/
def hexValue? (c : Char) : Option Nat :=
  if '0' ≤ c ∧ c ≤ '9' then some (c.toNat - '0'.toNat)
  else if 'a' ≤ c ∧ c ≤ 'f' then some (c.toNat - 'a'.toNat + 10)
  else if 'A' ≤ c ∧ c ≤ 'F' then some (c.toNat - 'A'.toNat + 10)
  else none

/-- The code points of the digits zero, in ascending order. In each script the ten digits (Unicode's
general category Nd) follow one another. -/
def zeroDigits : List Nat :=
  [0x30, 0x660, 0x6F0, 0x7C0, 0x966, 0x9E6, 0xA66, 0xAE6, 0xB66, 0xBE6, 0xC66, 0xCE6, 0xD66,
   0xDE6, 0xE50, 0xED0, 0xF20, 0x1040, 0x1090, 0x17E0, 0x1810, 0x1946, 0x19D0, 0x1A80, 0x1A90,
   0x1B50, 0x1BB0, 0x1C40, 0x1C50, 0xA620, 0xA8D0, 0xA900, 0xA9D0, 0xA9F0, 0xAA50, 0xABF0, 0xFF10,
   0x104A0, 0x10D30, 0x11066, 0x110F0, 0x11136, 0x111D0, 0x112F0, 0x11450, 0x114D0, 0x11650,
   0x116C0, 0x11730, 0x118E0, 0x11950, 0x11C50, 0x11D50, 0x11DA0, 0x16A60, 0x16AC0, 0x16B50,
   0x1D7CE, 0x1D7D8, 0x1D7E2, 0x1D7EC, 0x1D7F6, 0x1E140, 0x1E2F0, 0x1E950, 0x1FBF0]

def isDecimalDigit (c : Char) : Bool :=
  zeroDigits.any fun first => first ≤ c.toNat && c.toNat < first + 10

namespace Decimal

def isDigit (c : Char) : Bool := '0' ≤ c && c ≤ '9'

def digit (n : Nat) : Char := Char.ofNat ('0'.toNat + n)

def digits (n : Nat) : List Char :=
  if n < 10 then [digit n] else digits (n / 10) ++ [digit (n % 10)]

def text (n : Nat) : String := String.ofList (digits n)

/-- The number that digits write. -/
def number (cs : List Char) : Nat :=
  cs.foldl (fun n c => 10 * n + (c.toNat - '0'.toNat)) 0

theorem toNat_digit {n : Nat} (h : n < 10) : (digit n).toNat - '0'.toNat = n := by
  have all : ∀ d < 10, (digit d).toNat - '0'.toNat = d := by decide
  exact all n h

theorem number_append_digit (cs : List Char) {n : Nat} (h : n < 10) :
    number (cs ++ [digit n]) = 10 * number cs + n := by
  simp only [number, List.foldl_append, List.foldl_cons, List.foldl_nil, toNat_digit h]

theorem number_digits (n : Nat) : number (digits n) = n := by
  induction n using digits.induct with
  | case1 n small =>
    rw [digits, if_pos small]
    simpa [number] using toNat_digit small
  | case2 n large ih =>
    rw [digits, if_neg large, number_append_digit _ (Nat.mod_lt n (by decide)), ih]
    omega

theorem text_injective {m n : Nat} (same : text m = text n) : m = n := by
  have := congrArg (fun text => number text.toList) same
  simpa [text, number_digits] using this

end Decimal

end DriveDepot.Text
