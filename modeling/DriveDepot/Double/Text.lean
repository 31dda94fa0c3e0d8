import DriveDepot.Double.Shortest
import DriveDepot.Text

namespace DriveDepot.Double

structure Style where
  /-- The point may stand as many places left of the first digit as this tells. -/
  zerosAfterPoint : Nat
  /-- The exponent has at least so many digits. -/
  exponentDigits : Nat
  infinity : String
  negativeInfinity : String
  notANumber : String
  deriving DecidableEq, Repr

/-- Numbers are written without an exponent while the point follows the sixteenth digit or an
earlier one. -/
def digitsBeforePoint : Nat := 16

def zeros (count : Nat) : List Char := List.replicate count '0'

/-- The digits with the point after the first `point` of them; zeros fill what is missing. -/
def positional (digits : List Char) (point : Int) : List Char :=
  if point ≤ 0 then '0' :: '.' :: zeros (-point).toNat ++ digits
  else if digits.length ≤ point.toNat then
    digits ++ zeros (point.toNat - digits.length) ++ ['.', '0']
  else digits.take point.toNat ++ '.' :: digits.drop point.toNat

/-- An exponent always has a sign. -/
def exponentText (style : Style) (exponent : Int) : List Char :=
  let sign := if exponent < 0 then '-' else '+'
  let digits := Text.Decimal.digits exponent.natAbs
  'e' :: sign :: zeros (style.exponentDigits - digits.length) ++ digits

/-- One digit before the point, and the exponent that goes with it. -/
def scientific (style : Style) (digits : List Char) (exponent : Int) : List Char :=
  match digits with
  | first :: second :: rest => first :: '.' :: second :: rest ++ exponentText style exponent
  | few => few ++ exponentText style exponent

/-- The text of `digits * 10 ^ power`. -/
def decimalText (style : Style) (digits : Nat) (power : Int) : List Char :=
  let text := Text.Decimal.digits digits
  let point := text.length + power
  if -(style.zerosAfterPoint : Int) ≤ point ∧ point ≤ digitsBeforePoint then positional text point
  else scientific style text (point - 1)

def text (style : Style) : Double → List Char
  | .finite negative mantissa exponent =>
    let sign := if negative then ['-'] else []
    if mantissa = 0 then sign ++ ['0', '.', '0']
    else
      let (digits, power) := shortest mantissa exponent
      sign ++ decimalText style digits power
  | .infinite false => style.infinity.toList
  | .infinite true => style.negativeInfinity.toList
  | .notANumber => style.notANumber.toList

end DriveDepot.Double
