import DriveDepot.Double

/-!
The shortest decimal number that is read as a given double: of all decimal numbers nearest to that
double, one with the fewest digits, and among these the one nearest to it.
-/

namespace DriveDepot.Double

/-- The numbers to which one double is nearest: those from `low / scale` to `high / scale`, around
the double itself, `value / scale`. -/
structure Interval where
  low : Nat
  value : Nat
  high : Nat
  scale : Nat
  /-- Whether both ends belong to it. -/
  closed : Bool
  deriving DecidableEq, Repr

/-- Below a power of two the doubles lie twice as close as above. A number half way between two
doubles belongs to the one with the even mantissa. -/
def interval (mantissa : Nat) (exponent : Int) : Interval :=
  let (up, down) := powerOfTwo exponent
  let below := if mantissa = Nat.pow 2 (precision - 1) ∧ leastExponent < exponent then up else 2 * up
  { low := 4 * mantissa * up - below
    value := 4 * mantissa * up
    high := 4 * mantissa * up + 2 * up
    scale := 4 * down
    closed := mantissa % 2 = 0 }

namespace Interval

/-- Ten to a power, as a quotient. -/
def powerOfTen (power : Int) : Nat × Nat := (Nat.pow 10 power.toNat, Nat.pow 10 (-power).toNat)

/-- Whether `digits * 10 ^ power` lies in the interval. -/
def contains (i : Interval) (power : Int) (digits : Nat) : Bool :=
  let (up, down) := powerOfTen power
  let point := digits * up * i.scale
  if i.closed then i.low * down ≤ point && point ≤ i.high * down
  else i.low * down < point && point < i.high * down

/-- The digits before `10 ^ power` of a number in the interval: those nearest to the double if they
belong to it, else those of one of its neighbours on the grid. -/
def digits? (i : Interval) (power : Int) : Option Nat :=
  let (up, down) := powerOfTen power
  let num := i.value * down
  let den := i.scale * up
  [roundEven num den, num / den, num / den + 1].find? (i.contains power)

theorem contains_of_digits? {i : Interval} {power : Int} {digits : Nat}
    (h : i.digits? power = some digits) : i.contains power digits = true := by
  have found := List.find?_some h
  exact found

/-- The digits for the greatest power of ten, from `power` down, of which the interval has a
multiple. The greater the power, the fewer the digits. -/
def firstDigits (i : Interval) : (steps : Nat) → (power : Int) → Nat × Int
  | 0, power => (0, power)
  | steps + 1, power =>
    match i.digits? power with
    | some digits => (digits, power)
    | none => firstDigits i steps (power - 1)

end Interval

/-- A power of ten above `2 ^ bits`; the decimal logarithm of two is about 0.30103. -/
def powerAbove (bits : Int) : Int := bits * 30103 / 100000 + 2

/-- Digits and a power of ten. Seventeen digits always suffice. -/
def shortest (mantissa : Nat) (exponent : Int) : Nat × Int :=
  (interval mantissa exponent).firstDigits 24 (powerAbove (mantissa.log2 + 1 + exponent))

end DriveDepot.Double
