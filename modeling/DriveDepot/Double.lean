/-!
Doubles: numbers `mantissa * 2 ^ exponent` with a mantissa of at most 53 bits, the two infinities,
and the value that is no number. A number is taken for the double nearest to it; of two that are
equally near, for the one with the even mantissa.
-/

namespace DriveDepot

inductive Double
  /-- Zero has a sign, too. -/
  | finite (negative : Bool) (mantissa : Nat) (exponent : Int)
  | infinite (negative : Bool)
  | notANumber
  deriving DecidableEq, Repr

namespace Double

/-- The whole number nearest to `num / den`; of two, the even one. -/
def roundEven (num den : Nat) : Nat :=
  let twice := 2 * (num % den)
  if twice < den ∨ (twice = den ∧ num / den % 2 = 0) then num / den else num / den + 1

/-- The rounded quotient is at most half a unit away. -/
theorem roundEven_near (num : Nat) {den : Nat} (h : 0 < den) :
    2 * (den * roundEven num den) ≤ 2 * num + den ∧
      2 * num ≤ 2 * (den * roundEven num den) + den := by
  have split := Nat.div_add_mod num den
  have small := Nat.mod_lt num h
  unfold roundEven
  dsimp only
  split
  · omega
  · rw [Nat.mul_add, Nat.mul_one]
    omega

/-- The mantissa's bits, and the least and the greatest exponent. -/
def precision : Nat := 53
def leastExponent : Int := -1074
def greatestExponent : Int := 971

/-- Two to a power, as a quotient. -/
def powerOfTwo (exponent : Int) : Nat × Nat :=
  (Nat.pow 2 exponent.toNat, Nat.pow 2 (-exponent).toNat)

/-- The exponent at which `num / den` has as many bits as a mantissa holds, or the least one. -/
def exponentFor (num den : Nat) : Int :=
  let bits : Int := num.log2 - den.log2
  let (up, down) := powerOfTwo bits
  let leading := if den * up ≤ num * down then bits else bits - 1
  max (leading - (precision - 1)) leastExponent

/-- The double of a mantissa that may have become one bit too long by rounding. -/
def ofMantissa (negative : Bool) (mantissa : Nat) (exponent : Int) : Double :=
  if mantissa = Nat.pow 2 precision then ofFitting (mantissa / 2) (exponent + 1)
  else ofFitting mantissa exponent
where
  ofFitting (mantissa : Nat) (exponent : Int) : Double :=
    if greatestExponent < exponent then .infinite negative else .finite negative mantissa exponent

/-- The double nearest to `num / den`. -/
def ofRatio (negative : Bool) (num den : Nat) : Double :=
  let exponent := exponentFor num den
  let (up, down) := powerOfTwo exponent
  ofMantissa negative (roundEven (num * down) (den * up)) exponent

/-- The double nearest to `digits * 10 ^ exponent`. As `digits` lies between `2 ^ digits.log2` and
ten to the power of `digits.log2 + 1`, numbers far out of range are known by their exponent. -/
def ofDecimal (negative : Bool) (digits : Nat) (exponent : Int) : Double :=
  if digits = 0 ∨ exponent + digits.log2 < -400 then .finite negative 0 0
  else if 400 < exponent then .infinite negative
  else if 0 ≤ exponent then ofRatio negative (digits * Nat.pow 10 exponent.toNat) 1
  else ofRatio negative digits (Nat.pow 10 (-exponent).toNat)

def isZero : Double → Bool
  | .finite _ mantissa _ => mantissa == 0
  | _ => false

/-- The whole number that the double is, if it is one. -/
def toInt? : Double → Option Int
  | .finite negative mantissa exponent =>
    let (up, down) := powerOfTwo exponent
    if mantissa % down = 0 then
      let size : Int := mantissa / down * up
      some (if negative then -size else size)
    else none
  | _ => none

end Double

end DriveDepot
