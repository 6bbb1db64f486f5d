/-!
Binary floating-point numbers of 64 bits as exact values: a sign, a significand and a power of two.
A ratio is rounded to the nearest such number, and to the one with the even significand when two are
equally near; ratios that are too large become infinite.
-/

namespace TitleSieve.Number

/-- The value is the significand times two to the exponent. Significands have at most 53 bits, and
53 bits unless the exponent is the least one or the value is zero. -/
inductive Double where
  | finite (negative : Bool) (significand : Nat) (exponent : Int)
  | infinite (negative : Bool)
  | undefined
  deriving DecidableEq, Repr

/-- The nearest natural number to a quotient, the even one when two are equally near. -/
def divNearest (num den : Nat) : Nat :=
  let q := num / den
  let r := num % den
  if 2 * r < den then q
  else if 2 * r > den then q + 1
  else if q % 2 = 0 then q
  else q + 1

/-- A natural number as numerator over a power of a base that may be negative. -/
def scaleUp (base : Nat) (power : Int) : Nat := Nat.pow base power.toNat

namespace Double

def leastExponent : Int := -1074

def greatestExponent : Int := 971

def zero (negative : Bool) : Double := .finite negative 0 leastExponent

/-- The quotient of `num / den` by two to the exponent, to the nearest. -/
def quotientAt (num den : Nat) (exponent : Int) : Nat :=
  divNearest (num * scaleUp 2 (-exponent)) (den * scaleUp 2 exponent)

def floorAt (num den : Nat) (exponent : Int) : Nat :=
  num * scaleUp 2 (-exponent) / (den * scaleUp 2 exponent)

def ofRatio (negative : Bool) (num den : Nat) : Double :=
  if num = 0 then zero negative
  else
    let guess := (num.log2 : Int) - den.log2 - 53
    let tight := if scaleUp 2 53 ≤ floorAt num den guess then guess + 1 else guess
    let exponent := max leastExponent tight
    let significand := quotientAt num den exponent
    let (significand, exponent) :=
      if significand = scaleUp 2 53 then (scaleUp 2 52, exponent + 1) else (significand, exponent)
    if greatestExponent < exponent then .infinite negative
    else .finite negative significand exponent

/-- The double nearest to `digits` times ten to the power. Powers far outside the range are settled
by the number of digits. -/
def ofDecimal (negative : Bool) (digits : Nat) (power : Int) : Double :=
  let size := ((Nat.toDigits 10 digits).length : Int) + power
  if digits = 0 || size < -400 then zero negative
  else if 400 < size then .infinite negative
  else ofRatio negative (digits * scaleUp 10 power) (scaleUp 10 (-power))

def isInt (x : Double) (n : Int) : Bool :=
  match x with
  | .finite negative significand exponent =>
    let magnitude := (significand * scaleUp 2 exponent : Nat)
    let target := n.natAbs * scaleUp 2 (-exponent)
    magnitude == target && (magnitude == 0 || negative == (n < 0))
  | _ => false

def toInt? (x : Double) : Option Int :=
  match x with
  | .finite negative significand exponent =>
    let num := significand * scaleUp 2 exponent
    let den := scaleUp 2 (-exponent)
    if num % den = 0 then
      let n : Int := (num / den : Nat)
      some (if negative then -n else n)
    else none
  | _ => none

/-- Doubles are alike when they have the same value; the two zeros are alike. -/
def alike : Double → Double → Bool
  | .finite negA sigA expA, .finite negB sigB expB =>
    let a := sigA * scaleUp 2 (expA - min expA expB)
    let b := sigB * scaleUp 2 (expB - min expA expB)
    a == b && (a == 0 || negA == negB)
  | .infinite a, .infinite b => a == b
  | _, _ => false

/-- The double nearest to the value rounded to three decimal places; a half goes to the even
side. -/
def roundThousandths (x : Double) : Double :=
  match x with
  | .finite negative significand exponent =>
    let thousandths :=
      divNearest (significand * 1000 * scaleUp 2 exponent) (scaleUp 2 (-exponent))
    ofRatio negative thousandths 1000
  | other => other

end Double

end TitleSieve.Number
