import TitleSieve.Number.Double
import TitleSieve.Text.Basic

/-!
Writing a double with the fewest digits that read back as the same double, and of those the digits
nearest to its value. For one digit, then two, and so on, the two neighbours of the value on that
decimal grid are tried against the interval of numbers that round to the double.
-/

namespace TitleSieve.Number

/-- The interval of reals that round to a double, and its value, as multiples of two to the
exponent: four units make one unit of the significand. -/
structure Interval where
  low : Nat
  value : Nat
  high : Nat
  exponent : Int
  closed : Bool

/-- Below a significand that is a power of two the next double is only half as far away. -/
def intervalOf (significand : Nat) (exponent : Int) : Interval :=
  let below := if significand = scaleUp 2 52 && Double.leastExponent < exponent then 1 else 2
  ⟨4 * significand - below, 4 * significand, 4 * significand + 2, exponent - 2,
    significand % 2 == 0⟩

namespace Interval

/-- Whether `n` on a grid with this spacing lies inside; all are measured in the same units. -/
def admits (i : Interval) (spacing unit n : Nat) : Bool :=
  if i.closed then i.low * unit ≤ n * spacing && n * spacing ≤ i.high * unit
  else i.low * unit < n * spacing && n * spacing < i.high * unit

/-- The digits nearest to the value on the grid of a power of ten that still read back. -/
def onGrid (i : Interval) (power : Int) : Option Nat :=
  let spacing := scaleUp 10 power * scaleUp 2 (-i.exponent)
  let unit := scaleUp 2 i.exponent * scaleUp 10 (-power)
  let down := i.value * unit / spacing
  match i.admits spacing unit down, i.admits spacing unit (down + 1) with
  | true, false => some down
  | false, true => some (down + 1)
  | false, false => none
  | true, true =>
    let half := (2 * down + 1) * spacing
    if 2 * (i.value * unit) < half then some down
    else if half < 2 * (i.value * unit) then some (down + 1)
    else if down % 2 = 0 then some down
    else some (down + 1)

end Interval

def leadingPower (significand : Nat) (exponent : Int) : Int :=
  let scaled := significand * scaleUp 10 400 * scaleUp 2 exponent / scaleUp 2 (-exponent)
  ((Nat.toDigits 10 scaled).length : Int) - 401

/-- Tries one digit more each time; seventeen digits always suffice. -/
def searchDigits (i : Interval) (leading : Int) : Nat → Nat → Nat × Int
  | 0, _ => (0, 0)
  | left + 1, count =>
    let power := leading - count + 1
    match i.onGrid power with
    | some digits => (digits, power)
    | none => searchDigits i leading left (count + 1)

def shortestDigits (significand : Nat) (exponent : Int) : Nat × Int :=
  searchDigits (intervalOf significand exponent) (leadingPower significand exponent) 18 1

def zeros (n : Nat) : Text := List.replicate n '0'

def dropTrailingZeros (digits : Text) : Text := (digits.reverse.dropWhile (· == '0')).reverse

/-- Digits with the point behind the first `point` of them. Up to sixteen places before the point
and up to three zeros behind it are written out; beyond that a power of ten follows. -/
def layOut (digits : Text) (point : Int) : Text :=
  let count : Int := digits.length
  if -4 < point && point ≤ 16 then
    if point ≤ 0 then ['0', '.'] ++ zeros (-point).toNat ++ digits
    else if count ≤ point then digits ++ zeros (point - count).toNat ++ ['.', '0']
    else digits.take point.toNat ++ '.' :: digits.drop point.toNat
  else
    let power := point - 1
    let size := Nat.toDigits 10 power.natAbs
    let size := if size.length < 2 then '0' :: size else size
    let mantissa :=
      match digits with
      | [] => []
      | [d] => [d]
      | d :: rest => d :: '.' :: rest
    mantissa ++ ['e', if power < 0 then '-' else '+'] ++ size

def Double.render : Double → Text
  | .finite negative significand exponent =>
    let sign := if negative then ['-'] else []
    if significand = 0 then sign ++ ['0', '.', '0']
    else
      let (digits, power) := shortestDigits significand exponent
      let written := Nat.toDigits 10 digits
      sign ++ layOut (dropTrailingZeros written) (written.length + power)
  | .infinite negative => (if negative then ['-'] else []) ++ ['i', 'n', 'f']
  | .undefined => ['n', 'a', 'n']

end TitleSieve.Number
