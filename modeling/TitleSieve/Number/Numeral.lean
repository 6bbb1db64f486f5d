import TitleSieve.Number.DigitLimit
import TitleSieve.Text.Basic

/-!
Whole numbers as they are written by hand. Spaces around a numeral, one sign, zeros in front, single
low lines between digits and a fraction of zeros are allowed; the digits themselves are ASCII.
-/

namespace TitleSieve.Number.Numeral

inductive Fault where
  | unclear
  | tooLong
  deriving DecidableEq, Repr

/-- Space around a numeral is blank, but the separators of information are not space. -/
def isSpace (c : Char) : Bool := Text.isBlank c && !(28 ≤ c.toNat && c.toNat ≤ 31)

def trim (t : Text) : Text := ((t.dropWhile isSpace).reverse.dropWhile isSpace).reverse

/-- Low lines may stand anywhere among the zeros in front; of a zero the last character is kept. -/
def withoutZeros (t : Text) : Text :=
  let inFront (c : Char) : Bool := c == '0' || c == '_'
  let last := ((t.takeWhile inFront).getLast?).toList
  match t.dropWhile inFront with
  | [] => last
  | c :: rest => if c.isDigit then c :: rest else last ++ c :: rest

def withoutFraction (t : Text) : Text :=
  match t.dropWhile (· != '.') with
  | _ :: fraction => if fraction.all (· == '0') then t.takeWhile (· != '.') else t
  | [] => t

/-- The value of digits in groups, with one low line between two groups. -/
def grouped? (t : Text) : Option Nat :=
  let groups := Text.split (· == '_') t
  if groups.all fun g => !g.isEmpty && g.all Char.isDigit then
    some (groups.flatten.foldl (fun n c => n * 10 + (c.toNat - 48)) 0)
  else none

def unsigned? (t : Text) : Option Nat :=
  match t with
  | [] => none
  | c :: _ => if c.isDigit then grouped? (withoutFraction (withoutZeros t)) else none

def signed? (t : Text) : Option Int :=
  match t with
  | '+' :: rest => (unsigned? rest).map Int.ofNat
  | '-' :: rest => (unsigned? rest).map fun n => -(n : Int)
  | _ => (unsigned? t).map Int.ofNat

def read (t : Text) : Except Fault Int :=
  let t := trim t
  if digitLimit < t.length then .error .tooLong
  else
    match signed? t with
    | some n => .ok n
    | none => .error .unclear

end TitleSieve.Number.Numeral
