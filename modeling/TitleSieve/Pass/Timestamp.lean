import TitleSieve.Text.Basic

/-!
Points in time as the log of passes and the lines of notices show them: the date and the time of day
at Greenwich, with the fraction of the second.
-/

namespace TitleSieve.Timestamp

/-- Days from the first of March of the year zero to the first of January 1970. -/
def daysBefore1970 : Nat := 719468

def daysInCycle : Nat := 146097

/-- Year, month and day after so many days since the first of January 1970. Years are taken to begin
in March, so that a leap day is the last day of its year. -/
def date (days : Nat) : Nat × Nat × Nat :=
  let days := days + daysBefore1970
  let inCycle := days % daysInCycle
  let year := (inCycle - inCycle / 1460 + inCycle / 36524 - inCycle / 146096) / 365
  let inYear := inCycle - (365 * year + year / 4 - year / 100)
  let march := (5 * inYear + 2) / 153
  let day := inYear - (153 * march + 2) / 5 + 1
  let month := if march < 10 then march + 3 else march - 9
  (400 * (days / daysInCycle) + year + (if month ≤ 2 then 1 else 0), month, day)

/-- A number with zeros in front, so that it has at least `width` digits. -/
def padded (width n : Nat) : Text :=
  let digits := Nat.toDigits 10 n
  List.replicate (width - digits.length) '0' ++ digits

/-- The date and the time of day so many seconds after the beginning of 1970. -/
def toSecond (separator : Char) (seconds : Nat) : Text :=
  let (year, month, day) := date (seconds / 86400)
  padded 4 year ++ ['-'] ++ padded 2 month ++ ['-'] ++ padded 2 day ++ [separator] ++
    padded 2 (seconds / 3600 % 24) ++ [':'] ++ padded 2 (seconds / 60 % 60) ++ [':'] ++
    padded 2 (seconds % 60)

/-- The point in time so many microseconds after the beginning of 1970, as the log of passes has
it. -/
def ofMicroseconds (n : Nat) : Text :=
  let fraction := n % 1000000
  toSecond 'T' (n / 1000000) ++ (if fraction = 0 then [] else '.' :: padded 6 fraction) ++
    "+00:00".toList

/-- The point in time so many milliseconds after the beginning of 1970, as it stands before
notices. -/
def ofMilliseconds (n : Nat) : Text := toSecond ' ' (n / 1000) ++ ',' :: padded 3 (n % 1000)

end TitleSieve.Timestamp
