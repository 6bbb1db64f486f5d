import TitleSieve.Text.Basic
import TitleSieve.Text.CharClass

/-!
Texts quoted for messages. A quoted text stands between single quotes, or between double quotes when
it holds a single quote and no double quote; backslashes, the quote itself, line ends, tabs and
everything without a visible form are escaped, so a quoted text is always one printable line.
-/

namespace TitleSieve.Text

/-- Printable characters have a form of their own; of all the spaces only U+0020 counts. -/
def isPrintable (c : Char) : Bool :=
  match classOf c.toNat with
  | .hidden | .format => false
  | .space => c == ' '
  | _ => true

def hexDigit (n : Nat) : Char :=
  if n < 10 then Char.ofNat (48 + n) else Char.ofNat (87 + n)

/-- The last `width` hexadecimal digits of a number, in lower case. -/
def hexDigits : Nat → Nat → Text
  | 0, _ => []
  | width + 1, n => hexDigits width (n / 16) ++ [hexDigit (n % 16)]

def escapeCode (n : Nat) : Text :=
  if n < 0x100 then ['\\', 'x'] ++ hexDigits 2 n
  else if n < 0x10000 then ['\\', 'u'] ++ hexDigits 4 n
  else ['\\', 'U'] ++ hexDigits 8 n

def quoteChar (mark c : Char) : Text :=
  if c = mark ∨ c = '\\' then ['\\', c]
  else if c = '\n' then ['\\', 'n']
  else if c = '\r' then ['\\', 'r']
  else if c = '\t' then ['\\', 't']
  else if isPrintable c then [c]
  else escapeCode c.toNat

def quoteMark (t : Text) : Char :=
  if t.contains '\'' && !t.contains '"' then '"' else '\''

def quoted (t : Text) : Text :=
  let mark := quoteMark t
  mark :: t.flatMap (quoteChar mark) ++ [mark]

end TitleSieve.Text
