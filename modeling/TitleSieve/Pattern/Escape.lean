import TitleSieve.Pattern.Source
import TitleSieve.Pattern.CharTest
import TitleSieve.Pattern.CharacterName

/-!
Escapes that name a code point: control letters, hexadecimal and octal numbers, and character names.
Inside a set and outside it they differ only in what a digit and a few letters mean.
-/

namespace TitleSieve.Pattern

def isOctalDigit (c : Char) : Bool := '0' ≤ c && c ≤ '7'

def isHexDigit (c : Char) : Bool :=
  c.isDigit || ('a' ≤ c && c ≤ 'f') || ('A' ≤ c && c ≤ 'F')

def hexValue (c : Char) : Nat :=
  if c.isDigit then c.toNat - 48 else if 'a' ≤ c then c.toNat - 87 else c.toNat - 55

def valueOf (base : Nat) (digits : Text) : Nat :=
  digits.foldl (fun n c => n * base + hexValue c) 0

def lastCode : Nat := 0x10ffff

/-- The greatest number that a code point may be written as at all. -/
def lastWritableCode : Nat := 0x7fffffff

def lastOctal : Nat := 0o377

def controlCode? : Char → Option Nat
  | 'a' => some 7
  | 'b' => some 8
  | 'f' => some 12
  | 'n' => some 10
  | 'r' => some 13
  | 't' => some 9
  | 'v' => some 11
  | '\\' => some 92
  | _ => none

def kindOf? : Char → Option (Kind × Bool)
  | 'd' => some (.digit, false)
  | 'D' => some (.digit, true)
  | 's' => some (.space, false)
  | 'S' => some (.space, true)
  | 'w' => some (.word, false)
  | 'W' => some (.word, true)
  | _ => none

/-- Exactly `size` hexadecimal digits after the letter. -/
def readHex (letter : Char) (size : Nat) (src : Source) : Reading (Nat × Source) := do
  let (digits, rest) ← src.getWhile isHexDigit size
  let escape := '\\' :: letter :: digits
  if digits.length ≠ size then
    malformed (.incompleteEscape escape) (rest.position - escape.length)
  else
    let code := valueOf 16 digits
    if lastWritableCode < code then refused .code
    else if lastCode < code then malformed (.badEscape escape) (rest.position - escape.length)
    else return (code, rest)

def readNamed (src : Source) : Reading (Nat × Source) := do
  let (opened, inner) ← src.accept '\x7b'
  if !opened then malformed .missingBrace src.position
  else
    let (name, rest) ← inner.nameUntil '\x7d' "character name"
    match codeNamed? name with
    | some code => return (code, rest)
    | none => malformed (.unknownCharacterName name) (rest.position - (name.length + 4))

/-- A code point under one of the letters that write numbers or names. -/
def readNumbered? (letter : Char) (src : Source) : Option (Reading (Nat × Source)) :=
  match letter with
  | 'x' => some (readHex 'x' 2 src)
  | 'u' => some (readHex 'u' 4 src)
  | 'U' => some (readHex 'U' 8 src)
  | 'N' => some (readNamed src)
  | _ => none

def isAsciiLetter (c : Char) : Bool := ('a' ≤ c && c ≤ 'z') || ('A' ≤ c && c ≤ 'Z')

/-- Inside a set: the member that an escape with this letter stands for. -/
def readMemberEscape (ascii : Bool) (letter : Char) (src : Source) : Reading (Member × Source) := do
  match controlCode? letter, kindOf? letter, readNumbered? letter src with
  | some code, _, _ => return (.code code, src)
  | none, some (kind, negated), _ => return (.kind kind negated ascii, src)
  | none, none, some reading =>
    let (code, rest) ← reading
    return (.code code, rest)
  | none, none, none =>
    if isOctalDigit letter then
      let (more, rest) ← src.getWhile isOctalDigit 2
      let digits := letter :: more
      let code := valueOf 8 digits
      if lastOctal < code then
        malformed (.octalOutOfRange ('\\' :: digits)) (rest.position - (digits.length + 1))
      else return (.code code, rest)
    else if letter.isDigit || isAsciiLetter letter then
      malformed (.badEscape ['\\', letter]) (src.position - 2)
    else return (.code letter.toNat, src)

/-- What an escape stands for outside a set. -/
inductive Escape where
  | code (n : Nat)
  | kind (which : Kind) (negated : Bool)
  | textStart
  | textEnd
  | wordEdge (negated : Bool)
  /-- A reference to a group by its number, written with so many digits. -/
  | reference (index digits : Nat)
  deriving DecidableEq, Repr

/-- A digit other than zero starts an octal number if three octal digits stand there, else it starts
a reference of one or two digits. -/
def readReference (first : Char) (src : Source) : Reading (Escape × Source) := do
  match src.nextPlain? with
  | some second =>
    if second.isDigit then
      let rest ← src.advance
      match rest.nextPlain? with
      | some third =>
        if isOctalDigit first && isOctalDigit second && isOctalDigit third then
          let last ← rest.advance
          let code := valueOf 8 [first, second, third]
          if lastOctal < code then
            malformed (.octalOutOfRange ['\\', first, second, third]) (last.position - 4)
          else return (.code code, last)
        else return (.reference (valueOf 10 [first, second]) 2, rest)
      | none => return (.reference (valueOf 10 [first, second]) 2, rest)
    else return (.reference (valueOf 10 [first]) 1, src)
  | none => return (.reference (valueOf 10 [first]) 1, src)

def readEscape (letter : Char) (src : Source) : Reading (Escape × Source) := do
  match letter with
  | 'A' => return (.textStart, src)
  | 'Z' => return (.textEnd, src)
  | 'b' => return (.wordEdge false, src)
  | 'B' => return (.wordEdge true, src)
  | _ =>
    match kindOf? letter, controlCode? letter, readNumbered? letter src with
    | some (kind, negated), _, _ => return (.kind kind negated, src)
    | none, some code, _ => return (.code code, src)
    | none, none, some reading =>
      let (code, rest) ← reading
      return (.code code, rest)
    | none, none, none =>
      if letter = '0' then
        let (more, rest) ← src.getWhile isOctalDigit 2
        return (.code (valueOf 8 more), rest)
      else if letter.isDigit then readReference letter src
      else if isAsciiLetter letter then malformed (.badEscape ['\\', letter]) (src.position - 2)
      else return (.code letter.toNat, src)

end TitleSieve.Pattern
