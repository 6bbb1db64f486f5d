import TitleSieve.Text.CharClass
import TitleSieve.Text.Basic

/-!
Identifiers after Unicode's rules: a letter or underscore, then letters, marks, decimal digits and
connectors, with the few exceptions that the Unicode character database lists.
-/

namespace TitleSieve.Text

/-- Letters that fall apart under normalisation and so are in no identifier. -/
def brokenLetters : List (Nat × Nat) :=
  [(0x37a, 0x37a), (0x2e2f, 0x2e2f), (0xfc5e, 0xfc63), (0xfdfa, 0xfdfb), (0xfe70, 0xfe70),
   (0xfe72, 0xfe72), (0xfe74, 0xfe74), (0xfe76, 0xfe76), (0xfe78, 0xfe78), (0xfe7a, 0xfe7a),
   (0xfe7c, 0xfe7c), (0xfe7e, 0xfe7e)]

/-- Letters that may continue an identifier but not begin one. -/
def inwardLetters : List Nat := [0xe33, 0xeb3, 0xff9e, 0xff9f]

/-- Signs that may begin an identifier without being letters. -/
def outwardSigns : List Nat := [0x1885, 0x1886, 0x2118, 0x212e]

/-- Signs that may continue an identifier without being letters, marks or digits. -/
def inwardSigns : List Nat :=
  [0xb7, 0x387, 0x1369, 0x136a, 0x136b, 0x136c, 0x136d, 0x136e, 0x136f, 0x1370, 0x1371, 0x19da]

def isBrokenLetter (code : Nat) : Bool :=
  brokenLetters.any fun (first, last) => first ≤ code && code ≤ last

def isLetterCode (code : Nat) : Bool :=
  match classOf code with
  | .cased | .modifier | .caseless => true
  | _ => false

def isLetter (c : Char) : Bool := isLetterCode c.toNat

def beginsIdentifier (c : Char) : Bool :=
  let code := c.toNat
  c == '_' || outwardSigns.contains code ||
    ((isLetterCode code || classOf code == .letterlike) &&
      !isBrokenLetter code && !inwardLetters.contains code)

def continuesIdentifier (c : Char) : Bool :=
  let code := c.toNat
  beginsIdentifier c || inwardLetters.contains code || inwardSigns.contains code ||
    match classOf code with
    | .nonspacing | .combining | .decimal | .connector => true
    | _ => false

def isIdentifier : Text → Bool
  | [] => false
  | c :: rest => beginsIdentifier c && rest.all continuesIdentifier

/-- The value of a decimal digit of any script. Digits come in runs of ten from zero up, except that
the mathematical digits are five such runs on end. -/
def digitValue? (c : Char) : Option Nat :=
  let code := c.toNat
  if classOf code == .decimal then
    match classStarts.reverse.find? fun (start, _) => start ≤ code with
    | some (start, _) => some ((code - start) % 10)
    | none => none
  else none

end TitleSieve.Text
