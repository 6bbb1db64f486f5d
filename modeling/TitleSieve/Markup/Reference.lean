import TitleSieve.Markup.EntityTable
import TitleSieve.Number.DigitLimit

/-!
Character references. A reference names a character or gives its number. In text a reference is
found by the reader of markup and replaced here; in attribute values references are found here too,
by looser rules: a name may be cut short at the longest one that needs no semicolon.
-/

namespace TitleSieve.Markup

inductive Fault where
  | unknownSection (name : Text)
  | missingSectionName (context : Text)
  | tooManyDigits (count : Nat)
  deriving DecidableEq, Repr

def quotedText (t : Text) : String := String.ofList (Text.quoted t)

def Fault.message : Fault → String
  | .unknownSection name => "unknown status keyword " ++ quotedText name ++ " in marked section"
  | .missingSectionName context => "expected name token at " ++ quotedText context
  | .tooManyDigits count => Number.tooManyDigits count

def replacement : Char := '\ufffd'

/-- What the numbers 0x80 to 0x9f stand for; five of them stand for themselves. -/
def windowsCodes : List Nat :=
  [0x20ac, 0x81, 0x201a, 0x192, 0x201e, 0x2026, 0x2020, 0x2021, 0x2c6, 0x2030, 0x160, 0x2039,
   0x152, 0x8d, 0x17d, 0x8f, 0x90, 0x2018, 0x2019, 0x201c, 0x201d, 0x2022, 0x2013, 0x2014, 0x2dc,
   0x2122, 0x161, 0x203a, 0x153, 0x9d, 0x17e, 0x178]

/-- The character with a number, and the replacement character where there is none: for zero, for
the halves of surrogate pairs and beyond the last code point. -/
def charAt (code : Nat) : Char :=
  if code = 0 then replacement
  else if code < 0x80 then Char.ofNat code
  else if code < 0xa0 then Char.ofNat (windowsCodes.getD (code - 0x80) code)
  else if code.isValidChar then Char.ofNat code
  else replacement

/-- Numbers that stand for nothing in attribute values. -/
def isDropped (code : Nat) : Bool :=
  (1 ≤ code && code ≤ 8) || code == 0xb || (0xe ≤ code && code ≤ 0x1f) || code == 0x7f ||
    (0xfdd0 ≤ code && code ≤ 0xfdef) || (code ≤ 0x10ffff && 0xfffe ≤ code % 0x10000)

def isDecimal (c : Char) : Bool := '0' ≤ c && c ≤ '9'

def isHexadecimal (c : Char) : Bool := isDecimal c || ('a' ≤ c && c ≤ 'f') || ('A' ≤ c && c ≤ 'F')

def isAsciiLetter (c : Char) : Bool := ('a' ≤ c && c ≤ 'z') || ('A' ≤ c && c ≤ 'Z')

def digitOf (c : Char) : Nat :=
  if isDecimal c then c.toNat - 48
  else if 'a' ≤ c then c.toNat - 87
  else c.toNat - 55

def valueOf (base : Nat) (digits : Text) : Nat := digits.foldl (fun n c => base * n + digitOf c) 0

/-- The digits of a number and their base; hexadecimal ones follow an `x`. -/
def numeral? (t : Text) : Option (Nat × Text × Text) :=
  let read (base : Nat) (isDigit : Char → Bool) (t : Text) : Option (Nat × Text × Text) :=
    match t.takeWhile isDigit with
    | [] => none
    | digits => some (base, digits, t.dropWhile isDigit)
  match t with
  | 'x' :: rest | 'X' :: rest => read 16 isHexadecimal rest
  | _ => read 10 isDecimal t

def codeOf (base : Nat) (digits : Text) : Except Fault Nat :=
  if base = 10 ∧ Number.digitLimit < digits.length then .error (.tooManyDigits digits.length)
  else .ok (valueOf base digits)

/-- What a named reference in text stands for; an unknown name stands for itself. -/
def namedText (name : Text) : Text := (entities.lookup name).getD ('&' :: name)

def numberedValue (code : Nat) : Text :=
  if isDropped code then [] else [charAt code]

/-- The longest beginning of a name, of two characters or more, that needs no semicolon. -/
def longestOpen? (name : Text) : Nat → Option (Text × Text)
  | 0 | 1 => none
  | length + 1 =>
    match openEntities.lookup (name.take (length + 1)) with
    | some value => some (value, name.drop (length + 1))
    | none => longestOpen? name length

def namedValue (name : Text) (closed : Bool) : Text :=
  let rest := if closed then [';'] else []
  match if closed then entities.lookup name else none with
  | some value => value
  | none =>
    match longestOpen? name name.length with
    | some (value, left) => value ++ left ++ rest
    | none => '&' :: name ++ rest

def nameLimit : Nat := 32

def isNameChar (c : Char) : Bool := !(['\t', '\n', '\x0c', ' ', '<', '&', '#', ';'].contains c)

def takeSemicolon : Text → Bool × Text
  | ';' :: rest => (true, rest)
  | rest => (false, rest)

/-- Replaces the reference whose ampersand has been read, and gives the rest. -/
def replaceReference (t : Text) : Except Fault (Text × Text) :=
  match t with
  | '#' :: after =>
    match numeral? after with
    | none => .ok (['&'], t)
    | some (base, digits, rest) =>
      match codeOf base digits with
      | .error fault => .error fault
      | .ok code => .ok (numberedValue code, (takeSemicolon rest).2)
  | _ =>
    let name := (t.takeWhile isNameChar).take nameLimit
    if name.isEmpty then .ok (['&'], t)
    else
      let (closed, rest) := takeSemicolon (t.drop name.length)
      .ok (namedValue name closed, rest)

/-- An attribute value with its references replaced. The first argument counts the characters that
belong to the reference just replaced. -/
def unescapeFrom : Nat → Text → Except Fault Text
  | _, [] => .ok []
  | skip + 1, _ :: rest => unescapeFrom skip rest
  | 0, c :: rest =>
    if c = '&' then
      match replaceReference rest with
      | .error fault => .error fault
      | .ok (value, left) => (unescapeFrom (rest.length - left.length) rest).map (value ++ ·)
    else (unescapeFrom 0 rest).map (c :: ·)

def unescape (t : Text) : Except Fault Text := unescapeFrom 0 t

end TitleSieve.Markup
