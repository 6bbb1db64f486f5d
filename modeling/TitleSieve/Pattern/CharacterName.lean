import TitleSieve.Text.Basic
import TitleSieve.Text.NameTable

/-!
Code points by their names. Ideographs and the signs of some blocks are named by their codes, Korean
syllables by the sounds that they are put together from; the other names are in a table. All names
but those of unified ideographs and of syllables may be written in any case.
-/

namespace TitleSieve.Pattern

def codeDigit? (c : Char) : Option Nat :=
  if '0' ≤ c && c ≤ '9' then some (c.toNat - 48)
  else if 'A' ≤ c && c ≤ 'F' then some (c.toNat - 55)
  else if 'a' ≤ c && c ≤ 'f' then some (c.toNat - 87)
  else none

def codeOf (digits : Text) : Nat := digits.foldl (fun n c => 16 * n + (codeDigit? c).getD 0) 0

/-- What is left of a text behind an expected start. -/
def behind? (start : String) (t : Text) : Option Text :=
  if start.toList.isPrefixOf t then some (t.drop start.length) else none

def ideographs : List (Nat × Nat) :=
  [(0x3400, 0x4dbf), (0x4e00, 0x9fff), (0x20000, 0x2a6df), (0x2a700, 0x2b738), (0x2b740, 0x2b81d),
    (0x2b820, 0x2cea1), (0x2ceb0, 0x2ebe0), (0x30000, 0x3134a)]

/-- An ideograph by its code in four or five capital digits. -/
def ideograph? (digits : Text) : Option Nat :=
  let isDigit (c : Char) : Bool := (codeDigit? c).isSome && !c.isLower
  let code := codeOf digits
  if (digits.length = 4 || digits.length = 5) && digits.all isDigit &&
      ideographs.any fun (first, last) => first ≤ code && code ≤ last then some code
  else none

def initialSounds : List String :=
  ["G", "GG", "N", "D", "DD", "R", "M", "B", "BB", "S", "SS", "", "J", "JJ", "C", "K", "T", "P",
    "H"]

def vowelSounds : List String :=
  ["A", "AE", "YA", "YAE", "EO", "E", "YEO", "YE", "O", "WA", "WAE", "OE", "YO", "U", "WEO", "WE",
    "WI", "YU", "EU", "YI", "I"]

def finalSounds : List String :=
  ["", "G", "GG", "GS", "N", "NJ", "NH", "D", "L", "LG", "LM", "LB", "LS", "LT", "LP", "LH", "M",
    "B", "BS", "S", "SS", "NG", "J", "C", "K", "T", "P", "H"]

/-- The place of the longest of some sounds that a text starts with, and the rest of the text. -/
def longestSound? (sounds : List String) (t : Text) : Option (Nat × Text) :=
  (sounds.mapIdx fun place sound => (place, sound)).foldl (fun best (place, sound) =>
    match behind? sound t, best with
    | some rest, some (_, least) => if rest.length < least.length then some (place, rest) else best
    | some rest, none => some (place, rest)
    | none, _ => best) none

def syllable? (sounds : Text) : Option Nat := do
  let (initial, rest) ← longestSound? initialSounds sounds
  let (vowel, rest) ← longestSound? vowelSounds rest
  let (final, rest) ← longestSound? finalSounds rest
  if rest.isEmpty then
    some (0xac00 + (initial * vowelSounds.length + vowel) * finalSounds.length + final)
  else none

/-- The other blocks in which names end in the code, each with the start of its names. -/
def codedBlocks : List (String × Nat × Nat) :=
  [("CJK COMPATIBILITY IDEOGRAPH-", 0xf900, 0xfa6d),
    ("CJK COMPATIBILITY IDEOGRAPH-", 0xfa70, 0xfad9),
    ("CJK COMPATIBILITY IDEOGRAPH-", 0x2f800, 0x2fa1d),
    ("KHITAN SMALL SCRIPT CHARACTER-", 0x18b00, 0x18cd5), ("NUSHU CHARACTER-", 0x1b170, 0x1b2fb)]

def blockCode? (name : Text) : Option Nat :=
  codedBlocks.findSome? fun (start, first, last) => do
    let digits ← behind? start name
    let code := codeOf digits
    let isCode := digits.all (fun c => (codeDigit? c).isSome) && digits.head? != some '0'
    if isCode && first ≤ code && code ≤ last then some code else none

/-- The first words of a text, each with the space or the hyphen behind it. -/
def firstWords : (count : Nat) → Text → Text
  | 0, _ => []
  | _, [] => []
  | count + 1, c :: rest => c :: firstWords (if c = ' ' || c = '-' then count else count + 1) rest

/-- The name that an entry of the table stands for, where `before` is the one before it. -/
def fullName (before entry : Text) : Text :=
  match entry with
  | [] => []
  | c :: rest => if c.isDigit then firstWords (c.toNat - 48) before ++ rest else entry

/-- Looks a name up in entries, the first of which has the code `next` unless it tells its own. -/
def codeIn (name : Text) : (next : Nat) → (before : Text) → List Text → Option Nat
  | _, _, [] => none
  | next, before, entry :: rest =>
    let (code, shortName) :=
      match Text.cutAt? [':'] entry with
      | some (digits, shortName) => (codeOf digits, shortName)
      | none => (next, entry)
    let entryName := fullName before shortName
    if entryName = name then some code else codeIn name (code + 1) entryName rest

def tableCode? (name : Text) : Option Nat :=
  let entries (lines : List String) : List Text :=
    lines.flatMap fun line => Text.split (· == ';') line.toList
  codeIn name 0 [] (entries Text.nameLines ++ entries Text.otherNameLines)

def codeNamed? (name : Text) : Option Nat :=
  match behind? "CJK UNIFIED IDEOGRAPH-" name, behind? "HANGUL SYLLABLE " name with
  | some digits, _ => ideograph? digits
  | none, some sounds => syllable? sounds
  | none, none =>
    let name := name.map Char.toUpper
    (blockCode? name).orElse fun () => tableCode? name

end TitleSieve.Pattern
