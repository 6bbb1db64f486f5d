import TitleSieve.Text.Basic
import TitleSieve.Text.CharClass
import TitleSieve.Text.CaseTable

/-!
Full lowercasing of a text. Every code point has a lowercase form of its own, with two exceptions:
the dotted capital I becomes two code points, and a capital sigma that ends a word becomes a final
sigma. Whether a sigma ends a word is read off its surroundings, looking past characters that carry
no case.
-/

namespace TitleSieve.Text

def lowerCode (code : Nat) : Nat := mapCase lowerRuns code

def upperCode (code : Nat) : Nat := mapCase upperRuns code

/-- Code points outside the three cased categories that have case all the same. -/
def otherCased : List (Nat × Nat) :=
  [(0xaa, 0xaa), (0xba, 0xba), (0x2b0, 0x2b8), (0x2c0, 0x2c1), (0x2e0, 0x2e4), (0x345, 0x345),
   (0x37a, 0x37a), (0x1d2c, 0x1d6a), (0x1d78, 0x1d78), (0x1d9b, 0x1dbf), (0x2071, 0x2071),
   (0x207f, 0x207f), (0x2090, 0x209c), (0x2160, 0x217f), (0x24b6, 0x24e9), (0x2c7c, 0x2c7d),
   (0xa69c, 0xa69d), (0xa770, 0xa770), (0xa7f8, 0xa7f9), (0xab5c, 0xab5f), (0x10780, 0x10780),
   (0x10783, 0x10785), (0x10787, 0x107b0), (0x107b2, 0x107ba), (0x1f130, 0x1f149),
   (0x1f150, 0x1f169), (0x1f170, 0x1f189)]

/-- Punctuation inside words: it neither has case nor ends a word. -/
def midWordMarks : List Nat :=
  [0x27, 0x2e, 0x3a, 0xb7, 0x387, 0x55f, 0x5f4, 0x2018, 0x2019, 0x2024, 0x2027, 0xfe13, 0xfe52,
   0xfe55, 0xff07, 0xff0e, 0xff1a]

def isCased (c : Char) : Bool :=
  classOf c.toNat == .cased || otherCased.any fun (first, last) => first ≤ c.toNat && c.toNat ≤ last

/-- Characters that a search for the end of a word looks past. -/
def isCaseIgnorable (c : Char) : Bool :=
  match classOf c.toNat with
  | .nonspacing | .enclosing | .format | .modifier | .accent => true
  | _ => midWordMarks.contains c.toNat

def meetsCased (t : Text) : Bool :=
  match t.dropWhile isCaseIgnorable with
  | [] => false
  | c :: _ => isCased c

/-- The lowercase form of `c` after the reversed text `before` and ahead of `after`. -/
def lowerAt (before : Text) (c : Char) (after : Text) : Text :=
  if c = 'Σ' then [if meetsCased before && !meetsCased after then 'ς' else 'σ']
  else if c = 'İ' then ['i', '\u0307']
  else [Char.ofNat (lowerCode c.toNat)]

def lowerFrom (before : Text) : Text → Text
  | [] => []
  | c :: rest => lowerAt before c rest ++ lowerFrom (c :: before) rest

def lower (t : Text) : Text := lowerFrom [] t

end TitleSieve.Text
