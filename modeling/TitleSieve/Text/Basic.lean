/-!
A text is the list of its code points. Here are the cuts that rules, titles and style attributes are
made with: splitting at separators, the words of a text, trimming, and squeezing blanks. `words` and
`joinWith` say declaratively what `squeeze` followed by `trim` computes in one pass.
-/

namespace TitleSieve

abbrev Text := List Char

namespace Text

/-- Blank characters are the controls, spaces and separators that Unicode counts as white space. -/
def isBlankCode (n : Nat) : Bool :=
  (9 ≤ n && n ≤ 13) || (28 ≤ n && n ≤ 32) || n == 0x85 || n == 0xa0 || n == 0x1680 ||
    (0x2000 ≤ n && n ≤ 0x200a) || n == 0x2028 || n == 0x2029 || n == 0x202f || n == 0x205f ||
    n == 0x3000

def isBlank (c : Char) : Bool := isBlankCode c.toNat

/-- The pieces between separators, empty ones included; there is always at least one. -/
def split (isSeparator : Char → Bool) : Text → List Text
  | [] => [[]]
  | c :: rest =>
    if isSeparator c then [] :: split isSeparator rest
    else
      match split isSeparator rest with
      | [] => [[c]]
      | piece :: more => (c :: piece) :: more

def joinWith (glue : Text) : List Text → Text
  | [] => []
  | [piece] => piece
  | piece :: next :: more => piece ++ glue ++ joinWith glue (next :: more)

def trimStart (t : Text) : Text := t.dropWhile isBlank

def trimEnd (t : Text) : Text := (t.reverse.dropWhile isBlank).reverse

def trim (t : Text) : Text := trimEnd (trimStart t)

def isAllBlank (t : Text) : Bool := t.all isBlank

def words (t : Text) : List Text := (split isBlank t).filter (!·.isEmpty)

def squeeze : Text → Text
  | [] => []
  | [c] => if isBlank c then [' '] else [c]
  | c :: d :: rest =>
    if isBlank c then
      if isBlank d then squeeze (d :: rest) else ' ' :: squeeze (d :: rest)
    else c :: squeeze (d :: rest)

def occursIn (needle : Text) : Text → Bool
  | [] => needle.isEmpty
  | c :: rest => needle.isPrefixOf (c :: rest) || occursIn needle rest

/-- What stands before and after the first occurrence of `mark`, if there is one. -/
def cutAt? (mark : Text) : Text → Option (Text × Text)
  | [] => if mark.isEmpty then some ([], []) else none
  | c :: rest =>
    if mark.isPrefixOf (c :: rest) then some ([], (c :: rest).drop mark.length)
    else (cutAt? mark rest).map fun (before, after) => (c :: before, after)

def substitute (image : Char → Text) (t : Text) : Text := t.flatMap image

end Text

end TitleSieve
