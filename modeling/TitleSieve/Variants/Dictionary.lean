import TitleSieve.Text.Basic

/-!
Replacing by dictionaries. Within one stage the longest key that occurs anywhere in a text is
replaced first, the leftmost of those of its length, and the parts on both sides are treated alike;
what a dictionary says nothing about is left to the next one of the stage. Separators are never
touched.
-/

namespace TitleSieve

abbrev Dictionary := List (Text × Text)

namespace Dictionary

structure Hit where
  before : Text
  key : Text
  value : Text
  after : Text

def hit? (text : Text) (entry : Text × Text) : Option Hit :=
  if entry.1.isEmpty then none
  else (Text.cutAt? entry.1 text).map fun (before, after) => ⟨before, entry.1, entry.2, after⟩

def Hit.isBetterThan (a b : Hit) : Bool :=
  b.key.length < a.key.length || (a.key.length == b.key.length && a.before.length < b.before.length)

def best? (dictionary : Dictionary) (text : Text) : Option Hit :=
  (dictionary.filterMap (hit? text)).foldl (fun best hit =>
    match best with
    | none => some hit
    | some kept => if hit.isBetterThan kept then some hit else some kept) none

/-- Replaces what the dictionary knows and hands the rest on. The first argument bounds the number
of replacements within each other, for which the length of the text is enough. -/
def replaceOr (dictionary : Dictionary) (otherwise : Text → Text) : Nat → Text → Text
  | 0, text => otherwise text
  | room + 1, text =>
    match dictionary.best? text with
    | none => otherwise text
    | some hit =>
      replaceOr dictionary otherwise room hit.before ++ hit.value ++
        replaceOr dictionary otherwise room hit.after

end Dictionary

/-- The dictionaries of one stage, in the order in which they are asked. -/
abbrev Stage := List Dictionary

def Stage.convert : Stage → Text → Text
  | [], text => text
  | dictionary :: rest, text =>
    dictionary.replaceOr (Stage.convert rest) text.length text

/-- Every stage in turn, on a text without separators. -/
def convertStages (stages : List Stage) (text : Text) : Text :=
  stages.foldl (fun converted stage => Stage.convert stage converted) text

def convertBetween (isSeparator : Char → Bool) (convert : Text → Text) : Text → Text → Text
  | stretch, [] => convert stretch.reverse
  | stretch, c :: rest =>
    if isSeparator c then
      convert stretch.reverse ++ c :: convertBetween isSeparator convert [] rest
    else convertBetween isSeparator convert (c :: stretch) rest

end TitleSieve
