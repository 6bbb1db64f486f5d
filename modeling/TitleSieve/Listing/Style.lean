import TitleSieve.Text.Lowercase

/-!
The style of a row. Declarations are the pieces between semicolons; those that begin with the word
`display` are taken out, and a hidden row gets one such declaration at the end.
-/

namespace TitleSieve.Listing

open Text

def displayWord : Text := "display".toList

def hiddenDisplay : Text := "display: none".toList

def isDisplay (declaration : Text) : Bool := displayWord.isPrefixOf (lower declaration)

def declarations (style : Text) : List Text :=
  ((split (· == ';') style).map trim).filter (!·.isEmpty)

def keptDeclarations (style : Text) (visible : Bool) : List Text :=
  (declarations style).filter (!isDisplay ·) ++ (if visible then [] else [hiddenDisplay])

def styleFor? (style : Text) (visible : Bool) : Option Text :=
  match keptDeclarations style visible with
  | [] => none
  | kept => some (joinWith [';', ' '] kept)

end TitleSieve.Listing
