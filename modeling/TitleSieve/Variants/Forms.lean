import TitleSieve.Text.Lowercase
import TitleSieve.Variants.Converter

/-!
The forms in which a text is compared: the text itself and its two variants, all in lower case.
-/

namespace TitleSieve

structure Forms where
  plain : Text
  variantA : Text
  variantB : Text
  deriving DecidableEq, Repr

namespace Forms

def toList (forms : Forms) : List Text := [forms.plain, forms.variantA, forms.variantB]

def contains (forms : Forms) (needle : Text) : Bool := forms.toList.any (Text.occursIn needle)

/-- The first variant is made first, and the second only if there is a first. -/
def of (converter : Converter) (text : Text) : Except ConversionFault Forms :=
  match converter.toA text with
  | .error fault => .error fault
  | .ok variantA =>
    match converter.toB text with
    | .error fault => .error fault
    | .ok variantB => .ok ⟨text.lower, variantA.lower, variantB.lower⟩

end Forms

end TitleSieve
