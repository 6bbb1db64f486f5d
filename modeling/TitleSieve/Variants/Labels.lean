import TitleSieve.Variants.Converter

/-!
A library for trials: its conversions put the text between angle brackets behind their own name, so
that one sees which conversion a text went through. One name is missing, and some texts are refused.
-/

namespace TitleSieve.ScriptLibrary

def missingName : Text := "missing".toList

def refusedMark : Text := "FAIL".toList

def labelled (name text : Text) : Option Text :=
  if Text.occursIn refusedMark text then none else some ('<' :: name ++ ':' :: text ++ ['>'])

def labels : ScriptLibrary where
  conversion? name := if name = missingName then none else some (labelled name)

end TitleSieve.ScriptLibrary
