import TitleSieve.Text.Quoted

/-!
Converters between scripts. A converter gives each text two variants and may fail on either. Tables
convert code point by code point; a library of conversions that are found by name gives a converter
once two names have been chosen, and without one of the two it converts nothing at all.
-/

namespace TitleSieve

inductive ConversionFault where
  | variantA (text : Text)
  | variantB (text : Text)
  | script (text : Text)
  /-- The conversions that a converter was made for cannot be found. -/
  | unavailable
  deriving DecidableEq, Repr

/-- What is reported of a failed conversion; a missing library is not a failed conversion. -/
def ConversionFault.report? : ConversionFault → Option String
  | .variantA text => some ("variant A failed for " ++ String.ofList text)
  | .variantB text => some ("variant B failed for " ++ String.ofList text)
  | .script text => some ("Script conversion failed for " ++ String.ofList (Text.quoted text))
  | .unavailable => none

structure Converter where
  toA : Text → Except ConversionFault Text
  toB : Text → Except ConversionFault Text

/-- Images of single code points, and texts that are refused wherever they occur. -/
structure ScriptTable where
  imagesA : List (Char × Text)
  imagesB : List (Char × Text)
  refusedA : Option Text
  refusedB : Option Text

def imageIn (images : List (Char × Text)) (c : Char) : Text := (images.lookup c).getD [c]

def refuses (refused : Option Text) (text : Text) : Bool := refused.any (Text.occursIn · text)

/-- Conversions by name; a conversion gives nothing for a text that it cannot convert. -/
structure ScriptLibrary where
  conversion? : Text → Option (Text → Option Text)

structure ScriptChoice where
  nameA : Text
  nameB : Text
  deriving DecidableEq, Repr

namespace ScriptChoice

/-- To the script of Taiwan with its own idioms, and from it to the simplified script. -/
def standard : ScriptChoice := ⟨"s2twp".toList, "tw2s".toList⟩

/-- Names that are not given, or empty, are the standard ones. -/
def given (nameA nameB : Option Text) : ScriptChoice :=
  let orElse (name : Option Text) (default : Text) : Text :=
    match name with
    | none | some [] => default
    | some chosen => chosen
  ⟨orElse nameA standard.nameA, orElse nameB standard.nameB⟩

end ScriptChoice

namespace Converter

def identity : Converter := ⟨.ok, .ok⟩

def ofTable (table : ScriptTable) : Converter where
  toA text :=
    if refuses table.refusedA text then .error (.variantA text)
    else .ok (text.flatMap (imageIn table.imagesA))
  toB text :=
    if refuses table.refusedB text then .error (.variantB text)
    else .ok (text.flatMap (imageIn table.imagesB))

def convertBy (conversion : Text → Option Text) (text : Text) : Except ConversionFault Text :=
  match conversion text with
  | some converted => .ok converted
  | none => .error (.script text)

def ofLibrary? (library : ScriptLibrary) (choice : ScriptChoice) : Option Converter :=
  match library.conversion? choice.nameA, library.conversion? choice.nameB with
  | some conversionA, some conversionB => some ⟨convertBy conversionA, convertBy conversionB⟩
  | _, _ => none

def missing : Converter := ⟨fun _ => .error .unavailable, fun _ => .error .unavailable⟩

def ofLibrary (library : ScriptLibrary) (choice : ScriptChoice) : Converter :=
  (ofLibrary? library choice).getD missing

end Converter

end TitleSieve
