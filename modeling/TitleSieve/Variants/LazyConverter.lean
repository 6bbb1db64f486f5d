import TitleSieve.Variants.Converter

/-!
A converter that takes its conversions from a library when a text is first submitted to it. It takes
both of them or neither, and keeps what it has taken.
-/

namespace TitleSieve

structure LazyConverter where
  library : ScriptLibrary
  choice : ScriptChoice
  conversionA : Option (Text → Option Text)
  conversionB : Option (Text → Option Text)

namespace LazyConverter

def fresh (library : ScriptLibrary) (choice : ScriptChoice) : LazyConverter :=
  ⟨library, choice, none, none⟩

def isLoaded (lazily : LazyConverter) : Bool :=
  lazily.conversionA.isSome && lazily.conversionB.isSome

/-- Takes the conversions unless they have been taken. -/
def load (lazily : LazyConverter) : Except ConversionFault Unit × LazyConverter :=
  if lazily.isLoaded then (.ok (), lazily)
  else
    match lazily.library.conversion? lazily.choice.nameA,
        lazily.library.conversion? lazily.choice.nameB with
    | some a, some b => (.ok (), { lazily with conversionA := some a, conversionB := some b })
    | _, _ => (.error .unavailable, lazily)

/-- What becomes of texts that are submitted: it loads before it converts. -/
def converter (lazily : LazyConverter) : Converter :=
  match lazily.load.2.conversionA, lazily.load.2.conversionB with
  | some a, some b => ⟨Converter.convertBy a, Converter.convertBy b⟩
  | _, _ => .missing

/-- The conversions that it takes when a text is submitted to it, if it takes any then. -/
def loads? (lazily : LazyConverter) : Option ScriptChoice :=
  if !lazily.isLoaded && lazily.load.2.isLoaded then some lazily.choice else none

def after (submitted : List Text) (lazily : LazyConverter) : LazyConverter :=
  if submitted.isEmpty then lazily else lazily.load.2

end LazyConverter

end TitleSieve
