import TitleSieve.Pattern.Source
import TitleSieve.Pattern.CharTest
import TitleSieve.Text.Identifier

/-!
Flags written inside a pattern. Flags of the whole pattern stand at its start; flags of a group hold
inside it and may be turned on and off. Case is compared in ASCII or in all of Unicode, so those two
flags exclude each other.
-/

namespace TitleSieve.Pattern

open Text

inductive Flag where
  | ignoreCase
  | locale
  | multiline
  | dotAll
  | verbose
  | ascii
  | template
  | unicode
  deriving DecidableEq, Repr

def Flag.ofChar? : Char → Option Flag
  | 'i' => some .ignoreCase
  | 'L' => some .locale
  | 'm' => some .multiline
  | 's' => some .dotAll
  | 'x' => some .verbose
  | 'a' => some .ascii
  | 't' => some .template
  | 'u' => some .unicode
  | _ => none

/-- Flags that say in which alphabet characters are compared. -/
def Flag.isType : Flag → Bool
  | .ascii | .locale | .unicode => true
  | _ => false

structure Flags where
  ignoreCase : Bool
  ascii : Bool
  multiline : Bool
  dotAll : Bool
  verbose : Bool
  deriving DecidableEq, Repr

namespace Flags

/-- Rules are matched ignoring case. -/
def standard : Flags := ⟨true, false, false, false, false⟩

def fold (flags : Flags) : Fold :=
  if flags.ignoreCase then (if flags.ascii then .ascii else .unicode) else .exact

def adjust (flags : Flags) (on off : List Flag) : Flags :=
  { ignoreCase := (flags.ignoreCase || on.contains .ignoreCase) && !off.contains .ignoreCase
    ascii := (flags.ascii && !on.contains .unicode) || on.contains .ascii
    multiline := (flags.multiline || on.contains .multiline) && !off.contains .multiline
    dotAll := (flags.dotAll || on.contains .dotAll) && !off.contains .dotAll
    verbose := (flags.verbose || on.contains .verbose) && !off.contains .verbose }

end Flags

/-- A flag setting as written: for the whole pattern, or for the group that it opens. -/
inductive FlagSetting where
  | whole (on : List Flag)
  | group (on off : List Flag)

def unknownOr (token : Token) (what : String) : Cause :=
  match token with
  | .plain c => if isLetter c then .unknownFlag else .missingAfterFlags what
  | _ => .missingAfterFlags what

def readFlagsOn (first : Flag) (src : Source) : Reading (List Flag × Char × Source) :=
  src.scan (first, ([] : List Flag))
    (fun (flag, on) here => do
      if flag = .locale then malformed .localeFlag here.position
      let on' := flag :: on
      if flag.isType && on'.any fun other => other.isType && other != flag then
        malformed .incompatibleFlags here.position
      let (token, rest) ← here.get
      match token with
      | some (.plain c) =>
        if c == ')' || c == '-' || c == ':' then return .done (on', c, rest)
        else
          match Flag.ofChar? c with
          | some next => return .more (next, on') rest
          | none => malformed (unknownOr (.plain c) "-, : or )") (rest.position - 1)
      | some token => malformed (unknownOr token "-, : or )") (rest.position - token.width)
      | none => malformed (.missingAfterFlags "-, : or )") here.position)
    fun (flag, on) position =>
      if flag = .locale then malformed .localeFlag position
      else if flag.isType && on.any fun other => other.isType && other != flag then
        malformed .incompatibleFlags position
      else malformed (.missingAfterFlags "-, : or )") position

def readFlagsOff (src : Source) : Reading (List Flag × Source) := do
  let (token, rest) ← src.get
  match token with
  | none => malformed (.missingAfterFlags "flag") src.position
  | some token =>
    match token with
    | .plain c =>
      match Flag.ofChar? c with
      | none => malformed (unknownOr token "flag") (rest.position - 1)
      | some first =>
        rest.scan (first, ([] : List Flag))
          (fun (flag, off) here => do
            if flag.isType then malformed .typeOff here.position
            let (token, rest) ← here.get
            match token with
            | some (.plain ':') => return .done (flag :: off, rest)
            | some (.plain c) =>
              match Flag.ofChar? c with
              | some next => return .more (next, flag :: off) rest
              | none => malformed (unknownOr (.plain c) ":") (rest.position - 1)
            | some token => malformed (unknownOr token ":") (rest.position - token.width)
            | none => malformed (.missingAfterFlags ":") here.position)
          fun (flag, _) position =>
            if flag.isType then malformed .typeOff position
            else malformed (.missingAfterFlags ":") position
    | _ => malformed (unknownOr token "flag") (rest.position - token.width)

/-- The flags to turn on, with the mark behind them; without any, the minus sign has been read. -/
def readFirstFlags (first : Char) (src : Source) : Reading (List Flag × Char × Source) :=
  match Flag.ofChar? first with
  | some flag => readFlagsOn flag src
  | none => .ok ([], '-', src)

/-- The flags to turn off, which stand behind a minus sign only. -/
def readLastFlags (mark : Char) (src : Source) : Reading (List Flag × Source) :=
  if mark = '-' then readFlagsOff src else .ok ([], src)

/-- A flag setting whose first character, a flag or a minus sign, has been read. -/
def readFlags (first : Char) (src : Source) : Reading (FlagSetting × Source) := do
  let (on, mark, rest) ← readFirstFlags first src
  if mark = ')' then return (.whole on, rest)
  else if on.contains .template then malformed .templateOn (rest.position - 1)
  else
    let (off, last) ← readLastFlags mark rest
    if off.contains .template then malformed .templateOff (last.position - 1)
    else if on.any off.contains then malformed .onAndOff (last.position - 1)
    else return (.group on off, last)

end TitleSieve.Pattern
