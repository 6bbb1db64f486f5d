import TitleSieve.Markup.Reference
import TitleSieve.Scan
import TitleSieve.Text.Lowercase

/-!
Reading a start tag behind its name. Attributes are separated by blanks and slashes; a value follows
equals signs and is quoted or runs to the next blank. A quote without its partner starts no value,
so the equals sign before it then begins an attribute of its own or leaves the tag unfinished.
-/

namespace TitleSieve.Markup

abbrev Attributes := List (Text × Text)

inductive TagReading where
  /-- Attributes in the order of the text, with their references unread. -/
  | complete (attributes : Attributes) (selfClosing : Bool) (rest : Text)
  /-- The text ends, or goes wrong, before the tag does. -/
  | unfinished
  /-- A character behind the name that no tag may contain there. -/
  | broken (rest : Text)

namespace StartTag

def isTagNameChar (c : Char) : Bool :=
  !(['\t', '\n', '\r', '\x0c', ' ', '/', '>', '\x00'].contains c)

def isGap (c : Char) : Bool := Text.isBlank c || c == '/'

def mayPrecedeAttribute (c : Char) : Bool := isGap c || c == '\'' || c == '"'

def isAttributeNameChar (c : Char) : Bool := !isGap c && c != '=' && c != '>'

def isBareChar (c : Char) : Bool := !Text.isBlank c && c != '>'

structure State where
  /-- The character before the rest of the tag. -/
  previous : Char
  /-- The attributes that have been read, latest first. -/
  attributes : Attributes

/-- The value behind equals signs, whose last character becomes the previous one. `doubled` tells
that there were several equals signs and `gap` the last blank behind them. -/
def readValue? (doubled : Bool) (gap : Option Char) (t : Text) : Option (Text × Char × Text) :=
  let bare (before : Text) (t : Text) : Text × Char × Text :=
    let value := before ++ t.takeWhile isBareChar
    (value, value.getLastD (gap.getD '='), t.dropWhile isBareChar)
  match t with
  | [] => some (bare [] [])
  | c :: rest =>
    if c = '\'' ∨ c = '"' then
      match Text.cutAt? [c] rest, gap with
      | some (value, after), _ => some (value, c, after)
      | none, some blank => some ([], blank, t)
      | none, none => if doubled then some (bare ['='] t) else none
    else some (bare [] t)

/-- The equals signs and the value behind an attribute's name, if they are there. -/
def readAssignment? (t : Text) : Option (Text × Char × Text) :=
  let t := t.dropWhile Text.isBlank
  match t.takeWhile (· == '=') with
  | [] => none
  | signs =>
    let after := t.dropWhile (· == '=')
    let blanks := after.takeWhile Text.isBlank
    readValue? (1 < signs.length) blanks.getLast? (after.dropWhile Text.isBlank)

/-- Reads an attribute that begins with `first`. An attribute without a value has the empty one. -/
def readAttribute (state : State) (first : Char) (t : Text) : State × Text :=
  let name := first :: t.takeWhile isAttributeNameChar
  let rest := t.dropWhile isAttributeNameChar
  match readAssignment? rest with
  | none => (⟨name.getLastD first, (Text.lower name, []) :: state.attributes⟩, rest)
  | some (value, last, after) => (⟨last, (Text.lower name, value) :: state.attributes⟩, after)

def step (state : State) (t : Text) : Except Fault (Progress Char State TagReading) :=
  match t with
  | '>' :: rest => .ok (.done (.complete state.attributes.reverse false rest))
  | '/' :: '>' :: rest => .ok (.done (.complete state.attributes.reverse true rest))
  | c :: rest =>
    if isGap c then .ok (.more { state with previous := c } rest)
    else if mayPrecedeAttribute state.previous then
      let (next, rest) := readAttribute state c rest
      .ok (.more next rest)
    else if isAsciiLetter c || c == '=' then .ok (.done .unfinished)
    else .ok (.done (.broken t))
  | [] => .ok (.done .unfinished)

def read (name rest : Text) : Except Fault TagReading :=
  scan step (fun _ => .ok .unfinished) ⟨name.getLastD '<', []⟩ rest

def unescapeAll : Attributes → Except Fault Attributes
  | [] => .ok []
  | (name, value) :: rest =>
    match unescape value with
    | .error fault => .error fault
    | .ok value => (unescapeAll rest).map ((name, value) :: ·)

end StartTag

end TitleSieve.Markup
