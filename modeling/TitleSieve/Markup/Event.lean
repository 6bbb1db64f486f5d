import TitleSieve.Markup.StartTag
import TitleSieve.Pattern.CharTest

/-!
What the text of a page consists of: stretches of text, start tags, end tags and insertions such as
comments. Reading goes over the text twice. The first time it stops where a construct is unfinished
or a reference cannot be told; the second time it goes on from there, takes what is unfinished as
text, and where it stops again the rest is text as it stands.
-/

namespace TitleSieve.Markup

/-- What stands in a page beside elements and text. -/
inductive Insertion where
  | cdata
  | comment
  | doctype
  | declaration
  | instruction
  deriving DecidableEq, Repr

inductive Event where
  | text (content : Text)
  | opening (name : Text) (attributes : Attributes) (selfClosing : Bool)
  | closing (name : Text)
  | insertion (kind : Insertion) (content : Text)
  deriving DecidableEq, Repr

namespace Event

/-- Elements whose content is text up to their end tag. -/
def verbatimNames : List Text := ["script".toList, "style".toList]

/-- What stands before the first place where `ends` succeeds, and what it leaves. -/
def cutWhere? (ends : Text → Option Text) : Text → Option (Text × Text)
  | [] => none
  | c :: rest =>
    match ends (c :: rest) with
    | some after => some ([], after)
    | none => (cutWhere? ends rest).map fun (before, after) => (c :: before, after)

def endsComment? : Text → Option Text
  | '-' :: '-' :: rest =>
    match rest.dropWhile Text.isBlank with
    | '>' :: after => some after
    | _ => none
  | _ => none

/-- So many closing brackets and an angle bracket, with blanks in between. -/
def endsSection? : Nat → Text → Option Text
  | 0, '>' :: after => some after
  | brackets + 1, ']' :: rest => endsSection? brackets (rest.dropWhile Text.isBlank)
  | _, _ => none

/-- What a construct turns out to be: a few events, or something unfinished. -/
inductive Construct where
  | read (events : List Event) (rest : Text)
  | opened (event : Event) (name rest : Text)
  | unfinished

def upTo (mark : Char) (event : Text → Event) (t : Text) : Construct :=
  match Text.cutAt? [mark] t with
  | some (content, rest) => .read [event content] rest
  | none => .unfinished

/-- A start tag, from its name on. A self-closing tag opens no verbatim text. -/
def readStartTag (t : Text) : Except Fault Construct :=
  let written := t.takeWhile StartTag.isTagNameChar
  let name := Text.lower written
  match StartTag.read written (t.dropWhile StartTag.isTagNameChar) with
  | .error fault => .error fault
  | .ok .unfinished => .ok .unfinished
  | .ok (.broken rest) => .ok (.read [.text ('<' :: written)] rest)
  | .ok (.complete attributes selfClosing rest) =>
    match StartTag.unescapeAll attributes with
    | .error fault => .error fault
    | .ok attributes =>
      let event := Event.opening name attributes selfClosing
      if !selfClosing && verbatimNames.contains name then .ok (.opened event name rest)
      else .ok (.read [event] rest)

def isEndTagNameChar (c : Char) : Bool :=
  isAsciiLetter c || isDecimal c || ['-', '.', ':', '_'].contains c

/-- The name of an end tag whose inside has this form: blanks, a plain name, blanks. -/
def plainEndName? (inside : Text) : Option Text :=
  match inside.dropWhile Text.isBlank with
  | [] => none
  | c :: rest =>
    if isAsciiLetter c && (rest.dropWhile isEndTagNameChar).all Text.isBlank then
      some (c :: rest.takeWhile isEndTagNameChar)
    else none

/-- An end tag, from behind its slash. Without a name it is a comment, or nothing if it is empty. -/
def readEndTag (t : Text) : Construct :=
  match Text.cutAt? ['>'] t with
  | none => .unfinished
  | some (inside, rest) =>
    match plainEndName? inside, inside with
    | some name, _ => .read [.closing (Text.lower name)] rest
    | none, [] => .read [] rest
    | none, c :: _ =>
      if isAsciiLetter c then
        .read [.closing (Text.lower (inside.takeWhile StartTag.isTagNameChar))] rest
      else .read [.insertion .comment inside] rest

def sectionNames : List Text :=
  ["temp", "cdata", "ignore", "include", "rcdata"].map String.toList

def conditionNames : List Text := ["if", "else", "endif"].map String.toList

def isSectionNameChar (c : Char) : Bool :=
  isAsciiLetter c || isDecimal c || ['-', '_', '.'].contains c

def cdataOpening : Text := "CDATA[".toList

def startsCdata (content : Text) : Bool :=
  (content.take cdataOpening.length).map Char.toUpper == cdataOpening

def sectionEvent (content : Text) : Event :=
  if startsCdata content then .insertion .cdata (content.drop cdataOpening.length)
  else .insertion .declaration content

def contextLength : Nat := 20

/-- A marked section, from behind its opening bracket. -/
def readSection (t : Text) : Except Fault Construct :=
  match t with
  | [] => .ok .unfinished
  | c :: _ =>
    if !isAsciiLetter c then
      .error (.missingSectionName (('<' :: '!' :: '[' :: t).take contextLength))
    else
      let name := t.takeWhile isSectionNameChar
      let spaced := name ++ (t.drop name.length).takeWhile Text.isBlank
      let close (brackets : Nat) : Construct :=
        match cutWhere? (endsSection? brackets) t with
        | some (content, rest) => .read [sectionEvent content] rest
        | none => .unfinished
      if spaced.length = t.length then .ok .unfinished
      else if sectionNames.contains (Text.lower name) then .ok (close 2)
      else if conditionNames.contains (Text.lower name) then .ok (close 1)
      else .error (.unknownSection spaced)

def doctypeName : Text := "doctype".toList

/-- A document type shows what stands one character behind the word that opens it. -/
def doctypeEvent (content : Text) : Event :=
  .insertion .doctype (content.drop (doctypeName.length + 1))

/-- A declaration, from behind its exclamation mark. -/
def readDeclaration (t : Text) : Except Fault Construct :=
  match t with
  | '-' :: '-' :: rest =>
    match cutWhere? endsComment? rest with
    | some (content, rest) => .ok (.read [.insertion .comment content] rest)
    | none => .ok .unfinished
  | '[' :: rest => readSection rest
  | _ =>
    if Text.lower (t.take doctypeName.length) = doctypeName then .ok (upTo '>' doctypeEvent t)
    else .ok (upTo '>' (.insertion .comment) t)

/-- What an angle bracket opens; one that opens nothing is text, unless the text ends with it. -/
def readConstruct (t : Text) : Except Fault Construct :=
  match t with
  | [] => .ok .unfinished
  | '/' :: rest => .ok (readEndTag rest)
  | '!' :: rest => readDeclaration rest
  | '?' :: rest => .ok (upTo '>' (.insertion .instruction) rest)
  | c :: _ => if isAsciiLetter c then readStartTag t else .ok (.read [.text ['<']] t)

/-- A stretch that an unfinished construct leaves as text, from behind its angle bracket. -/
def unfinishedText (t : Text) : Text × Text :=
  match Text.cutAt? ['>'] t with
  | some (before, rest) => ('<' :: before ++ ['>'], rest)
  | none =>
    let before := t.takeWhile (· != '<')
    if before.length = t.length then (['<'], t) else ('<' :: before, t.dropWhile (· != '<'))

def isReferenceChar (c : Char) : Bool :=
  isAsciiLetter c || isDecimal c || c == '-' || c == '.'

/-- The name of a reference in text and what follows it. A name that the text ends with is taken up
to its last hyphen or full stop. -/
def referenceName? (t : Text) : Option (Text × Text) :=
  let name := t.takeWhile isReferenceChar
  match t.dropWhile isReferenceChar with
  | [] =>
    match name.reverse.dropWhile (fun c => isAsciiLetter c || isDecimal c) with
    | [] | [_] => none
    | _ :: kept => some (kept.reverse, t.drop kept.length)
  | rest => some (name, rest)

inductive Reference where
  | read (content rest : Text)
  /-- The reading stops, after some text, with this rest. -/
  | stop (content rest : Text)

/-- A numbered reference, from behind its number sign. A number must be followed by something that
is no hexadecimal digit. -/
def readNumbered (t : Text) : Except Fault Reference :=
  let stopped : Reference :=
    if t.contains ';' then .stop ['&', '#'] t else .stop [] ('&' :: '#' :: t)
  match numeral? t with
  | none => .ok stopped
  | some (base, digits, rest) =>
    match rest with
    | [] => .ok stopped
    | c :: _ =>
      if isHexadecimal c then .ok stopped
      else
        match codeOf base digits with
        | .error fault => .error fault
        | .ok code => .ok (.read [charAt code] (takeSemicolon rest).2)

def readReference (final : Bool) (t : Text) : Except Fault Reference :=
  match t with
  | [] => .ok (.stop [] ['&'])
  | '#' :: rest => readNumbered rest
  | c :: _ =>
    if isAsciiLetter c then
      match referenceName? t with
      | some (name, rest) => .ok (.read (namedText name) (takeSemicolon rest).2)
      | none => .ok (.stop [] (if final && t.length == 1 then t else '&' :: t))
    else .ok (.read ['&'] t)

/-- How far a reading has come: the name whose verbatim text is being read, and the events, latest
first. -/
structure Reading where
  verbatim : Option Text
  events : List Event

def Reading.add (reading : Reading) (event : Event) : Reading :=
  { reading with events := event :: reading.events }

def Reading.addText (reading : Reading) (content : Text) : Reading :=
  if content.isEmpty then reading else reading.add (.text content)

structure Stopped where
  reading : Reading
  left : Text

/-- Reads a name ignoring case. -/
def afterName? : Text → Text → Option Text
  | [], t => some t
  | _ :: _, [] => none
  | n :: name, c :: t =>
    if Pattern.Fold.unicode.agree n.toNat c.toNat then afterName? name t else none

/-- The end tag of verbatim text; its name may be written in any case. -/
def endsVerbatim? (name : Text) : Text → Option Text
  | '<' :: '/' :: rest =>
    match (afterName? name (rest.dropWhile Text.isBlank)).map (·.dropWhile Text.isBlank) with
    | some ('>' :: after) => some after
    | _ => none
  | _ => none

/-- An end tag of verbatim text whose name is not plainly written ends nothing and is text
itself. -/
def stepVerbatim (reading : Reading) (name t : Text) : Progress Char Reading Stopped :=
  match cutWhere? (endsVerbatim? name) t with
  | none => .done ⟨reading, t⟩
  | some (content, rest) =>
    let reading := reading.addText content
    let tag := (t.drop content.length).take (t.length - content.length - rest.length)
    if (plainEndName? (tag.drop 2).dropLast).isSome then
      .more ⟨none, .closing name :: reading.events⟩ rest
    else .more (reading.add (.text tag)) rest

def stepConstruct (final : Bool) (reading : Reading) (t : Text) :
    Except Fault (Progress Char Reading Stopped) :=
  match readConstruct t with
  | .error fault => .error fault
  | .ok (.read events rest) => .ok (.more (events.foldl Reading.add reading) rest)
  | .ok (.opened event name rest) => .ok (.more ⟨some name, event :: reading.events⟩ rest)
  | .ok .unfinished =>
    if final && !t.isEmpty then
      let (content, rest) := unfinishedText t
      .ok (.more (reading.add (.text content)) rest)
    else .ok (.done ⟨reading, '<' :: t⟩)

def stepReference (final : Bool) (reading : Reading) (t : Text) :
    Except Fault (Progress Char Reading Stopped) :=
  match readReference final t with
  | .error fault => .error fault
  | .ok (.read content rest) => .ok (.more (reading.addText content) rest)
  | .ok (.stop content rest) => .ok (.done ⟨reading.addText content, rest⟩)

def isPlain (c : Char) : Bool := c != '<' && c != '&'

def step (final : Bool) (reading : Reading) (t : Text) :
    Except Fault (Progress Char Reading Stopped) :=
  match reading.verbatim, t with
  | some name, _ => .ok (stepVerbatim reading name t)
  | none, '<' :: rest => stepConstruct final reading rest
  | none, '&' :: rest => stepReference final reading rest
  | none, _ => .ok (.more (reading.add (.text (t.takeWhile isPlain))) (t.dropWhile isPlain))

/-- Reads as far as one reading goes. -/
def readOnce (final : Bool) (verbatim : Option Text) (t : Text) : Except Fault Stopped :=
  scan (step final) (fun reading => .ok ⟨reading, []⟩) ⟨verbatim, []⟩ t

/-- The text left when reading stops for good; verbatim text without an end is dropped. -/
def remainder (stopped : Stopped) : List Event :=
  if stopped.reading.verbatim.isSome || stopped.left.isEmpty then [] else [.text stopped.left]

def readAll (t : Text) : Except Fault (List Event) :=
  match readOnce false none t with
  | .error fault => .error fault
  | .ok first =>
    match readOnce true first.reading.verbatim first.left with
    | .error fault => .error fault
    | .ok second =>
      .ok (first.reading.events.reverse ++ second.reading.events.reverse ++ remainder second)

end Event

end TitleSieve.Markup
