import TitleSieve.Scan
import TitleSieve.Text.Lowercase

/-!
Files of environment variables. Each line binds a name to a value, which may be quoted; a name
without an equals sign is bound to nothing, comments begin with a number sign, and a line that is no
binding is passed over. Values may refer to variables bound before them or in the environment.
-/

namespace TitleSieve.Settings

/-- Variables with their values; a variable may be named without having a value. -/
abbrev Variables := List (Text × Option Text)

namespace Variables

/-- Binds a variable; one that is bound already keeps its place. -/
def bind (name : Text) (value : Option Text) : Variables → Variables
  | [] => [(name, value)]
  | (n, v) :: rest => if n = name then (n, value) :: rest else (n, v) :: bind name value rest

def find? (name : Text) (bound : Variables) : Option Text :=
  ((bound.reverse.find? fun (n, _) => Text.lower n == Text.lower name).map Prod.snd).join

end Variables

def isLineBreak (c : Char) : Bool := c == '\r' || c == '\n'

/-- Blanks within a line. -/
def isGap (c : Char) : Bool := Text.isBlank c && !isLineBreak c

/-- What stands before the quote that closes a value, and what follows it. An escaped quote closes
the value only if no other does; `kept` is such a quote, should there be one. -/
def readQuoted (quote : Char) (kept : Option (Text × Text)) (read : Text) :
    Text → Option (Text × Text)
  | [] => kept
  | c :: rest =>
    if c = quote then
      match read with
      | '\\' :: _ => readQuoted quote (some (read.reverse, rest)) (c :: read) rest
      | _ => some (read.reverse, rest)
    else readQuoted quote kept (c :: read) rest

/-- Replaces the escapes that are known; a backslash before anything else stays. -/
def replaceEscapes (known : List (Char × Char)) : Text → Text
  | '\\' :: c :: rest =>
    match known.lookup c with
    | some meant => meant :: replaceEscapes known rest
    | none => '\\' :: replaceEscapes known (c :: rest)
  | c :: rest => c :: replaceEscapes known rest
  | [] => []

def singleEscapes : List (Char × Char) := [('\\', '\\'), ('\'', '\'')]

def doubleEscapes : List (Char × Char) :=
  singleEscapes ++ [('"', '"'), ('a', '\x07'), ('b', '\x08'), ('f', '\x0c'), ('n', '\n'),
    ('r', '\r'), ('t', '\t'), ('v', '\x0b')]

def beforeComment : (blank : Bool) → Text → Text
  | _, [] => []
  | blank, c :: rest =>
    if blank && c == '#' then [] else c :: beforeComment (Text.isBlank c) rest

def readUnquoted (t : Text) : Text × Text :=
  (Text.trimEnd (beforeComment false (t.takeWhile (!isLineBreak ·))), t.dropWhile (!isLineBreak ·))

def readValue? (t : Text) : Option (Text × Text) :=
  match t with
  | '\'' :: rest =>
    (readQuoted '\'' none [] rest).map fun (v, rest) => (replaceEscapes singleEscapes v, rest)
  | '"' :: rest =>
    (readQuoted '"' none [] rest).map fun (v, rest) => (replaceEscapes doubleEscapes v, rest)
  | _ => some (readUnquoted t)

def isNameChar (c : Char) : Bool := c != '=' && c != '#' && !Text.isBlank c

/-- A name, which may be quoted; a comment stands in its place as the empty name. -/
def readName? (t : Text) : Option (Text × Text) :=
  match t with
  | '#' :: _ => some ([], t)
  | '\'' :: rest =>
    match rest.takeWhile (· != '\''), rest.dropWhile (· != '\'') with
    | [], _ | _, [] => none
    | name, _ :: rest => some (name, rest)
  | _ =>
    match t.takeWhile isNameChar with
    | [] => none
    | name => some (name, t.dropWhile isNameChar)

def exportWord : Text := "export".toList

/-- A word before the name that says that the variable is meant for others. -/
def dropExport (t : Text) : Text :=
  if exportWord.isPrefixOf t && ((t.drop exportWord.length).head?.any isGap) then
    (t.drop exportWord.length).dropWhile isGap
  else t

/-- The end of a line, behind a comment if there is one. -/
def readLineEnd? (t : Text) : Option Text :=
  let t := t.dropWhile isGap
  let t := if t.head? == some '#' then t.dropWhile (!isLineBreak ·) else t
  match t with
  | [] => some []
  | '\r' :: '\n' :: rest => some rest
  | c :: rest => if isLineBreak c then some rest else none

inductive Line where
  | binding (name : Text) (value : Option Text) (rest : Text)
  | wrong (rest : Text)

def readLine (t : Text) : Line :=
  let start := dropExport t
  match readName? start with
  | none => .wrong start
  | some (name, rest) =>
    let rest := rest.dropWhile isGap
    let finish (value : Option Text) (rest : Text) : Line :=
      match readLineEnd? rest with
      | some rest => .binding name value rest
      | none => .wrong rest
    match rest with
    | '=' :: assigned =>
      let assigned := assigned.dropWhile isGap
      match readValue? assigned with
      | some (value, rest) => finish (some value) rest
      | none => .wrong assigned
    | _ => finish none rest

def skipLine (t : Text) : Text :=
  match t.dropWhile (!isLineBreak ·) with
  | [] => []
  | _ :: rest => rest

def stepLine (bound : Variables) (t : Text) : Except Empty (Progress Char Variables Variables) :=
  match t.dropWhile Text.isBlank with
  | [] => .ok (.done bound)
  | line =>
    match readLine line with
    | .wrong rest => .ok (.more bound (skipLine rest))
    | .binding [] _ rest => .ok (.more bound rest)
    | .binding name value rest => .ok (.more (bound ++ [(name, value)]) rest)

def readBindings (t : Text) : Variables :=
  match scan stepLine (fun bound => .ok bound) [] t with
  | .ok bound => bound

/-- A reference to a variable, from behind its opening brace: its name, what stands for it if it is
not bound, and the rest. -/
def readVariable? (t : Text) : Option (Text × Text × Text) :=
  let isName (c : Char) : Bool := c != '\x7d' && c != ':'
  let isOther (c : Char) : Bool := c != '\x7d'
  let name := t.takeWhile isName
  match t.dropWhile isName with
  | '\x7d' :: rest => some (name, [], rest)
  | ':' :: '-' :: other =>
    match other.dropWhile isOther with
    | [] => none
    | _ :: rest => some (name, other.takeWhile isOther, rest)
  | _ => none

/-- A value with its references replaced; `skip` counts the characters of the one just replaced. -/
def expandFrom (value? : Text → Option (Option Text)) : (skip : Nat) → Text → Text
  | _, [] => []
  | skip + 1, _ :: rest => expandFrom value? skip rest
  | 0, c :: rest =>
    match c, rest with
    | '$', '\x7b' :: inside =>
      match readVariable? inside with
      | some (name, other, after) =>
        (match value? name with
          | some value => value.getD []
          | none => other) ++ expandFrom value? (rest.length - after.length) rest
      | none => c :: expandFrom value? 0 rest
    | _, _ => c :: expandFrom value? 0 rest

def expand (value? : Text → Option (Option Text)) (t : Text) : Text := expandFrom value? 0 t

/-- The variables of a file; each value may refer to those bound before it and to the
environment. -/
def Variables.ofFile (environment : Variables) (t : Text) : Variables :=
  (readBindings t).foldl (fun bound (name, value) =>
    let value? (n : Text) : Option (Option Text) :=
      match bound.lookup n with
      | some value => some value
      | none => environment.lookup n
    bound.bind name (value.map (expand value?))) []

end TitleSieve.Settings
