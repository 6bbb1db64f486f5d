import TitleSieve.Json.Value
import TitleSieve.Number.DigitLimit
import TitleSieve.Scan

/-!
Reading JSON. Lists and objects that are not yet closed stand on a stack, innermost first; a phase
says what may come next. The first fault is reported with its position. Half of a pair of surrogates
may stand alone in a string, which then is no text.
-/

namespace TitleSieve.Json

inductive Fault where
  | expectedValue
  | expectedName
  | expectedColon
  | expectedComma
  | controlCharacter
  | unterminatedString
  | badEscape
  | badUnicodeEscape
  | extraData
  | tooManyDigits (count : Nat)
  deriving DecidableEq, Repr

def Fault.message : Fault → String
  | .expectedValue => "Expecting value"
  | .expectedName => "Expecting property name enclosed in double quotes"
  | .expectedColon => "Expecting ':' delimiter"
  | .expectedComma => "Expecting ',' delimiter"
  | .controlCharacter => "Invalid control character at"
  | .unterminatedString => "Unterminated string starting at"
  | .badEscape => "Invalid \\escape"
  | .badUnicodeEscape => "Invalid \\uXXXX escape"
  | .extraData => "Extra data"
  | .tooManyDigits count => Number.tooManyDigits count

/-- A fault and how many characters were left where it lies. -/
structure Error where
  fault : Fault
  left : Nat
  deriving DecidableEq, Repr

def Error.position (e : Error) (source : Text) : Nat := source.length - e.left

def isSpace (c : Char) : Bool := c == ' ' || c == '\t' || c == '\n' || c == '\r'

def hexValue? (c : Char) : Option Nat :=
  if '0' ≤ c && c ≤ '9' then some (c.toNat - 48)
  else if 'a' ≤ c && c ≤ 'f' then some (c.toNat - 87)
  else if 'A' ≤ c && c ≤ 'F' then some (c.toNat - 55)
  else none

def hexCode? (a b c d : Char) : Option Nat := do
  let a ← hexValue? a
  let b ← hexValue? b
  let c ← hexValue? c
  let d ← hexValue? d
  return ((a * 16 + b) * 16 + c) * 16 + d

def plainEscape? : Char → Option Char
  | '"' => some '"'
  | '\\' => some '\\'
  | '/' => some '/'
  | 'b' => some '\x08'
  | 'f' => some '\x0c'
  | 'n' => some '\n'
  | 'r' => some '\r'
  | 't' => some '\t'
  | _ => none

def isHighHalf (code : Nat) : Bool := 0xd800 ≤ code && code ≤ 0xdbff

def isLowHalf (code : Nat) : Bool := 0xdc00 ≤ code && code ≤ 0xdfff

def joinHalves (high low : Nat) : Nat := 0x10000 + (high - 0xd800) * 0x400 + (low - 0xdc00)

def charOf? (code : Nat) : Option Char :=
  if isHighHalf code || isLowHalf code then none else some (Char.ofNat code)

/-- A string that has been read, and whether a half without the other half stands in it. The text
has replacement characters for such halves. -/
structure Content where
  text : Text
  torn : Bool
  deriving DecidableEq, Repr

/-- What a string with this content is read as. One with a lone half is no text; the undefined
number stands for it, which is no text either and cannot be sent. -/
def Content.value (content : Content) : Value :=
  if content.torn then .double .undefined else .text content.text

/-- What stands under a name with this content; what has a name with a lone half cannot be sent. -/
def Content.named (name : Content) (value : Value) : Value :=
  if name.torn then .double .undefined else value

/-- The rest of a string; `opened` is how many characters were left at its opening quote. The high
half of a pair is kept until it is known whether its low half follows. -/
def readString (opened : Nat) (torn : Bool) : Text → Text → Except Error (Content × Text)
  | _, [] => .error ⟨.unterminatedString, opened⟩
  | read, '"' :: rest => .ok (⟨read.reverse, torn⟩, rest)
  | _, ['\\'] => .error ⟨.unterminatedString, opened⟩
  | read, '\\' :: 'u' :: a :: b :: c :: d :: '\\' :: 'u' :: e :: f :: g :: h :: next :: rest =>
    match hexCode? a b c d with
    | none => .error ⟨.badUnicodeEscape, rest.length + 12⟩
    | some code =>
      if isHighHalf code then
        match hexCode? e f g h with
        | none => .error ⟨.badUnicodeEscape, rest.length + 6⟩
        | some low =>
          if isLowHalf low then
            readString opened torn (Char.ofNat (joinHalves code low) :: read) (next :: rest)
          else
            readString opened true ('\ufffd' :: read)
              ('\\' :: 'u' :: e :: f :: g :: h :: next :: rest)
      else
        match charOf? code with
        | some c =>
          readString opened torn (c :: read) ('\\' :: 'u' :: e :: f :: g :: h :: next :: rest)
        | none =>
          readString opened true ('\ufffd' :: read)
            ('\\' :: 'u' :: e :: f :: g :: h :: next :: rest)
  | read, '\\' :: 'u' :: a :: b :: c :: d :: next :: rest =>
    match hexCode? a b c d with
    | none => .error ⟨.badUnicodeEscape, rest.length + 6⟩
    | some code =>
      match charOf? code with
      | some c => readString opened torn (c :: read) (next :: rest)
      | none => readString opened true ('\ufffd' :: read) (next :: rest)
  | _, '\\' :: 'u' :: rest => .error ⟨.badUnicodeEscape, rest.length + 1⟩
  | read, '\\' :: c :: rest =>
    match plainEscape? c with
    | some image => readString opened torn (image :: read) rest
    | none => .error ⟨.badEscape, rest.length + 2⟩
  | read, c :: rest =>
    if c.toNat < 32 then .error ⟨.controlCharacter, rest.length + 1⟩
    else readString opened torn (c :: read) rest

def natOf (digits : Text) : Nat := digits.foldl (fun n c => n * 10 + (c.toNat - 48)) 0

/-- A number at the start of a text: without fraction and power it is whole. -/
def readNumber (t : Text) : Except Error (Value × Text) :=
  let (negative, unsigned) :=
    match t with
    | '-' :: rest => (true, rest)
    | _ => (false, t)
  let whole :=
    match unsigned with
    | '0' :: _ => ['0']
    | _ => unsigned.takeWhile Char.isDigit
  if whole.isEmpty then .error ⟨.expectedValue, t.length⟩
  else
    let afterWhole := unsigned.drop whole.length
    let fraction :=
      match afterWhole with
      | '.' :: rest => rest.takeWhile Char.isDigit
      | _ => []
    let afterFraction :=
      if fraction.isEmpty then afterWhole else afterWhole.drop (fraction.length + 1)
    let (powerNegative, signSize, power) :=
      match afterFraction with
      | e :: sign :: rest =>
        if e = 'e' || e = 'E' then
          if sign = '-' || sign = '+' then (sign == '-', 2, rest.takeWhile Char.isDigit)
          else (false, 1, (sign :: rest).takeWhile Char.isDigit)
        else (false, 0, [])
      | _ => (false, 0, [])
    let rest :=
      if power.isEmpty then afterFraction else afterFraction.drop (signSize + power.length)
    if fraction.isEmpty && power.isEmpty then
      if Number.digitLimit < whole.length then .error ⟨.tooManyDigits whole.length, t.length⟩
      else
        let n : Int := natOf whole
        .ok (.int (if negative then -n else n), rest)
    else
      let exponent : Int := natOf power
      let exponent := (if powerNegative then -exponent else exponent) - fraction.length
      .ok (.double (.ofDecimal negative (natOf (whole ++ fraction)) exponent), rest)

def readLiteral? (t : Text) : Option (Value × Text) :=
  let literals : List (String × Value) :=
    [("null", .null), ("true", .bool true), ("false", .bool false), ("NaN", .double .undefined),
     ("Infinity", .double (.infinite false)), ("-Infinity", .double (.infinite true))]
  literals.findSome? fun (word, value) =>
    if word.toList.isPrefixOf t then some (value, t.drop word.length) else none

inductive Open where
  | list (items : List Value)
  | object (fields : Fields) (name : Content)

inductive Phase where
  | value
  | firstItem
  | firstName (fields : Fields)
  | name (fields : Fields)
  | next
  | finished (value : Value)

structure Reader where
  stack : List Open
  phase : Phase

namespace Reader

/-- A value is complete and goes into the innermost open list or object. -/
def complete (stack : List Open) (value : Value) : Reader :=
  match stack with
  | [] => ⟨[], .finished value⟩
  | .list items :: outer => ⟨.list (value :: items) :: outer, .next⟩
  | .object fields name :: outer =>
    ⟨.object (Fields.set name.text (name.named value) fields) ⟨[], false⟩ :: outer, .next⟩

def stepValue (stack : List Open) (t : Text) : Except Error (Reader × Text) :=
  match t with
  | '"' :: rest => do
    let (content, rest) ← readString t.length false [] rest
    return (complete stack content.value, rest)
  | '[' :: rest => .ok (⟨stack, .firstItem⟩, rest)
  | '\x7b' :: rest => .ok (⟨stack, .firstName []⟩, rest)
  | _ =>
    match readLiteral? t with
    | some (value, rest) => .ok (complete stack value, rest)
    | none => (readNumber t).map fun (value, rest) => (complete stack value, rest)

def stepName (stack : List Open) (fields : Fields) (t : Text) : Except Error (Reader × Text) :=
  match t with
  | '"' :: rest => do
    let (name, rest) ← readString t.length false [] rest
    match rest.dropWhile isSpace with
    | ':' :: rest => return (⟨.object fields name :: stack, .value⟩, rest)
    | rest => .error ⟨.expectedColon, rest.length⟩
  | _ => .error ⟨.expectedName, t.length⟩

def stepNext (stack : List Open) (t : Text) : Except Error (Reader × Text) :=
  match stack, t with
  | .list items :: outer, ']' :: rest => .ok (complete outer (.list items.reverse), rest)
  | .list items :: outer, ',' :: rest => .ok (⟨.list items :: outer, .value⟩, rest)
  | .object fields _ :: outer, '\x7d' :: rest => .ok (complete outer (.object fields), rest)
  | .object fields _ :: outer, ',' :: rest => .ok (⟨outer, .name fields⟩, rest)
  | _, _ => .error ⟨.expectedComma, t.length⟩

/-- What a phase does with a text that does not start with a space. -/
def stepAt (reader : Reader) (t : Text) : Except Error (Reader × Text) :=
  match reader.phase, t with
  | .value, _ => stepValue reader.stack t
  | .firstItem, ']' :: rest => .ok (complete reader.stack (.list []), rest)
  | .firstItem, _ => stepValue (.list [] :: reader.stack) t
  | .firstName fields, '\x7d' :: rest => .ok (complete reader.stack (.object fields), rest)
  | .firstName fields, _ => stepName reader.stack fields t
  | .name fields, _ => stepName reader.stack fields t
  | .next, _ => stepNext reader.stack t
  | .finished _, _ => .error ⟨.extraData, t.length⟩

def step (reader : Reader) (t : Text) : Except Error (Progress Char Reader Value) :=
  match t.dropWhile isSpace with
  | [] => .ok (.more reader [])
  | t => (reader.stepAt t).map fun (reader, rest) => .more reader rest

def atEnd (reader : Reader) : Except Error Value :=
  match reader.phase with
  | .finished value => .ok value
  | .value | .firstItem => .error ⟨.expectedValue, 0⟩
  | .firstName _ | .name _ => .error ⟨.expectedName, 0⟩
  | .next => .error ⟨.expectedComma, 0⟩

end Reader

def Value.read (t : Text) : Except Error Value := scan Reader.step Reader.atEnd ⟨[], .value⟩ t

end TitleSieve.Json
