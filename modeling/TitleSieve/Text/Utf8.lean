import TitleSieve.Text.Quoted

/-!
Strict reading of UTF-8. Reading stops at the first bytes that begin no character; the error names
them and says whether the first byte can start a character at all, whether a later byte fails to
continue it, or whether the input ends too early.
-/

namespace TitleSieve.Text.Utf8

inductive Fault where
  | invalidStart
  | invalidContinuation
  | unexpectedEnd
  deriving DecidableEq, Repr

/-- The bytes from `start` up to but not including `stop` begin no character. -/
structure Error where
  start : Nat
  stop : Nat
  firstByte : Nat
  fault : Fault
  deriving DecidableEq, Repr

def Fault.message : Fault → String
  | .invalidStart => "invalid start byte"
  | .invalidContinuation => "invalid continuation byte"
  | .unexpectedEnd => "unexpected end of data"

def Error.message (e : Error) : String :=
  if e.stop = e.start + 1 then
    "'utf-8' codec can't decode byte 0x" ++ String.ofList (hexDigits 2 e.firstByte) ++
      " in position " ++ toString e.start ++ ": " ++ e.fault.message
  else
    "'utf-8' codec can't decode bytes in position " ++ toString e.start ++ "-" ++
      toString (e.stop - 1) ++ ": " ++ e.fault.message

def isTail (b : Nat) : Bool := 0x80 ≤ b && b < 0xc0

/-- Which second bytes may follow a first byte: no overlong forms, no surrogates, nothing too
large. -/
def isSecond (first b : Nat) : Bool :=
  isTail b && (first != 0xe0 || 0xa0 ≤ b) && (first != 0xed || b < 0xa0) &&
    (first != 0xf0 || 0x90 ≤ b) && (first != 0xf4 || b < 0x90)

/-- How many bytes a character takes that starts with this byte; none start with the others. -/
def sizeFrom (first : Nat) : Option Nat :=
  if first < 0x80 then some 1
  else if first < 0xc2 then none
  else if first < 0xe0 then some 2
  else if first < 0xf0 then some 3
  else if first < 0xf5 then some 4
  else none

def leadBits (size first : Nat) : Nat :=
  match size with
  | 1 => first
  | 2 => first - 0xc0
  | 3 => first - 0xe0
  | _ => first - 0xf0

/-- How a character goes on: its code, or how many bytes were good before the fault. -/
inductive Outcome where
  | code (n : Nat)
  | broken (good : Nat) (fault : Fault)

def readTails (good : Nat) (soFar : Nat) : Nat → List Nat → Outcome
  | 0, _ => .code soFar
  | _ + 1, [] => .broken good .unexpectedEnd
  | wanted + 1, b :: rest =>
    if isTail b then readTails (good + 1) (soFar * 64 + (b - 0x80)) wanted rest
    else .broken good .invalidContinuation

def readChar (first : Nat) (rest : List Nat) : Outcome :=
  match sizeFrom first with
  | none => .broken 1 .invalidStart
  | some 1 => .code first
  | some size =>
    match rest with
    | [] => .broken 1 .unexpectedEnd
    | second :: more =>
      if isSecond first second then
        readTails 2 (leadBits size first * 64 + (second - 0x80)) (size - 2) more
      else .broken 1 .invalidContinuation

/-- Reads the bytes after those that belong to a character already read, `skip` in number. -/
def decodeFrom (position skip : Nat) : List Nat → Except Error Text
  | [] => .ok []
  | b :: rest =>
    match skip with
    | skip + 1 => decodeFrom (position + 1) skip rest
    | 0 =>
      match readChar b rest with
      | .code n =>
        match decodeFrom (position + 1) ((sizeFrom b).getD 1 - 1) rest with
        | .ok t => .ok (Char.ofNat n :: t)
        | .error e => .error e
      | .broken good fault => .error ⟨position, position + good, b, fault⟩

def decode (bytes : List Nat) : Except Error Text := decodeFrom 0 0 bytes

end TitleSieve.Text.Utf8
