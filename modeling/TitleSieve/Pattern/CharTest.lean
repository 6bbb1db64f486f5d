import TitleSieve.Text.Lowercase

/-!
Tests on one character. A test compares code points as they are, or ignoring case in ASCII or in all
of Unicode. Two code points agree ignoring case when their lowercase forms are equal or partners,
that is, lowercase forms with a common uppercase form such as the two sigmas.
-/

namespace TitleSieve.Pattern

open Text

inductive Fold where
  | exact
  | ascii
  | unicode
  deriving DecidableEq, Repr

def lowerAscii (code : Nat) : Nat := if 65 ≤ code && code ≤ 90 then code + 32 else code

/-- The code point that stands for all with which it agrees, partners apart. -/
def Fold.key : Fold → Nat → Nat
  | .exact, code => code
  | .ascii, code => lowerAscii code
  | .unicode, code => lowerCode code

def partners (code : Nat) : List Nat := (casePartners.lookup code).getD []

def Fold.agree (fold : Fold) (a b : Nat) : Bool :=
  let keyA := fold.key a
  let keyB := fold.key b
  keyA == keyB || (fold == .unicode && (partners keyA).contains keyB)

/-- The code points whose lowercase form is the lowercase `code`. -/
def origins (code : Nat) : List Nat := code :: lowerRuns.filterMap (·.origin? code)

inductive Kind where
  | digit
  | space
  | word
  deriving DecidableEq, Repr

def isWordCode (code : Nat) : Bool :=
  code == 95 ||
    match classOf code with
    | .cased | .modifier | .caseless | .decimal | .letterlike | .numeral => true
    | _ => false

def isAsciiWordCode (code : Nat) : Bool :=
  code == 95 || (48 ≤ code && code ≤ 57) || (65 ≤ code && code ≤ 90) || (97 ≤ code && code ≤ 122)

def Kind.holds (kind : Kind) (ascii : Bool) (code : Nat) : Bool :=
  match kind, ascii with
  | .digit, true => 48 ≤ code && code ≤ 57
  | .digit, false => classOf code == .decimal
  | .space, true => (9 ≤ code && code ≤ 13) || code == 32
  | .space, false => isBlankCode code
  | .word, true => isAsciiWordCode code
  | .word, false => isWordCode code

inductive Member where
  | code (n : Nat)
  | span (first last : Nat)
  | kind (which : Kind) (negated ascii : Bool)
  deriving DecidableEq, Repr

def inSpan (first last code : Nat) : Bool := first ≤ code && code ≤ last

/-- The last code point that fits in sixteen bits. -/
def lastBasicCode : Nat := 0xffff

/-- A span admits, ignoring case, what agrees with one of its code points. A span that reaches
beyond the basic plane also admits what has its uppercase form in it. -/
def spanAdmits (fold : Fold) (first last code : Nat) : Bool :=
  let key := fold.key code
  match fold with
  | .exact => inSpan first last code
  | .ascii =>
    inSpan first last key || (97 ≤ key && key ≤ 122 && inSpan first last (key - 32)) ||
      (lastBasicCode < last && inSpan first last (upperCode key))
  | .unicode =>
    ((key :: partners key).flatMap origins).any (inSpan first last) ||
      (lastBasicCode < last && inSpan first last (upperCode key))

/-- Ignoring case, a single member beyond the basic plane admits by lowercase form only. -/
def Member.admits (fold : Fold) (code : Nat) : Member → Bool
  | .code n => if n ≤ lastBasicCode then fold.agree n code else fold.key code == n
  | .span first last => spanAdmits fold first last code
  | .kind which negated ascii => which.holds ascii code != negated

inductive CharTest where
  | any (lineFeeds : Bool)
  | literal (negated : Bool) (fold : Fold) (code : Nat)
  | set (negated : Bool) (fold : Fold) (members : List Member)
  deriving DecidableEq, Repr

def CharTest.admits (code : Nat) : CharTest → Bool
  | .any lineFeeds => lineFeeds || code != 10
  | .literal negated fold n => fold.agree n code != negated
  | .set negated fold members => members.any (·.admits fold code) != negated

end TitleSieve.Pattern
