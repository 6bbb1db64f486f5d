import TitleSieve.Number.DigitLimit
import TitleSieve.Text.Quoted

/-!
What can be wrong with the text of a pattern. A malformed pattern has a cause and mostly a position;
a pattern with a number or code too large, or with two flags that exclude each other, is refused
altogether, which is a different matter for those who read rules.
-/

namespace TitleSieve.Pattern

open Text

inductive Cause where
  | trailingBackslash
  | unterminatedSet
  | badRange (first last : Text)
  | incompleteEscape (escape : Text)
  | badEscape (escape : Text)
  | octalOutOfRange (escape : Text)
  | missingBrace
  | unknownCharacterName (name : Text)
  | missingName (what : String)
  | unterminatedName (terminator : Char)
  | badGroupName (name : Text)
  | unknownGroupName (name : Text)
  | redefinedGroup (name : Text) (index earlier : Nat)
  | badGroupNumber
  | invalidReference (index : Nat)
  | openReference
  | lookbehindReference
  | thirdBranch
  | decreasingRepeat
  | nothingToRepeat
  | multipleRepeat
  | unexpectedEnd
  | unknownExtension (extension : Text)
  | unterminatedComment
  | unterminatedGroup
  | unbalancedParenthesis
  | lateGlobalFlags
  | unknownFlag
  | missingAfterFlags (what : String)
  | localeFlag
  | incompatibleFlags
  | templateOn
  | templateOff
  | typeOff
  | onAndOff
  | variableLookbehind
  | distantLookbehind
  | templateLoop (operator : String)
  deriving DecidableEq, Repr

def Cause.message : Cause → String
  | .trailingBackslash => "bad escape (end of pattern)"
  | .unterminatedSet => "unterminated character set"
  | .badRange first last =>
    "bad character range " ++ String.ofList first ++ "-" ++ String.ofList last
  | .incompleteEscape escape => "incomplete escape " ++ String.ofList escape
  | .badEscape escape => "bad escape " ++ String.ofList escape
  | .octalOutOfRange escape =>
    "octal escape value " ++ String.ofList escape ++ " outside of range 0-0o377"
  | .missingBrace => "missing \x7b"
  | .unknownCharacterName name => "undefined character name " ++ String.ofList (quoted name)
  | .missingName what => "missing " ++ what
  | .unterminatedName terminator => "missing " ++ terminator.toString ++ ", unterminated name"
  | .badGroupName name => "bad character in group name " ++ String.ofList (quoted name)
  | .unknownGroupName name => "unknown group name " ++ String.ofList (quoted name)
  | .redefinedGroup name index earlier =>
    "redefinition of group name " ++ String.ofList (quoted name) ++ " as group " ++
      toString index ++ "; was group " ++ toString earlier
  | .badGroupNumber => "bad group number"
  | .invalidReference index => "invalid group reference " ++ toString index
  | .openReference => "cannot refer to an open group"
  | .lookbehindReference => "cannot refer to group defined in the same lookbehind subpattern"
  | .thirdBranch => "conditional backref with more than two branches"
  | .decreasingRepeat => "min repeat greater than max repeat"
  | .nothingToRepeat => "nothing to repeat"
  | .multipleRepeat => "multiple repeat"
  | .unexpectedEnd => "unexpected end of pattern"
  | .unknownExtension extension => "unknown extension ?" ++ String.ofList extension
  | .unterminatedComment => "missing ), unterminated comment"
  | .unterminatedGroup => "missing ), unterminated subpattern"
  | .unbalancedParenthesis => "unbalanced parenthesis"
  | .lateGlobalFlags => "global flags not at the start of the expression"
  | .unknownFlag => "unknown flag"
  | .missingAfterFlags what => "missing " ++ what
  | .localeFlag => "bad inline flags: cannot use 'L' flag with a str pattern"
  | .incompatibleFlags => "bad inline flags: flags 'a', 'u' and 'L' are incompatible"
  | .templateOn => "bad inline flags: cannot turn on global flag"
  | .templateOff => "bad inline flags: cannot turn off global flag"
  | .typeOff => "bad inline flags: cannot turn off flags 'a', 'u' and 'L'"
  | .onAndOff => "bad inline flags: flag turned on and off"
  | .variableLookbehind => "look-behind requires fixed-width pattern"
  | .distantLookbehind => "looks too much behind"
  | .templateLoop operator => "internal: unsupported template operator " ++ operator

/-- Why a pattern is refused altogether. -/
inductive Excess where
  | repetition
  | code
  | digits (count : Nat)
  | flags
  deriving DecidableEq, Repr

def Excess.message : Excess → String
  | .repetition => "the repetition number is too large"
  | .code => "Python int too large to convert to C int"
  | .digits count => Number.tooManyDigits count
  | .flags => "ASCII and UNICODE flags are incompatible"

inductive ReadError where
  | malformed (cause : Cause) (position : Option Nat)
  | refused (excess : Excess)
  deriving DecidableEq, Repr

/-- The line of a position, from one, and its column in that line, from one. -/
def lineAndColumn (body : Text) (position : Nat) : Nat × Nat :=
  let before := body.take position
  (before.count '\n' + 1, (before.reverse.takeWhile (· != '\n')).length + 1)

/-- The cause, then where it lies; bodies of several lines tell the line and column too. -/
def describeFault (body : Text) (cause : Cause) : Option Nat → String
  | none => cause.message
  | some position =>
    let place := cause.message ++ " at position " ++ toString position
    if body.contains '\n' then
      let (line, column) := lineAndColumn body position
      place ++ " (line " ++ toString line ++ ", column " ++ toString column ++ ")"
    else place

end TitleSieve.Pattern
