import TitleSieve.Pattern.Escape

/-!
Character sets between square brackets. A closing bracket that comes first is a member; a hyphen
between two code points makes a span of them and anywhere else is a member itself.
-/

namespace TitleSieve.Pattern

def readMember (ascii : Bool) (token : Token) (src : Source) : Reading (Member × Source) :=
  match token with
  | .escaped letter => readMemberEscape ascii letter src
  | .plain c => .ok (.code c.toNat, src)
  | .dangling => .ok (.code 92, src)

/-- What follows the hyphen behind `first`: the members read, and whether the set ends with them. -/
def readSpan (ascii : Bool) (opening : Nat) (token : Token) (first : Member) (src : Source) :
    Reading (List Member × Bool × Source) := do
  let (next, rest) ← src.get
  match next with
  | none => malformed .unterminatedSet opening
  | some (.plain ']') => return ([first, .code 45], true, rest)
  | some next =>
    let (second, last) ← readMember ascii next rest
    let bad :=
      malformed (.badRange token.text next.text) (last.position - (token.width + 1 + next.width))
    match first, second with
    | .code low, .code high => if high < low then bad else return ([.span low high], false, last)
    | _, _ => bad

/-- The members of a set whose bracket stands at `opening`, and what follows its closing bracket. -/
def readMembers (ascii : Bool) (opening : Nat) (src : Source) : Reading (List Member × Source) :=
  src.scan ([] : List Member)
    (fun members here => do
      let (token, rest) ← here.get
      match token with
      | none => malformed .unterminatedSet opening
      | some token =>
        if token = .plain ']' && !members.isEmpty then return .done (members, rest)
        else
          let (first, rest) ← readMember ascii token rest
          let (hyphen, rest) ← rest.accept '-'
          if hyphen then
            let (more, ended, rest) ← readSpan ascii opening token first rest
            if ended then return .done (members ++ more, rest)
            else return .more (members ++ more) rest
          else return .more (members ++ [first]) rest)
    fun _ _ => malformed .unterminatedSet opening

/-- A set of one code point is a literal. -/
def setTest (negated : Bool) (fold : Fold) (members : List Member) : CharTest :=
  match members.eraseDups with
  | [.code n] => .literal negated fold n
  | distinct => .set negated fold distinct

def readSet (ascii : Bool) (fold : Fold) (src : Source) : Reading (CharTest × Source) := do
  let (negated, inner) ← src.accept '^'
  let (members, rest) ← readMembers ascii (src.position - 1) inner
  return (setTest negated fold members, rest)

end TitleSieve.Pattern
