import TitleSieve.Pattern.CharSet
import TitleSieve.Pattern.Flags
import TitleSieve.Pattern.Piece

/-!
Reading the text of a pattern. The reader walks over the tokens once and keeps the groups that are
still open on a stack, innermost first; each open group collects the alternatives that are complete
and the items of the one being read. References are checked as they are read, look-behinds when the
whole pattern has been read, so the first fault in the text is the one reported.
-/

namespace TitleSieve.Pattern

open Text

inductive Opening where
  | whole
  | capture (index : Nat)
  | plain
  | flagged
  | atomic
  | ahead (negated : Bool)
  /-- `outermost` tells that no other look-behind is open around this one. -/
  | behind (negated outermost : Bool)
  | ifCaptured (index : Nat) (yes : Option (List Piece))

structure Frame where
  opening : Opening
  start : Nat
  flags : Flags
  complete : List (List Piece)
  items : List Item

namespace Frame

def opened (opening : Opening) (start : Nat) (flags : Flags) : Frame :=
  ⟨opening, start, flags, [], []⟩

def push (frame : Frame) (item : Item) : Frame := { frame with items := item :: frame.items }

def sequence (frame : Frame) : List Piece := frame.items.reverse.flatMap Item.pieces

def pieces (frame : Frame) : List Piece := combine (frame.sequence :: frame.complete).reverse

end Frame

structure Reader where
  frame : Frame
  outer : List Frame
  groups : Nat
  /-- The widths of the groups that are closed. -/
  widths : List (Nat × Width)
  names : List (Text × Nat)
  /-- Groups that conditions ask for, each with the first place where one does. -/
  conditions : List (Nat × Nat)
  /-- The first group that the look-behind being read may not refer to. -/
  barrier : Option Nat
  template : Bool
  asksUnicode : Bool

namespace Reader

def initial : Reader :=
  { frame := .opened .whole 0 .standard, outer := [], groups := 0, widths := [], names := [],
    conditions := [], barrier := none, template := false, asksUnicode := false }

def flags (reader : Reader) : Flags := reader.frame.flags

def push (reader : Reader) (item : Item) : Reader :=
  { reader with frame := reader.frame.push item }

def pushTree (reader : Reader) (shape : Shape) (tree : Tree) : Reader :=
  reader.push (.piece ⟨shape, tree⟩)

def pushCode (reader : Reader) (code : Nat) : Reader :=
  reader.pushTree .single (.one (.literal false reader.flags.fold code))

def openGroup (reader : Reader) (opening : Opening) (start : Nat) (flags : Flags) : Reader :=
  { reader with frame := .opened opening start flags, outer := reader.frame :: reader.outer }

def closedItem (frame : Frame) : Item :=
  let tree := sequenceOf frame.pieces
  match frame.opening with
  | .whole | .plain => .group frame.pieces
  | .capture index => .piece ⟨.closed, .capture index tree⟩
  | .flagged => .piece ⟨.closed, tree⟩
  | .atomic => .piece ⟨.closed, .atomic tree⟩
  | .ahead negated => .piece ⟨.closed, .ahead negated tree⟩
  | .behind negated _ => .piece ⟨.closed, .behind negated tree⟩
  | .ifCaptured index none => .piece ⟨.closed, .ifCaptured index tree .empty⟩
  | .ifCaptured index (some yes) => .piece ⟨.closed, .ifCaptured index (sequenceOf yes) tree⟩

def closeInto (reader : Reader) (parent : Frame) (outer : List Frame) : Reader :=
  let frame := reader.frame
  { reader with
    frame := parent.push (closedItem frame)
    outer := outer
    widths :=
      match frame.opening with
      | .capture index => (index, (sequenceOf frame.pieces).width) :: reader.widths
      | _ => reader.widths
    barrier :=
      match frame.opening with
      | .behind _ true => none
      | _ => reader.barrier }

def checkReference (reader : Reader) (index position : Nat) : Reading Unit :=
  match reader.barrier with
  | none => .ok ()
  | some barrier =>
    if (reader.widths.lookup index).isNone then malformed .openReference position
    else if barrier ≤ index then malformed .lookbehindReference position
    else .ok ()

def pushReference (reader : Reader) (index : Nat) (width : Width) : Reader :=
  reader.pushTree .single (.again reader.flags.fold index width)

/-- An escape outside a set, whose backslash and letter have been read. -/
def stepEscape (reader : Reader) (letter : Char) (src : Source) : Reading (Reader × Source) := do
  let (escape, rest) ← readEscape letter src
  match escape with
  | .code n => return (reader.pushCode n, rest)
  | .kind which negated =>
    let members := [Member.kind which negated reader.flags.ascii]
    return (reader.pushTree .single (.one (.set false reader.flags.fold members)), rest)
  | .textStart => return (reader.pushTree .anchor (.anchor .textStart), rest)
  | .textEnd => return (reader.pushTree .anchor (.anchor .textEnd), rest)
  | .wordEdge negated =>
    return (reader.pushTree .anchor (.anchor (.wordEdge negated reader.flags.ascii)), rest)
  | .reference index digits =>
    if reader.groups < index then malformed (.invalidReference index) (rest.position - digits)
    else
      match reader.widths.lookup index with
      | none => malformed .openReference (rest.position - (digits + 1))
      | some width =>
        reader.checkReference index rest.position
        return (reader.pushReference index width, rest)

/-- Repetitions may not be bounded by this number or a greater one. -/
def repeatLimit : Nat := 4294967295

def readBound (digits : Text) : Reading Nat :=
  if Number.digitLimit < digits.length then refused (.digits digits.length)
  else if repeatLimit ≤ valueOf 10 digits then refused .repetition
  else .ok (valueOf 10 digits)

/-- The second bound, behind a comma; without a comma it is the first one. -/
def readSecondBound (low : Text) (limit : Nat) (src : Source) : Reading (Text × Source) := do
  let (comma, rest) ← src.accept ','
  if comma then rest.getWhile Char.isDigit limit else return (low, rest)

/-- The numbers that two bounds write, with what follows them; bounds may be empty. -/
def boundsOf (low high : Text) (position : Nat) (rest : Source) :
    Reading (Nat × Option Nat × Source) := do
  let least ← (if low.isEmpty then .ok 0 else readBound low)
  if high.isEmpty then return (least, none, rest)
  else
    let most ← readBound high
    if most < least then malformed .decreasingRepeat position
    else return (least, some most, rest)

/-- The bounds between braces whose opening brace has been read; `none` if these are no bounds. -/
def readBounds (src : Source) : Reading (Option (Nat × Option Nat × Source)) := do
  if src.nextPlain? == some '\x7d' then return none
  else
    let limit := src.tokens.length
    let (low, rest) ← src.getWhile Char.isDigit limit
    let (high, rest) ← readSecondBound low limit rest
    let (closed, rest) ← rest.accept '\x7d'
    if closed then return some (← boundsOf low high src.position rest) else return none

/-- A mark behind a quantifier makes it lazy or possessive. -/
def readGreed (src : Source) : Reading (Greed × Source) := do
  let (lazy, rest) ← src.accept '?'
  if lazy then return (.lazy, rest)
  else
    let (possessive, rest) ← rest.accept '+'
    return (if possessive then .possessive else .greedy, rest)

def repeatLast (reader : Reader) (least : Nat) (most : Option Nat) (body : Tree) (rest : List Item)
    (src : Source) : Reading (Reader × Source) := do
  let (greed, last) ← readGreed src
  let item := Item.piece ⟨.loop, .loop greed least most body⟩
  return ({ reader with frame := { reader.frame with items := item :: rest } }, last)

/-- A quantifier whose first character, just before `here`, has been read. -/
def stepRepeat (reader : Reader) (least : Nat) (most : Option Nat) (here : Nat) (src : Source) :
    Reading (Reader × Source) :=
  match reader.frame.items with
  | [] => malformed .nothingToRepeat (here - 1)
  | .group pieces :: rest => reader.repeatLast least most (sequenceOf pieces) rest src
  | .piece p :: rest =>
    match p.shape with
    | .anchor => malformed .nothingToRepeat (here - 1)
    | .loop => malformed .multipleRepeat (here - 1)
    | _ => reader.repeatLast least most p.tree rest src

def openCapture (reader : Reader) (start : Nat) : Reader :=
  let index := reader.groups + 1
  ({ reader with groups := index }).openGroup (.capture index) start reader.flags

def checkGroupName (name : Text) (src : Source) : Reading Unit :=
  if isIdentifier name then .ok ()
  else malformed (.badGroupName name) (src.position - (name.length + 1))

/-- A group with a name, or a reference to one; its first three characters have been read. -/
def stepNamed (reader : Reader) (start : Nat) (src : Source) : Reading (Reader × Source) := do
  let (naming, rest) ← src.accept '<'
  if naming then
    let (name, rest) ← rest.nameUntil '>' "group name"
    checkGroupName name rest
    match reader.names.lookup name with
    | some earlier =>
      malformed (.redefinedGroup name (reader.groups + 1) earlier)
        (rest.position - (name.length + 1))
    | none =>
      let opened := reader.openCapture start
      return ({ opened with names := (name, opened.groups) :: opened.names }, rest)
  else
    let (referring, rest) ← src.accept '='
    if referring then
      let (name, rest) ← rest.nameUntil ')' "group name"
      checkGroupName name rest
      let position := rest.position - (name.length + 1)
      match reader.names.lookup name with
      | none => malformed (.unknownGroupName name) position
      | some index =>
        match reader.widths.lookup index with
        | none => malformed .openReference position
        | some width =>
          reader.checkReference index rest.position
          return (reader.pushReference index width, rest)
    else
      let (token, rest) ← src.get
      match token with
      | none => malformed .unexpectedEnd src.position
      | some token =>
        malformed (.unknownExtension ('P' :: token.text)) (rest.position - (token.width + 2))

/-- Group numbers from this one on are never valid. -/
def groupLimit : Nat := 1073741823

def readDigits : Bool → Nat → Text → Option Nat
  | afterDigit, n, [] => if afterDigit then some n else none
  | afterDigit, n, c :: rest =>
    if c = '_' then if afterDigit then readDigits false n rest else none
    else
      match digitValue? c with
      | some d => readDigits true (n * 10 + d) rest
      | none => none

/-- A group number, which may be written with blanks around it and a plus sign. -/
def groupNumber? (name : Text) : Option Nat :=
  match trim name with
  | '+' :: digits => readDigits false 0 digits
  | '-' :: digits =>
    match readDigits false 0 digits with
    | some 0 => some 0
    | _ => none
  | digits =>
    if Number.digitLimit < (digits.filter (· != '_')).length then none
    else readDigits false 0 digits

/-- A condition whose opening `(?(` has been read. -/
def stepCondition (reader : Reader) (start : Nat) (src : Source) : Reading (Reader × Source) := do
  let (name, rest) ← src.nameUntil ')' "group name"
  let position := rest.position - (name.length + 1)
  if isIdentifier name then
    match reader.names.lookup name with
    | none => malformed (.unknownGroupName name) position
    | some index =>
      reader.checkReference index rest.position
      return (reader.openGroup (.ifCaptured index none) start reader.flags, rest)
  else
    match groupNumber? name with
    | none => malformed (.badGroupName name) position
    | some index =>
      if index = 0 then malformed .badGroupNumber position
      if groupLimit ≤ index then malformed (.invalidReference index) position
      let conditions :=
        if (reader.conditions.lookup index).isSome then reader.conditions
        else reader.conditions ++ [(index, position)]
      reader.checkReference index rest.position
      let reader := { reader with conditions := conditions }
      return (reader.openGroup (.ifCaptured index none) start reader.flags, rest)

def skipComment (start : Nat) (src : Source) : Reading Source :=
  src.scan ()
    (fun _ here => do
      let (token, rest) ← here.get
      if token = some (.plain ')') then return .done rest else return .more () rest)
    fun _ _ => malformed .unterminatedComment start

def skipLine (src : Source) : Reading Source :=
  src.scan ()
    (fun _ here => do
      let (token, rest) ← here.get
      if token = some (.plain '\n') then return .done rest else return .more () rest)
    fun _ position => .ok ⟨position, []⟩

/-- Flags of the whole pattern must come before everything else. -/
def atStart (reader : Reader) : Bool :=
  reader.outer.isEmpty && reader.frame.complete.isEmpty && reader.frame.items.isEmpty

def stepFlags (reader : Reader) (start : Nat) (first : Char) (src : Source) :
    Reading (Reader × Source) := do
  let (setting, rest) ← readFlags first src
  match setting with
  | .whole on =>
    if !reader.atStart then malformed .lateGlobalFlags start
    let flags := reader.flags.adjust (on.filter (· != .unicode)) []
    return ({ reader with
        frame := { reader.frame with flags := flags }
        template := reader.template || on.contains .template
        asksUnicode := reader.asksUnicode || on.contains .unicode }, rest)
  | .group on off =>
    let opening := if on.isEmpty && off.isEmpty then Opening.plain else .flagged
    return (reader.openGroup opening start (reader.flags.adjust on off), rest)

def openBehind (reader : Reader) (negated : Bool) (start : Nat) : Reader :=
  let opening := Opening.behind negated reader.barrier.isNone
  let barrier := reader.barrier.getD (reader.groups + 1)
  ({ reader with barrier := some barrier }).openGroup opening start reader.flags

/-- A group whose opening parenthesis has been read. -/
def stepGroup (reader : Reader) (src : Source) : Reading (Reader × Source) := do
  let start := src.position - 1
  let (extended, rest) ← src.accept '?'
  if !extended then return (reader.openCapture start, rest)
  let (token, after) ← rest.get
  match token with
  | none => malformed .unexpectedEnd rest.position
  | some (.plain 'P') => reader.stepNamed start after
  | some (.plain ':') => return (reader.openGroup .plain start reader.flags, after)
  | some (.plain '>') => return (reader.openGroup .atomic start reader.flags, after)
  | some (.plain '=') => return (reader.openGroup (.ahead false) start reader.flags, after)
  | some (.plain '!') => return (reader.openGroup (.ahead true) start reader.flags, after)
  | some (.plain '(') => reader.stepCondition start after
  | some (.plain '#') => return (reader, ← skipComment start after)
  | some (.plain '<') =>
    let (token, last) ← after.get
    match token with
    | none => malformed .unexpectedEnd after.position
    | some (.plain '=') => return (reader.openBehind false start, last)
    | some (.plain '!') => return (reader.openBehind true start, last)
    | some token =>
      malformed (.unknownExtension ('<' :: token.text)) (last.position - (token.width + 2))
  | some (.plain c) =>
    if (Flag.ofChar? c).isSome || c = '-' then reader.stepFlags start c after
    else malformed (.unknownExtension [c]) (after.position - 2)
  | some token => malformed (.unknownExtension token.text) (after.position - (token.width + 1))

/-- Blanks that a verbose pattern may hold anywhere. -/
def isLayout (c : Char) : Bool :=
  c == ' ' || c == '\t' || c == '\n' || c == '\r' || c == '\x0b' || c == '\x0c'

/-- One token other than a bar or a closing parenthesis, and what belongs to it. -/
def stepToken (reader : Reader) (token : Token) (src : Source) : Reading (Reader × Source) := do
  match token with
  | .dangling => return (reader, src)
  | .escaped letter => reader.stepEscape letter src
  | .plain c =>
    if reader.flags.verbose && isLayout c then return (reader, src)
    else if reader.flags.verbose && c = '#' then return (reader, ← skipLine src)
    else
      match c with
      | '[' =>
        let (test, rest) ← readSet reader.flags.ascii reader.flags.fold src
        return (reader.pushTree .single (.one test), rest)
      | '?' => reader.stepRepeat 0 (some 1) src.position src
      | '*' => reader.stepRepeat 0 none src.position src
      | '+' => reader.stepRepeat 1 none src.position src
      | '\x7b' =>
        match ← readBounds src with
        | some (least, most, rest) => reader.stepRepeat least most src.position rest
        | none => return (reader.pushCode 123, src)
      | '.' => return (reader.pushTree .single (.one (.any reader.flags.dotAll)), src)
      | '(' => reader.stepGroup src
      | '^' =>
        let place := if reader.flags.multiline then Anchor.lineStart else .textStart
        return (reader.pushTree .anchor (.anchor place), src)
      | '$' =>
        let place := if reader.flags.multiline then Anchor.lineEnd else .finalEnd
        return (reader.pushTree .anchor (.anchor place), src)
      | _ => return (reader.pushCode c.toNat, src)

/-- The alternative being read is complete. -/
def endAlternative (reader : Reader) (position : Nat) : Reading Reader :=
  let frame := reader.frame
  match frame.opening with
  | .ifCaptured index none =>
    .ok { reader with
      frame := { frame with opening := .ifCaptured index (some frame.sequence), items := [] } }
  | .ifCaptured _ (some _) => malformed .thirdBranch position
  | _ =>
    .ok { reader with
      frame := { frame with complete := frame.sequence :: frame.complete, items := [] } }

/-- A look-behind that reaches further than this is refused. -/
def widthLimit : Nat := 4294967295

def loopName : Greed → String
  | .greedy => "MAX_REPEAT"
  | .lazy => "MIN_REPEAT"
  | .possessive => "POSSESSIVE_REPEAT"

/-- The first fault, from left to right, that shows only in the finished tree. -/
def lateFault? (template : Bool) : Tree → Option Cause
  | .empty | .one _ | .anchor _ | .again _ _ _ => none
  | .seq first second | .alt first second | .ifCaptured _ first second =>
    match lateFault? template first with
    | some cause => some cause
    | none => lateFault? template second
  | .loop greed _ _ body =>
    if template then some (.templateLoop (loopName greed)) else lateFault? template body
  | .capture _ body | .atomic body | .ahead _ body => lateFault? template body
  | .behind _ body =>
    if widthLimit < body.width.least then some .distantLookbehind
    else if body.width.greatest ≠ some body.width.least then some .variableLookbehind
    else lateFault? template body

/-- Closing checks, in the order in which they are reported. -/
def finish (reader : Reader) (unbalancedAt : Option Nat) : Reading Tree := do
  if reader.flags.ascii && reader.asksUnicode then refused .flags
  if let some position := unbalancedAt then malformed .unbalancedParenthesis position
  match reader.conditions.find? fun (index, _) => reader.groups < index with
  | some (index, position) => malformed (.invalidReference index) position
  | none =>
    let tree := sequenceOf reader.frame.pieces
    match lateFault? reader.template tree with
    | some cause => .error (.malformed cause none)
    | none => return tree

def step (reader : Reader) (src : Source) : Reading (Move Reader Tree) := do
  match src.tokens with
  | [] => return .more reader src
  | .plain ')' :: _ =>
    match reader.outer with
    | [] => return .done (← reader.finish (some src.position))
    | parent :: outer => return .more (reader.closeInto parent outer) (← src.advance)
  | .plain '|' :: _ =>
    let reader ← reader.endAlternative src.position
    return .more reader (← src.advance)
  | token :: _ =>
    let (reader, rest) ← reader.stepToken token (← src.advance)
    return .more reader rest

def atEnd (reader : Reader) (_ : Nat) : Reading Tree :=
  if reader.outer.isEmpty then reader.finish none
  else malformed .unterminatedGroup reader.frame.start

end Reader

/-- Reads the text of a pattern. Groups may be nested to any depth: a limit that is set to
recursion, of some hundreds of levels, is left out. -/
def Tree.read (body : Text) : Except ReadError Tree := do
  let src ← Source.ofText body
  src.scan Reader.initial Reader.step Reader.atEnd

end TitleSieve.Pattern
