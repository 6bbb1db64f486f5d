import TitleSieve.Command.Flag

/-!
What a command line asks for, step by step. The first plain word is the rule, and a word `--` makes
all words after it plain. Steps are taken in order before a fault is reported, so that help that is
asked for early is given all the same.
-/

namespace TitleSieve.Command

inductive Step where
  | help
  | read (name : Text)
  | html
  | showHidden
  | noVariants
  | rule (text : Text)
  deriving DecidableEq, Repr

/-- The steps, and the fault that follows the last one. -/
structure Plan where
  steps : List Step
  fault : Option UsageFault
  deriving DecidableEq, Repr

namespace Plan

def stop (fault : UsageFault) : Plan := ⟨[], some fault⟩

def before (step : Step) (plan : Plan) : Plan := { plan with steps := step :: plan.steps }

def cutWords : List Text → List Text × Option (List Text)
  | [] => ([], none)
  | word :: rest =>
    if word = ['-', '-'] then ([], some rest)
    else
      let (before, after) := cutWords rest
      (word :: before, after)

def readWords : List Text → Except UsageFault (List Word)
  | [] => .ok []
  | word :: rest =>
    match readWord word with
    | .error fault => .error fault
    | .ok first => (readWords rest).map (first :: ·)

/-- What follows a short flag for help with a value attached: the value lists further short
flags. -/
inductive Cluster where
  | help
  /-- The last flag of the cluster takes the next word as its value. -/
  | needsValue
  | fault (value : Text)

def cluster : Text → Cluster
  | [] => .help
  | 'h' :: rest => cluster rest
  | 'i' :: [] => .needsValue
  | 'i' :: _ => .help
  | value => .fault value

/-- A flag without a value of its own. -/
def stepOf : Flag → Step
  | .help => .help
  | .html => .html
  | .showHidden => .showHidden
  | .noVariants => .noVariants
  | .input => .read []

/-- The plan of plain words that follow the last flag. A rule that has not been given is the first
of them; what is left over is not recognized. -/
def ofLast (ruled : Bool) (extras : List Text) (plain : List Text) (after : Option (List Text)) :
    Plan :=
  let marked : List Text :=
    match after with
    | none => []
    | some words => ['-', '-'] :: words
  let finish (rule : Option Text) (left : List Text) : Plan :=
    let extras := extras ++ left
    ⟨(rule.map Step.rule).toList, if extras.isEmpty then none else some (.unrecognized extras)⟩
  if ruled then finish none (plain ++ marked)
  else
    match plain, after with
    | [], some (rule :: left) => finish (some rule) left
    | [], _ => finish none []
    | [rule], some left => finish (some rule) left
    | rule :: left, _ => finish (some rule) (left ++ marked)

/-- Whether flags are still to come. -/
def hasFlags (words : List Word) : Bool :=
  words.any fun | .plain _ => false | _ => true

def plainWords (words : List Word) : List Text :=
  words.filterMap fun | .plain word => some word | _ => none

/-- The plan of the words from one place on, given whether there has been a rule and which words
were left over. `skip` tells that the first word has been used as a value. -/
def ofWords (after : Option (List Text)) :
    (skip ruled : Bool) → (extras : List Text) → List Word → Plan
  | _, ruled, extras, [] => ofLast ruled extras [] after
  | true, ruled, extras, _ :: rest => ofWords after false ruled extras rest
  | false, ruled, extras, .plain word :: rest =>
    if !hasFlags rest then ofLast ruled extras (word :: plainWords rest) after
    else if ruled then ofWords after false ruled (extras ++ [word]) rest
    else (ofWords after false true extras rest).before (.rule word)
  | false, ruled, extras, .unknown word :: rest =>
    ofWords after false ruled (extras ++ [word]) rest
  | false, ruled, extras, .flag flag short value :: rest =>
    match flag, value, rest with
    | .input, some name, _ => (ofWords after false ruled extras rest).before (.read name)
    | .input, none, .plain name :: _ => (ofWords after true ruled extras rest).before (.read name)
    | .input, none, _ => stop (.missingValue .input)
    | flag, none, _ => (ofWords after false ruled extras rest).before (stepOf flag)
    | flag, some value, rest =>
      if !short || value.isEmpty then stop (.ignoredValue flag value)
      else
        match cluster value, rest with
        | .fault left, _ => stop (.ignoredValue flag left)
        | .needsValue, .plain _ :: _ | .help, _ => ⟨[.help], none⟩
        | .needsValue, _ => stop (.missingValue .input)

/-- The plan of a command line. -/
def ofCommandLine (words : List Text) : Plan :=
  let (before, after) := cutWords words
  match readWords before with
  | .error fault => stop fault
  | .ok words => ofWords after false false [] words

end Plan

end TitleSieve.Command
