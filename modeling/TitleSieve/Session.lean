import TitleSieve.Listing.Filter
import TitleSieve.Variants.LazyConverter

/-!
A session with an evaluator of its own: titles and rules are tried one at a time against a cache
that may be shared between trials, and whole listings are filtered. Passes never use the cache of
the session. Beside its own converter a session can use the one that all of the process share.
-/

namespace TitleSieve

structure Session where
  own : LazyConverter
  /-- A converter used in place of the session's own. -/
  replacement : Option Converter
  shared : LazyConverter
  cache : FormsCache
  /-- Whether passes keep forms. -/
  caching : Bool
  page : Text
  /-- How often the two conversions of the evaluator have been asked. -/
  calls : Nat × Nat

namespace Session

def start (own : LazyConverter) (replacement : Option Converter) (shared : LazyConverter) :
    Session where
  own := own
  replacement := replacement
  shared := shared
  cache := []
  caching := true
  page := []
  calls := (0, 0)

def converter (session : Session) : Converter := session.replacement.getD session.own.converter

def submitted (session : Session) (texts : List Text) : Session :=
  let (a, b) := session.converter.calls texts
  { session with
    calls := (session.calls.1 + a, session.calls.2 + b)
    own := if session.replacement.isSome then session.own else session.own.after texts }

/-- The ledger of a trial: it continues the cache if the trial is to use it. -/
def ledger (session : Session) (cached : Bool) : Ledger :=
  ⟨if cached then some session.cache else none, []⟩

def settle (session : Session) (ledger : Ledger) : Session :=
  { session.submitted ledger.submitted with cache := ledger.cache.getD session.cache }

def variants (text : Text) (cached : Bool) (session : Session) :
    Except ConversionFault Forms × Session :=
  let (outcome, ledger) := (session.ledger cached).forms session.converter text
  (outcome, session.settle ledger)

def accepts (raw : Option Text) (title : Text) (cached : Bool) (session : Session) :
    Except PassFault Bool × Session :=
  match Rule.readGiven raw with
  | .error excess => (.error (.rule excess), session)
  | .ok rule =>
    let (outcome, ledger) := rule.value.accepts session.converter title (session.ledger cached)
    (outcome.mapError .evaluation, session.settle ledger)

def clearCache (session : Session) : Session := { session with cache := [] }

def seed (text : Text) (forms : Forms) (session : Session) : Session :=
  { session with cache := session.cache.put text forms }

def replaceConverter (converter : Converter) (session : Session) : Session :=
  { session with replacement := some converter }

def setCaching (caching : Bool) (session : Session) : Session := { session with caching := caching }

def filter (raw : Option Text) (candidates : List (Candidate Handle)) (session : Session) :
    Except PassFault (Pass Handle) × Session :=
  let (outcome, ledger) := Pass.run session.converter session.caching raw candidates
  (outcome, session.submitted ledger.submitted)

def filterShared (raw : Option Text) (candidates : List (Candidate Handle)) (session : Session) :
    Except PassFault (Pass Handle) × Session :=
  let (outcome, ledger) := Pass.run session.shared.converter session.caching raw candidates
  (outcome, { session with shared := session.shared.after ledger.submitted })

def openPage (page : Text) (session : Session) : Session := { session with page := page }

def titles (session : Session) : Except Listing.PageFault (List (Text × Text)) :=
  Listing.titles session.page

def apply (decisions : Listing.Decisions) (session : Session) :
    Except Listing.PageFault Text × Session :=
  match Listing.applyDecisions session.page decisions with
  | .error fault => (.error fault, session)
  | .ok written => (.ok written, session.openPage written)

def hide (raw : Option Text) (session : Session) : Except Listing.FilterFault Text × Session :=
  let (outcome, ledger) := Listing.filter session.converter session.caching raw session.page
  let session := session.submitted ledger.submitted
  match outcome with
  | .error fault => (.error fault, session)
  | .ok filtered =>
    match filtered.written with
    | .error fault => (.error (.page fault), session)
    | .ok written => (.ok written, session.openPage written)

def loadOwn (session : Session) : Except ConversionFault Unit × Session :=
  let (outcome, own) := session.own.load
  (outcome, { session with own := own })

def loadShared (session : Session) : Except ConversionFault Unit × Session :=
  let (outcome, shared) := session.shared.load
  (outcome, { session with shared := shared })

end Session

end TitleSieve
