import TitleSieve.Json.Reader
import TitleSieve.Text.Basic

/-!
Addresses and the routes that they lead to. Of an address only the path counts. Dot segments are
resolved, characters may be written by their codes in hexadecimal, and slashes at the end lead to
the same route.
-/

namespace TitleSieve.Service

inductive Verb where
  | get
  | post
  deriving DecidableEq, Repr

def Verb.name : Verb → String
  | .get => "GET"
  | .post => "POST"

inductive Route where
  | filter
  | filterPage
  | parse
  | health
  deriving DecidableEq, Repr

namespace Route

def path : Route → String
  | .filter => "/filter"
  | .filterPage => "/filter-html"
  | .parse => "/parse"
  | .health => "/health"

def verb : Route → Verb
  | .health => .get
  | _ => .post

def all : List Route := [.filter, .filterPage, .parse, .health]

def ofPath? (path : Text) : Option Route := all.find? (·.path.toList == path)

end Route

namespace Address

def isSlash (c : Char) : Bool := c == '/'

/-- Two slashes in front announce a host, which is dropped. -/
def withoutHost : Text → Text
  | '/' :: '/' :: rest => rest.dropWhile (!isSlash ·)
  | t => t

def resolve : (done : List Text) → List Text → List Text
  | done, [] => done.reverse
  | done, segment :: rest =>
    if segment = ['.'] then resolve done rest
    else if segment = ['.', '.'] then
      resolve (if done = [[]] then done else done.drop 1) rest
    else resolve (segment :: done) rest

def decodeCodes : Text → Text
  | '%' :: a :: b :: rest =>
    match Json.hexValue? a, Json.hexValue? b with
    | some high, some low =>
      if high < 8 then Char.ofNat (16 * high + low) :: decodeCodes rest
      else '%' :: decodeCodes (a :: b :: rest)
    | _, _ => '%' :: decodeCodes (a :: b :: rest)
  | c :: rest => c :: decodeCodes rest
  | [] => []

/-- The path of an address, without what follows a number sign or a question mark. -/
def path (address : Text) : Text :=
  let path := withoutHost ((address.takeWhile (· != '#')).takeWhile (· != '?'))
  let segments := Text.split isSlash ('/' :: path.dropWhile isSlash)
  decodeCodes (Text.joinWith ['/'] (resolve [] segments))

def withoutLast (last : Char → Bool) (t : Text) : Text := (t.reverse.dropWhile last).reverse

/-- A line feed at the end of a path is overlooked. -/
def withoutLineFeed (t : Text) : Text :=
  match t.reverse with
  | '\n' :: rest => rest.reverse
  | _ => t

def route? (address : Text) : Option Route :=
  let path := path address
  match Route.ofPath? (withoutLineFeed path) with
  | some route => some route
  | none => Route.ofPath? (withoutLineFeed (withoutLast isSlash path))

end Address

end TitleSieve.Service
