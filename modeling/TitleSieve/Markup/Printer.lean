import TitleSieve.Markup.Builder

/-!
Writing a page. Attributes stand in the order of their names, every element but the void ones has an
end tag, and text is escaped except in elements that hold verbatim text. A page is written as UTF-8,
and an element that tells the encoding of its page is made to say so.
-/

namespace TitleSieve.Markup

def escapeChar (c : Char) : Text :=
  if c = '&' then "&amp;".toList
  else if c = '<' then "&lt;".toList
  else if c = '>' then "&gt;".toList
  else [c]

def escape (t : Text) : Text := t.flatMap escapeChar

def quoteValue (value : Text) : Text :=
  if value.contains '"' then
    if value.contains '\'' then
      '"' :: (value.flatMap fun c => if c = '"' then "&quot;".toList else [c]) ++ ['"']
    else '\'' :: value ++ ['\'']
  else '"' :: value ++ ['"']

def Insertion.write (content : Text) : Insertion → Text
  | .cdata => "<![CDATA[".toList ++ content ++ "]]>".toList
  | .comment => "<!--".toList ++ content ++ "-->".toList
  | .doctype => "<!DOCTYPE ".toList ++ content ++ ">\n".toList
  | .declaration => "<?".toList ++ content ++ "?>".toList
  | .instruction => "<?".toList ++ content ++ ">".toList

namespace Attributes

def precedes (a b : Text) : Bool := a.map Char.toNat < b.map Char.toNat

def insert (added : Text × Text) : Attributes → Attributes
  | [] => [added]
  | first :: rest =>
    if precedes first.1 added.1 then first :: insert added rest else added :: first :: rest

def sort : Attributes → Attributes
  | [] => []
  | first :: rest => insert first (sort rest)

def encoding : Text := "utf-8".toList

def charsetMark : Text := "charset=".toList

/-- Writes the encoding in place of each one that is named behind a mark. A mark counts at the start
of a line and behind a blank or semicolon; what it names goes on to the next semicolon. -/
def renameCharset : (fresh : Bool) → (skipped : Nat) → Text → Text
  | _, _, [] => []
  | _, skip + 1, _ :: rest => renameCharset false skip rest
  | fresh, 0, c :: rest =>
    if fresh && charsetMark.isPrefixOf (c :: rest) then
      let named := ((c :: rest).drop charsetMark.length).takeWhile (· != ';')
      charsetMark ++ encoding ++
        renameCharset false (charsetMark.length + named.length - 1) rest
    else c :: renameCharset (c == ';' || Text.isBlank c) 0 rest

def httpEquiv : Text := "http-equiv".toList

def content : Text := "content".toList

/-- The attributes of an element that tells the encoding of its page, made to tell the one used. -/
def tellEncoding (attributes : Attributes) : Attributes :=
  let charset := "charset".toList
  match attributes.get? charset, attributes.get? content, attributes.get? httpEquiv with
  | some _, _, _ => attributes.set charset encoding
  | none, some value, some kind =>
    if Text.lower kind = "content-type".toList then
      attributes.set content (renameCharset true 0 value)
    else attributes
  | _, _, _ => attributes

def write (attributes : Attributes) : Text :=
  attributes.sort.flatMap fun (name, value) =>
    ' ' :: name ++ '=' :: quoteValue (escape value)

end Attributes

def writtenAttributes (name : Text) (attributes : Attributes) : Text :=
  (if name = "meta".toList then attributes.tellEncoding else attributes).write

def isVerbatim (name : Text) : Bool := Event.verbatimNames.contains name

namespace Forest

def writeIn (verbatim : Bool) : Forest → Text
  | .nil => []
  | .leaf (.text _) content next =>
    (if verbatim then content else escape content) ++ next.writeIn verbatim
  | .leaf (.insertion kind) content next => kind.write content ++ next.writeIn verbatim
  | .element name attributes children next =>
    let inside := name ++ writtenAttributes name attributes
    (if Builder.isVoid name ∧ children = .nil then '<' :: inside ++ ['/', '>']
      else
        '<' :: inside ++ '>' :: children.writeIn (isVerbatim name) ++ '<' :: '/' :: name ++ ['>'])
      ++ next.writeIn verbatim

def write (page : Forest) : Text := page.writeIn false

end Forest

end TitleSieve.Markup
