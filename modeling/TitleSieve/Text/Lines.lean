import TitleSieve.Text.Basic

/-!
Lines of a text. A line ends at any of the line ends Unicode knows, and a carriage return followed
by a line feed is one line end. Reading a file first turns carriage returns into line feeds.
-/

namespace TitleSieve.Text

def isLineEnd (c : Char) : Bool :=
  let n := c.toNat
  (10 ≤ n && n ≤ 13) || (28 ≤ n && n ≤ 30) || n == 0x85 || n == 0x2028 || n == 0x2029

/-- Carriage returns, alone or with the line feed that follows, become line feeds. -/
def unifyLineFeeds : Text → Text
  | [] => []
  | '\r' :: '\n' :: rest => '\n' :: unifyLineFeeds rest
  | '\r' :: rest => '\n' :: unifyLineFeeds rest
  | c :: rest => c :: unifyLineFeeds rest

/-- The lines of a text whose current line has begun with the reversed text `current`. -/
def linesFrom (current : Text) : Text → List Text
  | [] => if current.isEmpty then [] else [current.reverse]
  | '\r' :: '\n' :: rest => current.reverse :: linesFrom [] rest
  | c :: rest =>
    if isLineEnd c then current.reverse :: linesFrom [] rest else linesFrom (c :: current) rest

/-- The lines without their ends; a line end that closes the text opens no further line. -/
def lines (t : Text) : List Text := linesFrom [] t

end TitleSieve.Text
