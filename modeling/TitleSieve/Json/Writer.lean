import TitleSieve.Json.Value
import TitleSieve.Number.Shortest
import TitleSieve.Text.Quoted

/-!
Writing JSON on one line: a comma or colon is followed by one space, and of all characters only
quotes, backslashes and the controls below U+0020 are escaped.
-/

namespace TitleSieve.Json

def writeChar (c : Char) : Text :=
  if c = '"' then ['\\', '"']
  else if c = '\\' then ['\\', '\\']
  else if c = '\n' then ['\\', 'n']
  else if c = '\r' then ['\\', 'r']
  else if c = '\t' then ['\\', 't']
  else if c = '\x08' then ['\\', 'b']
  else if c = '\x0c' then ['\\', 'f']
  else if c.toNat < 32 then ['\\', 'u'] ++ Text.hexDigits 4 c.toNat
  else [c]

def writeText (t : Text) : Text := '"' :: t.flatMap writeChar ++ ['"']

def writeInt (n : Int) : Text := (toString n).toList

def writeDouble : Number.Double → Text
  | .infinite negative => (if negative then "-Infinity" else "Infinity").toList
  | .undefined => "NaN".toList
  | x => x.render

mutual

def Value.write : Value → Text
  | .null => "null".toList
  | .bool true => "true".toList
  | .bool false => "false".toList
  | .int n => writeInt n
  | .double x => writeDouble x
  | .text t => writeText t
  | .list items => '[' :: writeItems items ++ [']']
  | .object fields => '\x7b' :: writeFields fields ++ ['\x7d']

def writeItems : List Value → Text
  | [] => []
  | [item] => item.write
  | item :: next :: rest => item.write ++ [',', ' '] ++ writeItems (next :: rest)

def writeFields : List (Text × Value) → Text
  | [] => []
  | [(name, value)] => writeText name ++ [':', ' '] ++ value.write
  | (name, value) :: next :: rest =>
    writeText name ++ [':', ' '] ++ value.write ++ [',', ' '] ++ writeFields (next :: rest)

end

end TitleSieve.Json
