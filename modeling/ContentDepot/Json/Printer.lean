import ContentDepot.Decimal.Shortest
import ContentDepot.Json.Basic
import ContentDepot.Text.Hex

/-!
# Writing JSON

The compact form: no blanks, members in their order, and every character above
the controls as it is. Infinities and the undefined number are written by name;
a request body never holds one.
-/

namespace ContentDepot.Json

/-- A character within a JSON string. -/
def escapeChar (c : Char) : List Char :=
  if c == '"' || c == '\\' then ['\\', c]
  else if c == '\n' then ['\\', 'n']
  else if c == '\r' then ['\\', 'r']
  else if c == '\t' then ['\\', 't']
  else if c == '\x08' then ['\\', 'b']
  else if c == '\x0c' then ['\\', 'f']
  else if c.toNat < 0x20 then '\\' :: 'u' :: Text.Hex.padded 4 c.toNat
  else [c]

/-- A text as a JSON string. -/
def printString (s : String) : List Char := '"' :: s.toList.flatMap escapeChar ++ ['"']

/-- A binary64 number. -/
def printFloat : Binary64 → List Char
  | .nan => "NaN".toList
  | .infinite s => if s then "-Infinity".toList else "Infinity".toList
  | x => x.render.toList

mutual

/-- The characters of a value. -/
def printChars : Json → List Char
  | .null => "null".toList
  | .bool b => if b then "true".toList else "false".toList
  | .int n => (toString n).toList
  | .float x => printFloat x
  | .str s => printString s
  | .arr items => '[' :: printItems items ++ [']']
  | .obj members => '\x7b' :: printMembers members ++ ['\x7d']

/-- The characters of the items of a list, commas between them. -/
def printItems : List Json → List Char
  | [] => []
  | [x] => printChars x
  | x :: xs => printChars x ++ ',' :: printItems xs

/-- The characters of the members of an object, commas between them. -/
def printMembers : List (String × Json) → List Char
  | [] => []
  | [m] => printMember m
  | m :: ms => printMember m ++ ',' :: printMembers ms

/-- The characters of a member. -/
def printMember : String × Json → List Char
  | (k, v) => printString k ++ ':' :: printChars v

end

/-- The compact text of a value. -/
def print (v : Json) : String := String.ofList (printChars v)

end ContentDepot.Json
