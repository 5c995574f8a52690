import ContentDepot.Text.Hex
import ContentDepot.Text.Printable

/-!
# Quoted text

A text between quotation marks, as it is shown within a list or an object. The
mark is `"` where the text holds an apostrophe and no `"`, and an apostrophe
otherwise. The mark and the backslash take a backslash; line feed, carriage
return and tab take their letters; every other character that is not printable
is shown by its number, in two, four or eight hexadecimal digits.
-/

namespace ContentDepot.Text.Quoted

/-- The mark around a text. -/
def mark (cs : List Char) : Char :=
  if cs.contains '\'' && !cs.contains '"' then '"' else '\''

/-- A character within marks of one kind. -/
def showChar (quote : Char) (c : Char) : List Char :=
  if c == quote || c == '\\' then ['\\', c]
  else if c == '\n' then ['\\', 'n']
  else if c == '\r' then ['\\', 'r']
  else if c == '\t' then ['\\', 't']
  else if isPrintable c then [c]
  else
    let n := c.toNat
    if n < 0x100 then '\\' :: 'x' :: Hex.padded 2 n
    else if n < 0x10000 then '\\' :: 'u' :: Hex.padded 4 n
    else '\\' :: 'U' :: Hex.padded 8 n

/-- The text between its marks. -/
def quote (s : String) : String :=
  let m := mark s.toList
  String.ofList (m :: s.toList.flatMap (showChar m) ++ [m])

end ContentDepot.Text.Quoted
