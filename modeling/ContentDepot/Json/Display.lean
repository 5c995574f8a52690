import ContentDepot.Decimal.Shortest
import ContentDepot.Json.Basic
import ContentDepot.Text.Quoted

/-!
# Values as text

How a value is shown inside a message or compared as text. On its own a text
stands as it is; within a list or an object it is quoted. The constants are
`None`, `True` and `False`.

* `text`: a value on its own.
* `shown`: a value within another.
-/

namespace ContentDepot.Json

mutual

/-- The value as it stands within another. -/
def shown : Json → String
  | .null => "None"
  | .bool b => if b then "True" else "False"
  | .int n => toString n
  | .float x => x.render
  | .str s => Text.Quoted.quote s
  | .arr items => "[" ++ String.intercalate ", " (shownItems items) ++ "]"
  | .obj members => "\x7b" ++ String.intercalate ", " (shownMembers members) ++ "\x7d"

/-- The values of a list, each as it stands in it. -/
def shownItems : List Json → List String
  | [] => []
  | x :: xs => shown x :: shownItems xs

/-- The members of an object, each with its quoted key. -/
def shownMembers : List (String × Json) → List String
  | [] => []
  | m :: ms => shownMember m :: shownMembers ms

/-- A member with its quoted key. -/
def shownMember : String × Json → String
  | (k, v) => Text.Quoted.quote k ++ ": " ++ shown v

end

/-- The value on its own: a text stands as it is. -/
def text : Json → String
  | .str s => s
  | v => shown v

end ContentDepot.Json
