import ContentDepot.Text.Blank

/-!
# Header values

The value of a header is a word, or a word and parameters with semicolons between
them. A semicolon within quotation marks does not count, nor does a quotation mark
after a backslash. Names are compared without regard to case.

* `headerName`: a name in the form in which names are compared.
* `HeaderValue.read`: the word and the parameters of a value.
* `HeaderValue.parameter?`: the value of a parameter.
-/

namespace ContentDepot.Api

/-- A name in the form in which names are compared. -/
def headerName (name : String) : String := String.ofList (name.toList.map Char.toLower)

/-- The value of a header. -/
structure HeaderValue where
  word : String
  parameters : List (String × String)
  deriving Repr, DecidableEq

namespace HeaderValue

/-- The sections of a value. The flags say whether an odd number of quotation marks precedes in
the section, and whether a backslash does. -/
def sections (quoted escaped : Bool) : List Char → List (List Char)
  | [] => [[]]
  | c :: rest =>
    if c == ';' && !quoted then [] :: sections false false rest
    else
      let quoted := if c == '"' && !escaped then !quoted else quoted
      match sections quoted (c == '\\') rest with
      | s :: ss => (c :: s) :: ss
      | [] => [[c]]

/-- The characters without the backslashes before a mark. The flag says whether a backslash
precedes. -/
def unescape (mark : Char) (escaped : Bool) : List Char → List Char
  | [] => if escaped then ['\\'] else []
  | c :: rest =>
    if escaped then
      if c == mark then mark :: unescape mark false rest
      else if c == '\\' then '\\' :: unescape mark true rest
      else '\\' :: c :: unescape mark false rest
    else if c == '\\' then unescape mark true rest
    else c :: unescape mark false rest

/-- A value without the quotation marks or angle brackets around it. -/
def unquote (cs : List Char) : List Char :=
  match cs with
  | '"' :: rest =>
    if rest.getLast? == some '"' then unescape '"' false (unescape '\\' false rest.dropLast) else cs
  | '<' :: rest => if rest.getLast? == some '>' then rest.dropLast else cs
  | cs => cs

/-- A section as a name and a value, which is empty where there is no equals sign. -/
def parameterOf (cs : List Char) : String × String :=
  if cs.contains '=' then
    let name := Text.trim Text.isBlank (cs.takeWhile (· != '='))
    let value := Text.trim Text.isBlank ((cs.dropWhile (· != '=')).drop 1)
    (headerName (String.ofList name), String.ofList (unquote value))
  else (String.ofList (Text.trim Text.isBlank cs), "")

/-- The word and the parameters of a value. The case of the word matters where parameters
follow. -/
def read (value : String) : HeaderValue :=
  match sections false false value.toList with
  | first :: s :: ss => ⟨(parameterOf first).1, (s :: ss).map parameterOf⟩
  | _ => ⟨headerName (String.ofList (Text.trim Text.isBlank value.toList)), []⟩

/-- The value of a parameter; of a name that comes twice the last value counts. -/
def parameter? (v : HeaderValue) (name : String) : Option String :=
  ((v.parameters.filter fun p => p.1 == name).map Prod.snd).getLast?

end HeaderValue

end ContentDepot.Api
