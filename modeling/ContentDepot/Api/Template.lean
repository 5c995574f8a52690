import ContentDepot.Failure
import ContentDepot.Text.Hex

/-!
# Path templates

A template is a path in which a name between braces stands for a parameter,
possibly with the kind of its values after a colon. Every other character stands
for itself, a brace that belongs to no parameter too. A path fits a template if
every parameter can be given a text of its kind; the first parameters get as much
as the others leave them. After the end a single line feed is passed over.

* `Template.read`: the template that a text stands for.
* `Template.values?`: what a path gives to the parameters of a template.
* `bracedNames`: the names between braces in the plain form of a template.
-/

namespace ContentDepot.Api

/-- The kinds of values of a parameter. -/
inductive ParameterKind where
  /-- At least one character, no slash among them. -/
  | segment
  /-- Any characters but line feeds, or none. -/
  | path
  | integer
  | decimal
  /-- Thirty-two hexadecimal digits in five groups, hyphens between which may be left out. -/
  | uuid
  deriving DecidableEq, Repr, Inhabited

namespace ParameterKind

/-- The kind with a name. -/
def ofName? (name : String) : Option ParameterKind :=
  Entries.get? [("str", segment), ("path", path), ("int", integer), ("float", decimal),
    ("uuid", uuid)] name

/-- How many characters of a class a text begins with. -/
def runLength (isOfClass : Char → Bool) (cs : List Char) : Nat := (cs.takeWhile isOfClass).length

/-- The lengths from one down to another. -/
def lengthsDown (greatest least : Nat) : List Nat :=
  (List.range' least (greatest + 1 - least)).reverse

/-- The groups of hexadecimal digits at the front of a text, of the given sizes: how many
characters they take together with the hyphens between them. -/
def groupsLength? : List Nat → List Char → Option Nat
  | [], _ => some 0
  | size :: sizes, cs =>
    if size ≤ runLength (fun c => (Text.Hex.value? c).isSome) cs then
      match sizes, cs.drop size with
      | _ :: _, '-' :: rest => (groupsLength? sizes rest).map (size + 1 + ·)
      | _, rest => (groupsLength? sizes rest).map (size + ·)
    else none

/-- The lengths of the values that a text may begin with, the greatest first. -/
def lengths (kind : ParameterKind) (cs : List Char) : List Nat :=
  match kind with
  | segment => lengthsDown (runLength (· != '/') cs) 1
  | path => lengthsDown (runLength (· != '\n') cs) 0
  | integer => lengthsDown (runLength Char.isDigit cs) 1
  | decimal =>
    let whole := runLength Char.isDigit cs
    let fraction := match cs.drop whole with
      | '.' :: rest => if whole = 0 then 0 else runLength Char.isDigit rest
      | _ => 0
    lengthsDown (whole + 1 + fraction) (whole + 2) ++ lengthsDown whole 1
  | uuid => (groupsLength? [8, 4, 4, 4, 12] cs).toList

end ParameterKind

/-- A piece of a template. -/
inductive Piece where
  | literal (c : Char)
  | parameter (name : String) (kind : ParameterKind)
  deriving DecidableEq, Repr, Inhabited

/-- A template. -/
abbrev Template := List Piece

namespace Template

/-- Whether the character may begin a name. -/
def beginsName (c : Char) : Bool := c.isAlpha || c == '_'

/-- A name at the front of a text, and what follows it. -/
def takeName? (cs : List Char) : Option (String × List Char) :=
  match cs with
  | c :: _ =>
    let isNameChar := fun c : Char => beginsName c || c.isDigit
    if beginsName c then some (String.ofList (cs.takeWhile isNameChar), cs.dropWhile isNameChar)
    else none
  | [] => none

/-- A parameter after its opening brace: its name and the name of its kind. -/
def parameter? (cs : List Char) : Option (String × String) := do
  let (name, rest) ← takeName? cs
  match rest with
  | '\x7d' :: _ => return (name, "str")
  | ':' :: rest =>
    let (kind, rest) ← takeName? rest
    if rest.head? == some '\x7d' then return (name, kind) else none
  | _ => none

/-- The pieces of a text. Within a parameter, `inParameter` says so, characters up to its closing
brace are passed over. -/
def pieces (inParameter : Bool) : List Char → Except Fault Template
  | [] => .ok []
  | c :: rest =>
    if inParameter then pieces (c != '\x7d') rest
    else match (if c == '\x7b' then parameter? rest else none) with
      | none => return .literal c :: (← pieces false rest)
      | some (name, kindName) =>
        match ParameterKind.ofName? kindName with
        | none => .error .refusedService
        | some kind => return .parameter name kind :: (← pieces true rest)

/-- The names of the parameters. -/
def names (t : Template) : List String :=
  t.filterMap fun
    | .parameter name _ => some name
    | .literal _ => none

/-- The template that a text stands for, in which no two parameters have one name. -/
def read (s : String) : Except Fault Template := do
  let t ← pieces false s.toList
  if t.names.eraseDups.length < t.names.length then .error .badValue else .ok t

/-- The template as a text without the kinds. -/
def plainForm (t : Template) : List Char :=
  t.flatMap fun
    | .literal c => [c]
    | .parameter name _ => '\x7b' :: name.toList ++ ['\x7d']

/-- The texts that a path gives to the parameters, in order. -/
def values? : Template → List Char → Option (List String)
  | [], cs => if cs.isEmpty || cs == ['\n'] then some [] else none
  | .literal c :: pieces, cs => match cs with
    | d :: rest => if c == d then values? pieces rest else none
    | [] => none
  | .parameter _ kind :: pieces, cs =>
    (kind.lengths cs).findSome? fun n =>
      (values? pieces (cs.drop n)).map (String.ofList (cs.take n) :: ·)

/-- The parameters of a template with the texts that a path gives to them. -/
def bindings? (t : Template) (path : String) : Option (List (String × String)) :=
  (t.values? path.toList).map (t.names.zip ·)

end Template

/-- The texts between braces, each up to the first closing brace on its line. The flag says
whether the text before has already been counted up to that brace. -/
def bracedNames (counted : Bool) : List Char → List String
  | [] => []
  | c :: rest =>
    if counted then bracedNames (c != '\x7d') rest
    else
      let name := rest.takeWhile fun d => d != '\x7d' && d != '\n'
      if c == '\x7b' && (rest.drop name.length).head? == some '\x7d' then
        String.ofList name :: bracedNames true rest
      else bracedNames false rest

end ContentDepot.Api
