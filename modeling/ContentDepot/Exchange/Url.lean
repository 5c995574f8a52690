import ContentDepot.Decimal.Numeral
import ContentDepot.Exchange.Host
import ContentDepot.Text.DotSegments
import ContentDepot.Text.Percent

/-!
# URLs

A URL is split at its marks: a colon ends the scheme, two slashes begin the
authority, a question mark the query, a number sign the fragment. Path and query
are written with the characters escaped that they do not admit; dot segments are
removed from the path unless there is neither a scheme nor an authority. Control
characters, excessive length, and parts that do not fit together are refused.

* `Url.parse?`: the URL that a text gives.
* `Url.resource`: its path and query as they are sent.
* `Url.withResource?`: the URL with another path and query.
-/

namespace ContentDepot

/-- A URL in its parts. Path, query and fragment are escaped. -/
structure Url where
  scheme : List Char
  userInfo : List Char
  host : List Char
  /-- The port, unless it is the scheme's own. -/
  port : Option Int
  path : List Char
  query : Option (List Char)
  fragment : Option (List Char)
  deriving Repr, DecidableEq

namespace Url

/-- The greatest length of a URL and of each of its parts. -/
def maxLength : Nat := 65536

/-- Whether the character is an ASCII control, which no URL admits. -/
def isControl (c : Char) : Bool := c.toNat < 0x20 || c.toNat == 0x7f

/-- Whether a text is too long for a URL or holds a control character. -/
def isRefused (cs : List Char) : Bool := maxLength < cs.length || cs.any isControl

/-! ## Escapes -/

/-- Whether the character is a visible ASCII character apart from some. -/
def isVisibleBut (refused : List Char) (c : Char) : Bool :=
  0x20 < c.toNat && c.toNat < 0x7f && !refused.contains c

/-- Whether a path shows the character as it is. -/
def isPathChar (c : Char) : Bool :=
  isVisibleBut ['"', '#', '<', '>', '?', '`', '\x7b', '\x7d'] c

/-- Whether a query shows the character as it is. -/
def isQueryChar (c : Char) : Bool := isVisibleBut ['"', '#', '<', '>'] c

/-- Whether a fragment shows the character as it is. -/
def isFragmentChar (c : Char) : Bool := isVisibleBut ['"', '<', '>', '`'] c

/-- A path with the characters escaped that it does not admit. -/
def encodePath (cs : List Char) : List Char := Text.Percent.escapeUnless isPathChar cs

/-- A query with the characters escaped that it does not admit. -/
def encodeQuery (cs : List Char) : List Char := Text.Percent.escapeUnless isQueryChar cs

/-- A fragment with the characters escaped that it does not admit. -/
def encodeFragment (cs : List Char) : List Char := Text.Percent.escapeUnless isFragmentChar cs

/-! ## Parts -/

/-- The characters before the first of a class and those from it on. -/
def splitAtAny (marks : List Char) (cs : List Char) : List Char × List Char :=
  (cs.takeWhile (!marks.contains ·), cs.dropWhile (!marks.contains ·))

/-- The scheme of a URL, which may be empty, and what follows its colon. -/
def splitScheme (cs : List Char) : List Char × List Char :=
  let isSchemeChar := fun c : Char => c.isAlphanum || c == '+' || c == '.' || c == '-'
  match cs.dropWhile isSchemeChar with
  | ':' :: rest =>
    let scheme := cs.takeWhile isSchemeChar
    if (scheme.head?.map Char.isAlpha).getD true then (scheme, rest) else ([], cs)
  | _ => ([], cs)

/-- The authority of a URL, where two slashes introduce one, and what follows it. -/
def splitAuthority : List Char → List Char × List Char
  | '/' :: '/' :: rest => splitAtAny ['/', '?', '#'] rest
  | rest => ([], rest)

/-- What follows a mark at the front, if the mark is there. -/
def afterMark? (mark : Char) : List Char → Option (List Char)
  | c :: rest => if c == mark then some rest else none
  | [] => none

/-- The user information of an authority, which ends at its last at sign, and the rest. -/
def splitUserInfo (authority : List Char) : List Char × List Char :=
  if authority.contains '@' then
    let rest := (authority.reverse.takeWhile (· != '@')).reverse
    ((authority.take (authority.length - rest.length)).dropLast, rest)
  else ([], authority)

/-- The host of an authority without user information, and what follows it. An address in
brackets ends at the last one. -/
def splitHost (cs : List Char) : List Char × List Char :=
  if cs.head? == some '[' && cs.contains ']' then
    let rest := (cs.reverse.takeWhile (· != ']')).reverse
    (cs.take (cs.length - rest.length), rest)
  else splitAtAny [':'] cs

/-- The ports that go without saying. -/
def defaultPorts : List (String × Int) :=
  [("ftp", 21), ("http", 80), ("https", 443), ("ws", 80), ("wss", 443)]

/-- The port of an authority, from what follows its host: nothing, or a number that is not the
scheme's own. The failure is a port that is no number. -/
def port? (scheme rest : List Char) : Option (Option Int) :=
  let digits := (afterMark? ':' rest).getD rest
  if digits.isEmpty then some none
  else (Numeral.int? (String.ofList digits)).map fun n =>
    if defaultPorts.contains (String.ofList scheme, n) then none else some n

/-- Whether a path goes with a scheme and an authority: after an authority it begins with a
slash, and without both it begins neither with two slashes nor with a colon. -/
def admitsPath (hasScheme hasAuthority : Bool) (path : List Char) : Bool :=
  if hasAuthority then path.isEmpty || path.head? == some '/'
  else hasScheme || !(['/', '/'].isPrefixOf path || path.head? == some ':')

/-- The path in its final form. -/
def normalPath (hasScheme hasAuthority : Bool) (path : List Char) : List Char :=
  encodePath (if hasScheme || hasAuthority then Text.DotSegments.remove path else path)

/-- Whether the parts of an authority name anything. -/
def namesAuthority (userInfo host : List Char) (port : Option Int) : Bool :=
  !userInfo.isEmpty || !host.isEmpty || port.isSome

/-- The URL that a text gives. -/
def parse? (cs : List Char) : Option Url := do
  if isRefused cs then none
  let (scheme, rest) := splitScheme cs
  let (authority, rest) := splitAuthority rest
  let (path, rest) := splitAtAny ['?', '#'] rest
  let query := (afterMark? '?' rest).map (splitAtAny ['#'] · |>.1)
  let fragment := afterMark? '#' (splitAtAny ['#'] rest).2
  let (userInfo, rest) := splitUserInfo authority
  let (host, rest) := splitHost rest
  let port ← port? scheme rest
  let hasScheme := !scheme.isEmpty
  let hasAuthority := namesAuthority userInfo host port
  if !Host.isValid host || !admitsPath hasScheme hasAuthority path then none
  return {
    scheme := scheme.map Char.toLower
    userInfo := userInfo
    host := host.map Char.toLower
    port := port
    path := normalPath hasScheme hasAuthority path
    query := query.map encodeQuery
    fragment := fragment.map encodeFragment }

/-- Whether the authority of a URL names anything. -/
def hasAuthority (u : Url) : Bool := namesAuthority u.userInfo u.host u.port

/-- Whether a URL says by itself where it leads. -/
def isAbsolute (u : Url) : Bool := !u.scheme.isEmpty && !u.host.isEmpty

/-- Whether the name of a host shows the character as it is. -/
def isHostChar (c : Char) : Bool := isVisibleBut ['#', '/', '<', '>', '?', '@', '^'] c

/-- The host of a URL with the port, where one is named. -/
def netloc (u : Url) : String :=
  let port := (u.port.map fun n => ":" ++ toString n).getD ""
  String.ofList (Text.Percent.escapeUnless isHostChar u.host) ++ port

/-- The path and query of a URL as they are sent. -/
def resource (u : Url) : List Char :=
  let path := if u.path.isEmpty then ['/'] else u.path
  match u.query with
  | some query => path ++ '?' :: query
  | none => path

/-- The URL with another path and query. -/
def withResource? (u : Url) (cs : List Char) : Option Url := do
  let (path, rest) := splitAtAny ['?'] cs
  let query := afterMark? '?' rest
  let hasScheme := !u.scheme.isEmpty
  if isRefused path || isRefused (query.getD []) then none
  if !admitsPath hasScheme u.hasAuthority path then none
  return { u with
    path := normalPath hasScheme u.hasAuthority path
    query := query.map encodeQuery }

/-- Whether a text for the URL names a scheme: it has one, or its path begins like one. -/
def namesScheme (u : Url) : Bool :=
  !u.scheme.isEmpty ||
    (!u.hasAuthority &&
      let rest := (u.resource ++ ((u.fragment.map ('#' :: ·)).getD []))
      let (name, rest) := splitAtAny ['/', ':'] rest
      !name.isEmpty && rest.head? == some ':')

/-- The user and the password that a URL names, unless both are empty. -/
def user? (u : Url) : Option (String × String) :=
  let decode := fun cs : List Char => Text.Percent.decode (String.ofList cs)
  let (user, rest) := splitAtAny [':'] u.userInfo
  let user := decode user
  let password := decode (rest.drop 1)
  if user.isEmpty && password.isEmpty then none else some (user, password)

end Url

end ContentDepot
