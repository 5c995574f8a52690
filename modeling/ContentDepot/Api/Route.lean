import ContentDepot.Api.Message
import ContentDepot.Api.Template
import ContentDepot.Settings

/-!
# Routes

What a request asks for is decided by its path, which is read from its escapes
before it is compared with the templates of the routes. The first route counts
whose template fits and whose target has the method of the request. What
precedes the paths of all targets but the health check comes from the settings
and may hold parameters of its own; with a brace that is not closed it takes a
parameter away from the path, and the query has to give its value.

* `Target`, `Target.method`; `Aim`.
* `filePaths`: the targets with their templates, in the order in which they are tried.
* `Routes.ofSettings`: the routes of a service, or why there are none.
* `Routes.resolve`: what is to be done with a method, a path and a query.
* `Routes.location`: where a redirection leads.
-/

namespace ContentDepot.Api

/-- What a request can ask for. -/
inductive Target where
  | health
  | storeFile
  | indexFile
  | storeAndIndexFile
  | fetchFile (hash : String)
  | metadataByHash (index hash : String)
  | metadataById (index id : String)
  | searchFiles (index : String)
  | createIndex (index : String)
  deriving Repr, DecidableEq

/-- The method with which a target is asked for. -/
def Target.method : Target → String
  | .health | .fetchFile _ | .metadataByHash .. | .metadataById .. => "GET"
  | .storeFile | .indexFile | .storeAndIndexFile | .searchFiles _ | .createIndex _ => "POST"

/-- A target, with the names for which the query of the request should have had a value. -/
structure Aim where
  target : Target
  missing : List String
  deriving Repr, DecidableEq

/-- The issues of a request with an aim. -/
def Aim.issues (a : Aim) : List Issue :=
  a.missing.map fun name => ⟨.missing, [.key "query", .key name]⟩

/-- A template with what it leads to, given the value of each parameter. -/
structure Route where
  template : Template
  /-- The parameters whose values the query gives. -/
  asked : List String
  target : (String → String) → Target

namespace Route

/-- The value of a parameter, from the path or from the query. -/
def value (r : Route) (bindings query : List (String × String)) (name : String) : String :=
  ((if r.asked.contains name then lastValue? query name else Entries.get? bindings name)).getD ""

/-- What a path with a query asks for by this route. -/
def aim? (r : Route) (path : String) (query : List (String × String)) : Option Aim :=
  (r.template.bindings? path).map fun bindings =>
    ⟨r.target (r.value bindings query), r.asked.filter fun name => (lastValue? query name).isNone⟩

end Route

/-- A path below the root with what it leads to. -/
structure FilePath where
  path : String
  /-- What a request for the target carries elsewhere than in its path. -/
  elsewhere : List String
  target : (String → String) → Target

/-- A name between braces. -/
def braced (name : String) : String := "\x7b" ++ name ++ "\x7d"

/-- The paths below the root, in the order in which they are tried. -/
def filePaths : List FilePath :=
  [⟨"/store", ["file"], fun _ => .storeFile⟩,
    ⟨"/index", ["request"], fun _ => .indexFile⟩,
    ⟨"/store_index", ["file", "request"], fun _ => .storeAndIndexFile⟩,
    ⟨"/fetch/" ++ braced "hash", [], fun value => .fetchFile (value "hash")⟩,
    ⟨"/metadata/" ++ braced "index" ++ "/hash/" ++ braced "hash", [],
      fun value => .metadataByHash (value "index") (value "hash")⟩,
    ⟨"/metadata/" ++ braced "index" ++ "/" ++ braced "id", [],
      fun value => .metadataById (value "index") (value "id")⟩,
    ⟨"/search/" ++ braced "index", ["query", "page", "size", "sort", "dir"],
      fun value => .searchFiles (value "index")⟩,
    ⟨"/index/" ++ braced "index", [], fun value => .createIndex (value "index")⟩]

namespace FilePath

/-- The route below a root. What the request carries elsewhere is not looked for in the path, so
no name in the path may be one of these. -/
def below (p : FilePath) (root : String) : Except Fault Route := do
  let template ← Template.read (root ++ p.path)
  let inPath := bracedNames false template.plainForm
  if inPath.any p.elsewhere.contains then throw .refusedService
  let own ← Template.read p.path
  return ⟨template, own.names.filter (!inPath.contains ·), p.target⟩

end FilePath

/-- What is to be done with a request. -/
inductive Resolution where
  | found (a : Aim)
  | wrongMethod (allowed : String)
  | metrics
  /-- The same path with or without a slash at its end leads somewhere. -/
  | redirected (path : String)
  | missing
  deriving Repr, DecidableEq

/-- The routes of a service, and whether metrics are shown. -/
structure Routes where
  routes : List Route
  metrics : Bool

namespace Routes

/-- The route of the health check. -/
def healthRoute : Route := ⟨"/health".toList.map .literal, [], fun _ => .health⟩

/-- Whether paths may lie below a root: it is empty, or it begins with a slash and does not end
with one. -/
def isRoot (root : String) : Bool :=
  root.isEmpty || (root.startsWith "/" && !root.endsWith "/")

/-- The routes that settings ask for. A service has a name and a version. -/
def ofSettings (s : Settings) : Except Fault Routes := do
  if s.appName.isEmpty || s.version.isEmpty || !isRoot s.apiRoot then throw .refusedService
  return ⟨healthRoute :: (← filePaths.mapM (·.below s.apiRoot)), s.metricsEnabled⟩

/-- Whether metrics are shown at a path. -/
def isMetrics (r : Routes) (path : String) : Bool :=
  let mount := "/metrics/".toList
  r.metrics && mount.isPrefixOf path.toList &&
    !((path.toList.drop mount.length).dropLast.contains '\n')

/-- What a path with a query may ask for, in the order of the routes. -/
def aimsAt (r : Routes) (path : String) (query : List (String × String)) : List Aim :=
  r.routes.filterMap (·.aim? path query)

/-- Whether anything is at a path. -/
def isKnown (r : Routes) (path : String) : Bool := r.isMetrics path || !(r.aimsAt path []).isEmpty

/-- The path without the slashes at its end, or with one if it has none. -/
def otherSlash (path : String) : String :=
  let cs := path.toList
  if cs.getLast? = some '/' then String.ofList (cs.reverse.dropWhile (· == '/')).reverse
  else String.ofList (cs ++ ['/'])

/-- What is to be done with a method, a path and a query. -/
def resolve (r : Routes) (method path : String) (query : List (String × String)) : Resolution :=
  if r.isMetrics path then .metrics
  else
    let aims := r.aimsAt path query
    match aims.find? (·.target.method == method), aims with
    | some a, _ => .found a
    | none, a :: _ => .wrongMethod a.target.method
    | none, [] =>
      if path ≠ "/" && r.isKnown (otherSlash path) then .redirected (otherSlash path)
      else .missing

/-- Whether a URL in a header shows the character as it is. -/
def isLocationChar (c : Char) : Bool :=
  Text.Percent.isUnreserved c || ":/%#?=@[]!$&'()*+,;".toList.contains c

/-- A path in which no character ends the path. -/
def closedPath (path : String) : List Char :=
  Text.Percent.escapeUnless (fun c => c != '?' && c != '#') path.toList

/-- Where a redirection of a request leads. -/
def location (q : Request) (path : String) : String :=
  let query := if q.queryText.isEmpty then "" else "?" ++ q.queryText
  let host := (q.header? "host").getD ""
  let url := (q.scheme ++ "://" ++ host).toList ++ closedPath path ++ query.toList
  String.ofList (Text.Percent.escapeUnless isLocationChar url)

end Routes

end ContentDepot.Api
