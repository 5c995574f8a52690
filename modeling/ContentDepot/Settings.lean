import ContentDepot.Schema

/-!
# Settings

The configuration of a depot. Settings are read from texts, as an environment
gives them, or from values; every issue is reported, in the order of the fields.

* `Settings`: the fields with their defaults.
* `Settings.check`: reading given values by name.
* `Settings.toEntries`: the values by name.
-/

namespace ContentDepot

/-- The configuration of a depot. -/
structure Settings where
  appName : String
  environment : String
  debug : Bool
  logLevel : String
  version : String
  apiHost : String
  apiPort : Int
  apiRoot : String
  corsOrigins : String
  contentHost : String
  contentTimeout : Binary64
  engineHost : String
  engineUser : String
  enginePassword : String
  engineTimeout : Binary64
  fillAbsent : Bool
  defaultPageSize : Int
  maxPageSize : Int
  metricsEnabled : Bool
  deriving Repr, DecidableEq

namespace Settings

/-- A truth value that a text stands for. -/
def boolOfText (s : String) : Checked Bool :=
  let word := String.ofList (s.toList.map Char.toLower)
  if ["1", "on", "t", "true", "y", "yes"].contains word then .ok true
  else if ["0", "off", "f", "false", "n", "no"].contains word then .ok false
  else .fail .boolParsing

/-- A truth value that an integer stands for; one beyond 64 bits is of no fitting kind. -/
def boolOfInt (n : Int) : Checked Bool :=
  if n = 0 then .ok false
  else if n = 1 then .ok true
  else if -Schema.floatIntBound ≤ n && n < Schema.floatIntBound then .fail .boolParsing
  else .fail .boolType

/-- A truth value, also as a text or a number. -/
def laxBool : Json → Checked Bool
  | .bool b => .ok b
  | .int n => boolOfInt n
  | .str s => boolOfText s
  | .float x => match Schema.intOfFloat x with
    | .ok n => boolOfInt n
    | .error _ => .fail .boolType
  | _ => .fail .boolType

/-- A binary64 number, also as a text, an integer or a truth value. -/
def laxFloat : Json → Checked Binary64
  | .float x => .ok x
  | .int n => match Binary64.ofInt n with
    | .infinite _ => .fail .floatType
    | x => .ok x
  | .bool b => .ok (.ofInt (if b then 1 else 0))
  | .str s => match Numeral.settingFloat? s with
    | some x => .ok x
    | none => .fail .floatParsing
  | _ => .fail .floatType

/-- Reads settings from values by name; what is not given has its default. -/
def check (given : Entries Json) : Checked Settings :=
  let text := fun name default => Schema.optionalField given [name] default Schema.string
  let flag := fun name default => Schema.optionalField given [name] default laxBool
  let number := fun name default => Schema.optionalField given [name] default Schema.laxInt
  let seconds := fun name default =>
    Schema.optionalField given [name] (Binary64.ofInt default) laxFloat
  let found := Checked.apply (.ok Settings.mk) (text "APP_NAME" "Filestore")
  let found := found.apply (text "APP_ENV" "development")
  let found := found.apply (flag "DEBUG" true)
  let found := found.apply (text "LOG_LEVEL" "info")
  let found := found.apply (text "VERSION" "0.1.0")
  let found := found.apply (text "API_HOST" "0.0.0.0")
  let found := found.apply (number "API_PORT" 8040)
  let found := found.apply (text "API_PREFIX" "/filestore")
  let found := found.apply (text "CORS_ORIGINS" "http://localhost:3000")
  let found := found.apply (text "IPFS_HOST" "http://localhost:5001")
  let found := found.apply (seconds "IPFS_TIMEOUT" 30)
  let found := found.apply (text "ELASTICSEARCH_HOST" "http://localhost:9200")
  let found := found.apply (text "ELASTICSEARCH_USERNAME" "")
  let found := found.apply (text "ELASTICSEARCH_PASSWORD" "")
  let found := found.apply (seconds "ELASTICSEARCH_TIMEOUT" 10)
  let found := found.apply (flag "INDEX_NULL_VALUE" true)
  let found := found.apply (number "DEFAULT_PAGE_SIZE" 20)
  let found := found.apply (number "MAX_PAGE_SIZE" 1000)
  found.apply (flag "METRICS_ENABLED" true)

/-- Reads settings from an environment. -/
def ofEnvironment (environment : List (String × String)) : Checked Settings :=
  check (environment.map fun v => (v.1, Json.str v.2))

/-- The settings by name. -/
def toEntries (s : Settings) : Entries Json :=
  [("APP_NAME", .str s.appName), ("APP_ENV", .str s.environment), ("DEBUG", .bool s.debug),
    ("LOG_LEVEL", .str s.logLevel), ("VERSION", .str s.version), ("API_HOST", .str s.apiHost),
    ("API_PORT", .int s.apiPort), ("API_PREFIX", .str s.apiRoot),
    ("CORS_ORIGINS", .str s.corsOrigins), ("IPFS_HOST", .str s.contentHost),
    ("IPFS_TIMEOUT", .float s.contentTimeout), ("ELASTICSEARCH_HOST", .str s.engineHost),
    ("ELASTICSEARCH_USERNAME", .str s.engineUser),
    ("ELASTICSEARCH_PASSWORD", .str s.enginePassword),
    ("ELASTICSEARCH_TIMEOUT", .float s.engineTimeout), ("INDEX_NULL_VALUE", .bool s.fillAbsent),
    ("DEFAULT_PAGE_SIZE", .int s.defaultPageSize), ("MAX_PAGE_SIZE", .int s.maxPageSize),
    ("METRICS_ENABLED", .bool s.metricsEnabled)]

end Settings

end ContentDepot
