import ContentDepot.Json.Basic

/-!
# Log events

An event has a level, a name and fields that say more of it; events of the level
debug are for the developer alone and are not kept.
-/

namespace ContentDepot

/-- How much an event matters. -/
inductive Level where
  | debug
  | info
  | warning
  | error
  | critical
  deriving DecidableEq, Repr, Inhabited

namespace Level

/-- The rank of a level on the usual scale. -/
def rank : Level → Nat
  | debug => 10
  | info => 20
  | warning => 30
  | error => 40
  | critical => 50

/-- The name of a level. -/
def label : Level → String
  | debug => "debug"
  | info => "info"
  | warning => "warning"
  | error => "error"
  | critical => "critical"

/-- The level that a name stands for; some levels go by two names. -/
def ofName? (s : String) : Option Level :=
  if s = "warn" then some warning
  else if s = "fatal" then some critical
  else if s = "msg" then some info
  else if s = "exception" then some error
  else [debug, info, warning, error, critical].find? fun l => l.label == s

end Level

/-- Something that happened. -/
structure Event where
  level : Level
  name : String
  /-- What is said of it. -/
  fields : Entries Json
  deriving DecidableEq, Repr, Inhabited

end ContentDepot
