import ContentDepot.Logging.Console
import ContentDepot.Logging.Event
import ContentDepot.Settings
import ContentDepot.Text.Lowering

/-!
# Log lines

Every event that is not below the threshold is written: in production as one
JSON object, elsewhere as a text for a person. Its keys come from the event
itself, else from what the last bind has put into the context, else from the
service. The loggers of the HTTP client have a threshold of at least warning.

* `Threshold.ofSettings`: the thresholds.
* `recordOf`: the fields of an event that is written.
* `LogStep`, `LogState.step`: binding, clearing and logging.
* `LogState.run`: steps one after the other, with what is written.
-/

namespace ContentDepot

/-- The rank that a level name stands for; a name that is not known means info. Two words have
another meaning to the log and cannot be used. -/
def rankOfName (name : String) : Except Fault Nat :=
  let word := Text.upperName name
  if word = "DEBUG" then .ok 10
  else if word = "INFO" then .ok 20
  else if word = "WARNING" || word = "WARN" then .ok 30
  else if word = "ERROR" then .ok 40
  else if word = "CRITICAL" || word = "FATAL" then .ok 50
  else if word = "NOTSET" then .ok 0
  else if word = "BASIC_FORMAT" then .error .noSuchKey
  else if word = "_STYLES" then .error .wrongType
  else .ok 20

/-- The loggers of the HTTP client. -/
def clientLoggers : List String := ["httpx", "httpcore"]

/-- The rank of the events that are written: of all loggers, and of those of the
HTTP client. -/
structure Threshold where
  root : Nat
  client : Nat
  deriving Repr, DecidableEq

namespace Threshold

/-- The thresholds that settings ask for. -/
def ofSettings (s : Settings) : Except Fault Threshold :=
  (rankOfName s.logLevel).map fun root => ⟨root, max root Level.warning.rank⟩

/-- The rank of the root logger and of each client logger. -/
def ranks (t : Threshold) : List Nat := t.root :: clientLoggers.map fun _ => t.client

/-- Whether a logger is one of the HTTP client's or below one. -/
def isClient (logger : String) : Bool :=
  clientLoggers.any fun name => logger == name || logger.startsWith (name ++ ".")

/-- Whether events of a level are looked at. -/
def enables (t : Threshold) (level : Level) : Bool := t.root ≤ level.rank

/-- Whether an event of a logger is written. -/
def admits (t : Threshold) (logger : String) (level : Level) : Bool :=
  t.enables level && (!isClient logger || t.client ≤ level.rank)

end Threshold

/-- An event with the service and the environment, which yield to its own keys. -/
def withService (s : Settings) (event : Entries Json) : Entries Json :=
  let event := if Entries.has event "service" then event
    else Entries.put event "service" (.str s.appName)
  if Entries.has event "env" then event else Entries.put event "env" (.str s.environment)

/-- What can be done with the log. -/
inductive LogStep where
  /-- Starts a fresh context for a request. -/
  | bind (requestId : Json) (values : Entries Json)
  | clear
  | log (level : Level) (logger event : Json) (fields : Entries Json)
  deriving Repr, Inhabited

/-- The name of the root logger. -/
def rootLogger : String := "root"

/-- The name of a logger, which is a text; without one it is the root. -/
def loggerName (logger : Json) : Except Fault String :=
  if !logger.truthy then .ok rootLogger
  else match logger with
    | .str s => .ok s
    | _ => .error .wrongType

/-- The keys that the log takes for itself: the time of an event and what is to be added to it. -/
def takenKeys : List String := ["timestamp", "stack_info", "exc_info"]

/-- The key of a record that another log has made of an event. -/
def foreignRecordKey : String := "_record"

/-- The fields of an event that is written, apart from its time. The event's name is left out
where it is null. -/
def recordOf (s : Settings) (context : Entries Json) (level : Level) (logger : String)
    (event : Json) (fields : Entries Json) : Except Fault (Entries Json) :=
  let own := Entries.ofList fields
  let own := if event = .null then own else Entries.put own "event" event
  let line := withService s (Entries.putAll context own)
  let foreign := (Entries.get? line foreignRecordKey).getD .null
  if foreign ≠ .null then .error .noSuchMember
  else
    let line := Entries.put (Entries.put line "level" (.str level.label)) "logger" (.str logger)
    .ok (line.filter fun e => !takenKeys.contains e.1)

/-- The environment in which events are written as JSON objects. -/
def productionEnvironment : String := "production"

/-- What is written for an event. -/
inductive LogLine where
  | record (fields : Entries Json)
  | text (s : String)
  deriving Repr, Inhabited

namespace LogLine

/-- What is written for the fields of an event. -/
def ofRecord (s : Settings) (fields : Entries Json) : Except Fault LogLine :=
  if s.environment = productionEnvironment then .ok (.record fields)
  else (Console.render fields).map .text

/-- How many lines are written. -/
def lineCount : LogLine → Nat
  | record _ => 1
  | text s => Console.lineCount s

end LogLine

/-- The context of the log and what has been written so far. -/
structure LogState where
  context : Entries Json
  lines : List LogLine

namespace LogState

/-- Nothing bound and nothing written. -/
def initial : LogState := ⟨[], []⟩

/-- The names that a field can never have, since every event gives them a meaning. -/
def fixedNames : List String := ["self", "event"]

/-- The name that a field cannot have either where its event is looked at. -/
def methodKey : String := "method_name"

/-- One step. -/
def step (s : Settings) (t : Threshold) (state : LogState) : LogStep → Except Fault LogState
  | .bind requestId values =>
    if Entries.has values "request_id" then .error .wrongType
    else .ok { state with context := Entries.putAll [("request_id", requestId)] values }
  | .clear => .ok { state with context := [] }
  | .log level logger event fields => do
    let logger ← loggerName logger
    if fixedNames.any (Entries.has fields) then throw .wrongType
    if !t.enables level then return state
    if Entries.has fields methodKey then throw .wrongType
    let line ← LogLine.ofRecord s (← recordOf s state.context level logger event fields)
    return if t.admits logger level then { state with lines := state.lines ++ [line] } else state

/-- Steps one after the other. -/
def run (s : Settings) (t : Threshold) (steps : List LogStep) : Except Fault LogState :=
  steps.foldlM (step s t) initial

/-- The records that were written, or the number of lines elsewhere than in production. -/
def report (s : Settings) (state : LogState) : Json :=
  if s.environment = productionEnvironment then
    .arr (state.lines.filterMap fun
      | .record fields => some (.obj fields)
      | .text _ => none)
  else .int (state.lines.foldl (fun n line => n + line.lineCount) 0 : Nat)

end LogState

end ContentDepot
