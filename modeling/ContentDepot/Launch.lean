import ContentDepot.Api.Route
import ContentDepot.Logging.Output

/-!
# Launching the service

An environment gives the settings, and these say under which name, where and
with which log thresholds the service is to run.

* `LaunchPlan.ofEnvironment`: the plan that an environment gives, or why there is none.
-/

namespace ContentDepot

/-- What is known of a service before it runs. -/
structure LaunchPlan where
  thresholds : Threshold
  title : String
  version : String
  host : String
  port : Int
  deriving Repr, DecidableEq

namespace LaunchPlan

/-- The plan that settings give, of which a log and a service can be made. -/
def ofSettings (s : Settings) : Except Fault LaunchPlan := do
  let thresholds ← Threshold.ofSettings s
  let _ ← Api.Routes.ofSettings s
  return ⟨thresholds, s.appName, s.version, s.apiHost, s.apiPort⟩

/-- The plan that an environment gives. -/
def ofEnvironment (environment : List (String × String)) : Except Failure LaunchPlan :=
  match Settings.ofEnvironment environment with
  | .error issues => .error (.invalid issues)
  | .ok s => match ofSettings s with
    | .ok plan => .ok plan
    | .error f => .error (.fault f)

/-- A plan as an object. -/
def toJson (p : LaunchPlan) : Json :=
  .obj [("levels", .arr (p.thresholds.ranks.map fun (n : Nat) => .int n)), ("title", .str p.title),
    ("version", .str p.version), ("host", .str p.host), ("port", .int p.port)]

end LaunchPlan

end ContentDepot
