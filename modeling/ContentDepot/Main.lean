import ContentDepot.Json.Printer
import ContentDepot.Launch

/-!
# The command

Reads the settings from the environment and shows under which name, where and
with which log thresholds the service runs; if there is no plan, it says why and
fails.
-/

open ContentDepot

/-- The variables of the environment that name a setting. -/
def settingVariables : IO (List (String × String)) := do
  match Settings.check [] with
  | .error _ => return []
  | .ok defaults =>
    let found ← (Entries.keys defaults.toEntries).mapM fun name => do
      return (← IO.getEnv name).map fun value => (name, value)
    return found.filterMap id

/-- Shows the plan that the environment gives. -/
def main : IO UInt32 := do
  match LaunchPlan.ofEnvironment (← settingVariables) with
  | .ok plan =>
    IO.println plan.toJson.print
    return 0
  | .error failure =>
    IO.eprintln failure.text
    return 1
