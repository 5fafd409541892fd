/-
# The command

Checks the settings that the environment holds: prints them, and what the bridge reports while it
is set up, or else the fault.
-/
import BearerBridge.Bridge

namespace BearerBridge

/-- The variables of the environment that are looked at. -/
def environment : IO Settings.Variables := do
  let found ← Settings.variableNames.mapM fun name => do
    return (← IO.getEnv name).map (name, ·)
  return found.filterMap id

/-- Prints the settings, or the fault. -/
def checkEnvironment : IO UInt32 := do
  match Settings.read (← environment) with
  | .error fault =>
    IO.eprintln ("Failed to load configuration: " ++ fault.message)
    return 1
  | .ok settings =>
    IO.println settings.describe
    -- nothing is served here, so nothing is measured
    let bridge := settings.bridge .detached
    for e in bridge.events do
      IO.println (e.level.name ++ " " ++ e.target ++ " " ++ e.message)
    match bridge.value with
    | .error failure =>
      IO.eprintln ("Failed to build routes: " ++ failure.message)
      return 1
    | .ok _ => return 0

end BearerBridge

/-- Checks the settings. -/
def main : IO UInt32 := BearerBridge.checkEnvironment
