import FaultyFlash.Session

/-!
# Interactive sessions

A list of actions on a device and on the copies made of it: steps of a script, each on the device
of a handle, and devices given up.

## Main definitions

* `Session.Action`, `Session.Action.perform`: an action, and what it shows
* `Session.Interactive`, `Session.interactive`: what a session shows, and a session played
-/

namespace FaultyFlash

namespace Session

/-- What is done in an interactive session. -/
inductive Action where
  /-- A step on a device. -/
  | step (device : Handle) (s : Step Callback)
  /-- A device is given up. -/
  | drop (device : Handle)

/-- What is shown after an action. -/
inductive ActionAnswer where
  | step (a : StepAnswer)
  | dropped
  /-- There is no such device. -/
  | noDevice

/-- What an interactive session shows: its answers, every device at the end unless it was given
up, and the image file at the end. -/
structure Interactive where
  answers : List ActionAnswer
  devices : List (Option (Status × Dump))
  image : Option Image

/-- Does an action, and shows it. -/
def Action.perform : Action → ExceptT Failure SessionM ActionAnswer
  | step d s => do
    if (← get).isLive d then
      return .step (← onDevice d s.perform)
    else
      return .noDevice
  | drop d => do
    if (← get).isLive d then
      (Bench.drop d : SessionM Unit)
      return .dropped
    else
      return .noDevice

/-- Shows a device at the end. -/
def inspect (d : Handle) : ExceptT Failure SessionM (Option (Status × Dump)) := do
  if (← get).isLive d then
    return some (← onDevice d do return (← Status.take, ← Dump.take))
  else
    return none

/-- Why an interactive session shows nothing. -/
inductive Stop where
  | failed (f : Failure)
  | halted (h : Halt)
  deriving DecidableEq, Repr

/-- Plays actions on a new device and its copies. -/
def interactive (cfg : Config) (actions : List Action) : Except Stop Interactive :=
  let played : ExceptT Failure SessionM Interactive := do
    let answers ← actions.mapM Action.perform
    let devices ← (List.range (← get).rack.length).mapM inspect
    return { answers := answers, devices := devices, image := (← get).image }
  match Bench.create cfg {} with
  | .error f => .error (.failed f)
  | .ok w =>
    match played.run w with
    | .ok (.ok shown) _ => .ok shown
    | .ok (.error f) _ => .error (.failed f)
    | .error h _ => .error (.halted h)

end Session

end FaultyFlash
