import FaultyFlash.Script.View

/-!
# Playing a script

Steps and callbacks of a script as programs on the device at hand. A step sets aside what was
shown of callbacks before it, so each callback is shown under the innermost step during which it
ran.

## Main definitions

* `Command.perform`: a command as a program
* `Step.perform`: a step, with what is shown after it
* `Callback.play`: a call of a callback
-/

namespace FaultyFlash

/-- A text that describes the device at hand. -/
def describe : ScriptTask String := do
  let g := (← Task.ask .config).geometry
  let allocated ← Task.ask .allocated
  let read ← Task.ask (.counter .bytesRead)
  let programmed ← Task.ask (.counter .bytesProgrammed)
  let erased ← Task.ask (.counter .bytesErased)
  let countdown ← Task.ask .countdown
  let generator ← Task.ask .generator
  return s!"EmuBd \x7b geometry: {g.describe}, allocated: {allocated}, readed: {read}, " ++
    s!"proged: {programmed}, erased: {erased}, power_cycles: {countdown}, " ++
    s!"prng: {generator.describe}, .. \x7d"

/-- Commands of a script: tasks that may fail by themselves. -/
abbrev CommandTask := ExceptT ScriptError (Program Callback Memory)

/-- Turns a task on the device into a command. -/
def onDevice {α : Type} (t : ScriptTask α) : CommandTask α :=
  ExceptT.adapt ScriptError.device t

/-- A command as a program. -/
def Command.perform : Command Callback → CommandTask Value
  | ask r => do return Value.ofAnswer r (← onDevice (Task.ask r))
  | geometry => do return .geometry (← onDevice (Task.ask .config)).geometry
  | describe => do return .text (← onDevice FaultyFlash.describe)
  | dump => do return .dump (← onDevice Dump.take)
  | install callback => do
    ExceptT.lift (.install callback (.done ()))
    return .nothing
  | mount => do return .number (← onDevice PingPong.mount).value.toNat
  | commit value => do
    let r ← onDevice PingPong.mount
    let _ ← onDevice (PingPong.commit r value)
    return .nothing
  | countTo target => do
    ExceptT.adapt ScriptError.ofCounter (PingPong.countTo target)
    return .nothing
  | fail e => throw e

/-- A step as a program. -/
def Step.perform (s : Step Callback) : ScriptTask StepAnswer := do
  let before ← ExceptT.lift (Program.getMemory .done)
  ExceptT.lift (Program.updateMemory fun m => { m with crashes := [] })
  let outcome ← ExceptT.lift s.command.perform.run
  let after ← ExceptT.lift (Program.getMemory .done)
  ExceptT.lift (Program.updateMemory fun m => { m with crashes := before.crashes })
  let status ← Status.take
  let count := (← Task.ask .config).geometry.blockCount
  let watched ← match s.watch with
    | some block => if block < count then some <$> BlockView.take block else pure none
    | none => pure none
  return ⟨outcome, status, watched, after.crashes⟩

/-- Records a call of a callback. -/
def recordCrash (r : CrashRecord StepAnswer) : ScriptTask Unit :=
  ExceptT.lift (Program.updateMemory fun m => { m with crashes := m.crashes ++ [r] })

/-- The `n`-th call of a callback, from zero. A callback without calls does nothing and aborts. -/
def Callback.play : Callback → (n : Nat) → ScriptTask Verdict
  | ⟨calls⟩, n => do
    let entry ← Status.take
    match calls[min n (calls.length - 1)]? with
    | none =>
      recordCrash ⟨entry, []⟩
      return .abort
    | some call =>
      let steps ← (Step.expand call.steps).mapM Step.perform
      recordCrash ⟨entry, steps⟩
      match call.ending with
      | .verdict v => return v
      | .fail f => throw (.fault f)

end FaultyFlash
