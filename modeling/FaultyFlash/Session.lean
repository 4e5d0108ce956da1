import FaultyFlash.Program.Run
import FaultyFlash.Script.Play
import FaultyFlash.Store.Counted

/-!
# Sessions

A session plays a script on a bench of its own, whose store counts references, and answers with
everything that was shown.

## Main definitions

* `Session.SessionM`: operations on the bench of a session
* `Session.callbacks`, `Session.nesting`: the callbacks of a script, and how deep they nest
* `Session.onDevice`: a task of a script run on a device
-/

namespace FaultyFlash

namespace Session

/-- How deep callbacks may nest in a session. -/
def nesting : Nat := 1000

/-- Operations on the bench of a session. -/
abbrev SessionM := BenchM Counted Nat Callback Memory

/-- Callbacks as the bench calls them. -/
def callbacks : Callbacks Callback Memory := fun c n => (c.play n).run

/-- Runs a task on a device of the bench. -/
def onDevice {α : Type} (d : Handle) (t : ScriptTask α) : ExceptT Failure SessionM α :=
  ExceptT.mk (t.run.execute callbacks nesting d)

end Session

end FaultyFlash
