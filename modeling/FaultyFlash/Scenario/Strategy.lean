import FaultyFlash.Config

/-!
# Strategies and reports

When a scenario loses power, and what it tells about itself at the end.

## Main definitions

* `PowerLossAware ε`: error types in which a loss of power can be told apart
* `Strategy`, `Strategy.schedule`: when to lose power
* `Report`, `Report.addRun`, `Report.addLoss`: what a scenario went through

## Main results

* `Strategy.toNat_linear`: the countdowns of the linear strategy
-/

namespace FaultyFlash

/-- Error types in which a loss of power can be told apart. -/
class PowerLossAware (ε : Type) where
  ofFailure : Failure → ε
  isPowerLoss : ε → Bool

instance : PowerLossAware Failure where
  ofFailure := id
  isPowerLoss := Failure.isPowerLoss

/-- When to lose power. -/
inductive Strategy where
  /-- Never. -/
  | none
  /-- After one update, then after two, then after three, and so on. -/
  | linear
  /-- After one update, then after two, then after four, and so on. -/
  | log
  /-- As listed, and then never. -/
  | explicit (schedule : List UInt32)
  /-- At every reachable point, at most `depth` times in a row. -/
  | exhaustive (depth : Nat)
  deriving DecidableEq, Repr

/-- The countdown armed after `i` losses of power; zero for none. The exhaustive strategy does not
follow a schedule and starts with none. -/
def Strategy.schedule : Strategy → Nat → UInt32
  | none, _ => 0
  | linear, i => Config.successor i.toUInt32
  | log, i => if i.toUInt32 < 32 then 1 <<< i.toUInt32 else 0xffffffff
  | explicit schedule, i => schedule[i]?.getD 0
  | exhaustive _, _ => 0

namespace Strategy

/-- The linear strategy names the numbers in turn. -/
theorem toNat_linear {j : Nat} (small : j < 0xffffffff) : (linear.schedule j).toNat = j + 1 := by
  have word : j.toUInt32.toNat = j := Nat.mod_eq_of_lt (Nat.lt_trans small (by decide))
  have below : j.toUInt32 ≠ 0xffffffff := by
    intro same
    rw [same] at word
    exact absurd word (Nat.ne_of_gt small)
  show (Config.successor j.toUInt32).toNat = j + 1
  rw [Config.successor, if_neg below, UInt32.toNat_add, word]
  exact Nat.mod_eq_of_lt (Nat.succ_lt_succ small)

end Strategy

/-- What a scenario went through. -/
structure Report where
  /-- How often the body was run. -/
  runs : Nat := 0
  powerLosses : Nat := 0
  /-- For each loss of power the countdowns that led to it. -/
  trails : List (List UInt32) := []
  deriving DecidableEq, Repr

namespace Report

/-- One more run of the body. -/
def addRun (r : Report) : Report := { r with runs := r.runs + 1 }

/-- One more loss of power, with its trail. -/
def addLoss (r : Report) (trail : List UInt32) : Report :=
  { r with powerLosses := r.powerLosses + 1, trails := r.trails ++ [trail] }

end Report

end FaultyFlash
