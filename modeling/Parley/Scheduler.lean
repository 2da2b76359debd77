import Parley.Desk

/-!
# Schedulers

A scheduler looks for waits that are over, pass after pass, until it is asked to stop. It always
finishes the pass that it is in.
-/

namespace Parley

/-- A scheduler. -/
structure Scheduler where
  /-- How many passes it took. -/
  passes : Nat
  /-- How many executions it resumed. -/
  resumed : Nat
  /-- Whether it was asked to stop. -/
  asked : Bool
  /-- Whether it ended. -/
  ended : Bool

namespace Scheduler

/-- A scheduler before its first pass. -/
def start : Scheduler := ⟨0, 0, false, false⟩

/-- One pass. What goes wrong in it is passed over. -/
def pass (engine : Engine) (scheduler : Scheduler) : Desk Scheduler := do
  let found ← Desk.attempt (do Desk.expire engine (← get).clock)
  let count := match found with
    | .ok ids => ids.length
    | .error _ => 0
  return { scheduler with
    passes := scheduler.passes + 1
    resumed := scheduler.resumed + count }

/-- Asks a scheduler to stop. -/
def stop (scheduler : Scheduler) : Scheduler := { scheduler with asked := true }

/-- What becomes of a scheduler between two passes: one that was asked to stop ends. -/
def settle (scheduler : Scheduler) : Scheduler := { scheduler with ended := scheduler.asked }

/-- The word for what a scheduler is doing. -/
def status (scheduler : Scheduler) : String :=
  if scheduler.ended then "stopped" else if scheduler.asked then "stopping" else "running"

/-- Whether a scheduler goes on. -/
def isRunning (scheduler : Scheduler) : Bool := !scheduler.ended

/-- Waits some seconds for a scheduler to end. -/
def wait (scheduler : Scheduler) (seconds : Value) : Except Failure Unit :=
  if scheduler.ended then .ok ()
  else .error (.tooSlow ("Scheduler did not stop within " ++ seconds.toText ++ "s"))

end Scheduler

end Parley
