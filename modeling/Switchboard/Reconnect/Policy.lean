import Switchboard.Duration

/-!
When a destination is connected again: after a failure the wait doubles with every further one, up to
a cap, and the destinations are looked at once in every scan interval.
-/
namespace Switchboard.Reconnect

structure Policy where
  enabled : Bool := true
  initialDelay : Duration := .ofSecs 1
  maxDelay : Duration := .ofSecs 30
  scanInterval : Duration := .ofMillis 500
deriving DecidableEq, Inhabited

/-- The wait after the start of the last attempt, for a count of failures since the last success. -/
def Policy.backoff (p : Policy) (failures : Nat) : Duration :=
  if failures = 0 then .zero
  else (p.initialDelay.scale (Nat.pow 2 (min (failures - 1) 31))).atMost p.maxDelay

end Switchboard.Reconnect
