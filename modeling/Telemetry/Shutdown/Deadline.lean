import Telemetry.Quantity
import Telemetry.Wait

/-! # Waiting against a deadline

Several waits share one deadline. Each wait may use what is left of the time, and never less than
none; the list of those that were still pending when their wait ended is the outcome. Time is
counted in seconds. -/

namespace Telemetry

namespace Deadline

/-- Whether this time can be waited for. What lies infinitely far back has passed. -/
def canWait : Quantity → Bool
  | .real (.infinite negative) => negative
  | t => isWaitable t.toRat

/-- What is left at a time, none after the deadline. -/
def left (deadline now : Rat) : Rat := if now ≤ deadline then deadline - now else 0

/-- Waits for something that is done at a given time, or never. A wait that ends early takes the
time until then, one that times out takes all it may. -/
def wait (deadline now : Rat) (done : Option Rat) : Bool × Rat :=
  let limit := now + left deadline now
  match done with
  | some t => if t ≤ now then (true, now) else if t ≤ limit then (true, t) else (false, limit)
  | none => (false, limit)

/-- Waits for each in turn. The names of those that were pending, and the time at the end. -/
def waitAll (deadline : Rat) : Rat → List (String × Option Rat) → List String × Rat
  | now, [] => ([], now)
  | now, (name, done) :: rest =>
    let (finished, now') := wait deadline now done
    let (pending, last) := waitAll deadline now' rest
    (if finished then pending else name :: pending, last)

end Deadline

end Telemetry
