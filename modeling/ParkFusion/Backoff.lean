import ParkFusion.Clock
import ParkFusion.Failure

namespace ParkFusion

/-- How often an attempt that may succeed later is made, and the wait after the first one, in
milliseconds. The wait doubles after each further one. -/
structure Backoff where
  attempts : Nat := 3
  delay : Nat := 500
  deriving DecidableEq, Repr

namespace Backoff

variable {m : Type → Type} [Monad m] [Clock m] {α : Type}

/-- Attempts again, as often as is left, while failures are transient. -/
def persist (attempt : m (Except Failure α)) : Nat → Nat → m (Except Failure α)
  | 0, _ => attempt
  | left + 1, delay => do
    match ← attempt with
    | .error f =>
      if f.isTransient then
        Clock.pause delay
        persist attempt left (2 * delay)
      else return .error f
    | result => return result

def run (b : Backoff) (attempt : m (Except Failure α)) : m (Except Failure α) :=
  persist attempt (b.attempts - 1) b.delay

end Backoff

end ParkFusion
