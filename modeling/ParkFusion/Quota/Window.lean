namespace ParkFusion.Quota

/-- The requests since the start of the current minute. A window starts with its first request. -/
structure Window where
  started : Option Nat := none
  count : Nat := 0
  deriving DecidableEq, Repr

namespace Window

/-- A minute, in milliseconds. -/
def length : Nat := 60000

def isRunning (w : Window) (now : Nat) : Bool :=
  match w.started with
  | some start => now < start + length
  | none => false

/-- When the window is over. -/
def finish (w : Window) : Nat :=
  match w.started with
  | some start => start + length
  | none => 0

/-- Takes a slot, the first one of a new window if none is running. -/
def takeSlot (w : Window) (now : Nat) : Window :=
  if w.isRunning now then { w with count := w.count + 1 } else ⟨some now, 1⟩

/-- Takes a slot, or says how long the running window, which has none left, still lasts. -/
def claim (w : Window) (limit now : Nat) : Except Nat Window :=
  if w.isRunning now && limit ≤ w.count then .error (w.finish - now) else .ok (w.takeSlot now)

end Window

end ParkFusion.Quota
