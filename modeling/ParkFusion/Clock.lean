namespace ParkFusion

/-- A clock in milliseconds, and the means to wait on it. -/
class Clock (m : Type → Type) where
  now : m Nat
  pause (duration : Nat) : m PUnit

instance {m : Type → Type} {σ : Type} [Monad m] [Clock m] : Clock (StateT σ m) where
  now := StateT.lift Clock.now
  pause duration := StateT.lift (Clock.pause duration)

end ParkFusion
