namespace ParkFusion

/-- A point in time: the day counted from 1970-01-01, the second of that day, and its nanosecond.
A leap second prolongs the second before it, whose nanoseconds then go on beyond a billion. -/
structure Instant where
  day : Int
  second : Nat
  nano : Nat
  second_lt : second < 86400 := by decide
  nano_lt : nano < 2000000000 := by decide
  deriving DecidableEq, Repr

namespace Instant

/-- Position in the order of all instants. -/
def rank (t : Instant) : Int :=
  (t.day * 86400 + t.second) * 2000000000 + t.nano

instance : LE Instant := ⟨fun a b ↦ a.rank ≤ b.rank⟩
instance : LT Instant := ⟨fun a b ↦ a.rank < b.rank⟩
instance (a b : Instant) : Decidable (a ≤ b) := inferInstanceAs (Decidable (a.rank ≤ b.rank))
instance (a b : Instant) : Decidable (a < b) := inferInstanceAs (Decidable (a.rank < b.rank))
instance : Max Instant := ⟨fun a b ↦ if a ≤ b then b else a⟩

def latest? : List Instant → Option Instant
  | [] => none
  | t :: ts => some (ts.foldl max t)

/-- The start of 1970. -/
def epoch : Instant := { day := 0, second := 0, nano := 0 }

/-- Nanoseconds from `b` to `a`. Of a leap second only what lies between the two times of day
counts. -/
def since (a b : Instant) : Int :=
  let leap : Int :=
    if b.second < a.second && 1000000000 ≤ b.nano then 1
    else if a.second < b.second && 1000000000 ≤ a.nano then -1
    else 0
  ((a.day - b.day) * 86400 + (a.second - b.second) + leap) * 1000000000 + (a.nano - b.nano)

/-- Whether two instants lie at most so many seconds apart. -/
def within (a : Instant) (seconds : Int) (b : Instant) : Bool :=
  (a.since b).natAbs ≤ seconds * 1000000000

/-- The same instant on a clock that is so many seconds behind. -/
def minusSeconds (t : Instant) (seconds : Int) : Instant :=
  let total := t.day * 86400 + t.second - seconds
  { day := total / 86400
    second := (total % 86400).toNat
    nano := t.nano
    second_lt := by omega
    nano_lt := t.nano_lt }

end Instant

end ParkFusion
