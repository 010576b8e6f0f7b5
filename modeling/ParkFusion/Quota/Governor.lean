import ParkFusion.Clock
import ParkFusion.Quota.Store
import ParkFusion.Quota.Window

namespace ParkFusion.Quota

/-- What a process knows of quotas: the store that it shares with others, and its own windows, one
for each of its governors. -/
structure Memory where
  store : Store := {}
  windows : List (Nat × Window) := []

namespace Memory

def window (mem : Memory) (seat : Nat) : Window :=
  (mem.windows.lookup seat).getD {}

def setWindow (mem : Memory) (seat : Nat) (w : Window) : Memory :=
  { mem with windows := (seat, w) :: mem.windows.filter (·.1 ≠ seat) }

end Memory

/-- Steps on the memory at the present time, each of which nobody else can interrupt. -/
class Atomic (m : Type → Type) where
  step {α : Type} (f : Nat → Memory → α × Memory) : m α

instance {m : Type → Type} [Monad m] [Clock m] [MonadStateOf Memory m] : Atomic m where
  step f := do
    let now ← Clock.now
    modifyGet (f now)

/-- Keeps the requests to one source within its quota: it spaces them by its own window, and blocks
the source for every process once the quota was exceeded. The seat tells its window. -/
structure Governor where
  source : String
  limit : Nat
  block : Nat
  seat : Nat
  limit_pos : 0 < limit

inductive Access
  | unblocked
  /-- Blocked for the time left, in milliseconds. -/
  | blocked (left : Nat)
  deriving DecidableEq, Repr

/-- Where a caller stands after a try to get a slot. -/
inductive Turn
  | released
  | refused (failure : Failure)
  | asleep (duration : Nat)
  deriving DecidableEq, Repr

namespace Governor

/-- A quota of zero requests counts as one. -/
def ofQuota (source : String) (perMinute block seat : Nat) : Governor where
  source := source
  limit := max perMinute 1
  block := block
  seat := seat
  limit_pos := by omega

def leaseKey (g : Governor) : String :=
  "parkfan:quota-block:" ++ g.source

def usageKey (g : Governor) : String :=
  "parkfan:quota-usage:" ++ g.source

def access (g : Governor) (now : Nat) (s : Store) : Access :=
  match s.ttl now g.leaseKey with
  | some left => .blocked left
  | none => .unblocked

def ensureOpen (g : Governor) (now : Nat) (s : Store) : Except Failure Unit :=
  match g.access now s with
  | .unblocked => .ok ()
  | .blocked left => .error (.quotaExceeded g.source left)

/-- Blocks the source. A block that holds already is neither renewed nor prolonged. -/
def recordViolation (g : Governor) (now : Nat) (s : Store) : Store :=
  (s.setIfAbsent now g.leaseKey "429" g.block).2

/-- Lets a caller go that has its slot, unless the source was blocked while it waited. -/
def depart (g : Governor) (now : Nat) (mem : Memory) : Turn × Memory :=
  match g.ensureOpen now mem.store with
  | .error f => (.refused f, mem)
  | .ok () =>
    match mem.store.increment now g.usageKey Window.length with
    | .error f => (.refused f, mem)
    | .ok (_, store) => (.released, { mem with store })

/-- Competes for a slot of the window. -/
def contend (g : Governor) (now : Nat) (mem : Memory) : Turn × Memory :=
  match (mem.window g.seat).claim g.limit now with
  | .error delay => (.asleep delay, mem)
  | .ok w => g.depart now (mem.setWindow g.seat w)

variable {m : Type → Type} [Monad m] [Clock m] [Atomic m] {α : Type}

def checkOpen (g : Governor) : m (Except Failure Unit) :=
  Atomic.step fun now mem ↦ (g.ensureOpen now mem.store, mem)

/-- Competes for a slot until it gets one. Each sleep lasts as long as the window that is spent. -/
def await (g : Governor) : m (Except Failure Unit) :=
  repeatM (fun _ ↦ do
    match ← Atomic.step g.contend with
    | .released => return .inr (.ok ())
    | .refused f => return .inr (.error f)
    | .asleep delay => do
      Clock.pause delay
      return .inl ()) ()

/-- Waits for a slot. -/
def acquire (g : Governor) : m (Except Failure Unit) := do
  match ← g.checkOpen with
  | .error f => return .error f
  | .ok () => g.await

/-- What comes of an answer. One that says the quota was exceeded blocks the source. -/
def settle (g : Governor) : Except Failure α → m (Except Failure α)
  | .error f =>
    if f.isBlocked then do
      Atomic.step fun now mem ↦ ((), { mem with store := g.recordViolation now mem.store })
      return .error (.quotaExceeded g.source g.block)
    else return .error f
  | .ok a => return .ok a

/-- Makes a request once there is a slot. -/
def call (g : Governor) (request : m (Except Failure α)) : m (Except Failure α) := do
  match ← g.acquire with
  | .error f => return .error f
  | .ok () => g.settle (← request)

end Governor

end ParkFusion.Quota
