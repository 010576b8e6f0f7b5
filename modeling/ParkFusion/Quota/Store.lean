import ParkFusion.Failure
import ParkFusion.Quota.Counter

namespace ParkFusion.Quota

/-- A value that exists until its expiry, in milliseconds. -/
structure Entry where
  value : String
  expiry : Nat
  deriving DecidableEq, Repr

/-- Texts under keys that several processes share. An expired entry counts as absent, whether it is
still stored or not. -/
structure Store where
  entries : List (String × Entry) := []
  deriving DecidableEq, Repr

namespace Store

def isLive (now : Nat) (e : Entry) : Bool :=
  now < e.expiry

def live? (s : Store) (now : Nat) (key : String) : Option Entry :=
  (s.entries.lookup key).filter (isLive now)

def erase (s : Store) (key : String) : Store :=
  ⟨s.entries.filter (·.1 ≠ key)⟩

def insert (s : Store) (key : String) (e : Entry) : Store :=
  ⟨(key, e) :: (s.erase key).entries⟩

/-- The value of a key. An entry found expired is erased. -/
def get (s : Store) (now : Nat) (key : String) : Option String × Store :=
  match s.live? now key with
  | some e => (some e.value, s)
  | none => (none, s.erase key)

def set (s : Store) (now : Nat) (key value : String) (lifetime : Nat) : Store :=
  s.insert key ⟨value, now + lifetime⟩

/-- Sets a key that has no value, and says whether it had none. -/
def setIfAbsent (s : Store) (now : Nat) (key value : String) (lifetime : Nat) : Bool × Store :=
  match s.live? now key with
  | some _ => (false, s)
  | none => (true, s.set now key value lifetime)

/-- Milliseconds until a key expires. -/
def ttl (s : Store) (now : Nat) (key : String) : Option Nat :=
  (s.live? now key).map (·.expiry - now)

/-- Counts up. The lifetime applies to a counter that is new. -/
def increment (s : Store) (now : Nat) (key : String) (lifetime : Nat) :
    Except Failure (Nat × Store) :=
  match s.live? now key with
  | none => .ok (1, s.set now key "1" lifetime)
  | some e =>
    match Counter.read e.value with
    | .ok n => .ok (Counter.next n, s.insert key ⟨(Counter.next n).repr, e.expiry⟩)
    | .error fault => .error (.sharedState ("counter " ++ key ++ ": " ++ fault.message))

end Store

end ParkFusion.Quota
