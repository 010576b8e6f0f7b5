namespace ParkFusion

/-- Why a source gave no answer. -/
inductive Failure
  /-- No connection, no reply in time, or a reply that says the fault is not in the request. -/
  | unavailable (source reason : String)
  | rejected (source : String) (status : Nat) (reason : String)
  /-- The source is blocked for the time left, in milliseconds. -/
  | quotaExceeded (source : String) (left : Nat)
  | malformed (source reason : String)
  | sharedState (text : String)
  deriving DecidableEq, Repr

namespace Failure

def message : Failure → String
  | unavailable source reason => source ++ " unavailable: " ++ reason
  | rejected source status reason =>
    source ++ " rejected request (" ++ toString status ++ "): " ++ reason
  | quotaExceeded source left =>
    source ++ " blocked by quota cool-down (" ++ toString (left / 1000) ++ " s remaining)"
  | malformed source reason => source ++ " parse error: " ++ reason
  | sharedState text => "shared state error: " ++ text

/-- Whether the same request may succeed later. -/
def isTransient : Failure → Bool
  | unavailable _ _ => true
  | _ => false

def isBlocked : Failure → Bool
  | quotaExceeded _ _ => true
  | _ => false

end Failure

/-- No source gave live data for the park. -/
structure NoData where
  park : String
  deriving DecidableEq, Repr

def NoData.message (e : NoData) : String :=
  "no live data available for park " ++ e.park

end ParkFusion
