import ParkFusion.Clock
import ParkFusion.Http
import ParkFusion.Quota.Governor

namespace ParkFusion

/-- What a server has for a path: its replies in order, of which the last one is repeated. Nothing
in the place of a reply means that the connection breaks. -/
abbrev Routes := List (String × List (Option Http.Reply))

/-- A world whose servers reply by script, whose clock runs only while someone waits, and in which
the date stands still. The requests that reached a server are kept, latest first. -/
structure World where
  now : Nat := 0
  today : Instant := .epoch
  memory : Quota.Memory := {}
  servers : List (String × Routes) := []
  sent : List Http.Request := []

namespace World

/-- The next reply of a server at a path. -/
def takeReply (target : String) : Routes → Option Http.Reply × Routes
  | [] => (some { status := 404 }, [])
  | (path, replies) :: routes =>
    if path = target then
      match replies with
      | [] => (some { status := 404 }, (path, []) :: routes)
      | [last] => (last, (path, [last]) :: routes)
      | next :: replies => (next, (path, replies) :: routes)
    else
      let (reply, routes) := takeReply target routes
      (reply, (path, replies) :: routes)

/-- A host without a server does not reply. -/
def takeFrom (request : Http.Request) :
    List (String × Routes) → Option (Option Http.Reply × List (String × Routes))
  | [] => none
  | (host, routes) :: servers =>
    if host = request.url.host then
      let (reply, routes) := takeReply request.url.target routes
      some (reply, (host, routes) :: servers)
    else (takeFrom request servers).map fun (reply, servers) ↦ (reply, (host, routes) :: servers)

def send (request : Http.Request) (w : World) : Option Http.Reply × World :=
  match takeFrom request w.servers with
  | some (reply, servers) => (reply, { w with servers, sent := request :: w.sent })
  | none => (none, w)

instance : Clock (StateM World) where
  now := return (← get).now
  pause duration := modify fun w ↦ { w with now := w.now + duration }

instance : Network (StateM World) where
  send request := modifyGet (World.send request)
  today := return (← get).today

instance : MonadStateOf Quota.Memory (StateM World) where
  get := return (← getThe World).memory
  set memory := modifyThe World fun w ↦ { w with memory }
  modifyGet f := modifyGetThe World fun w ↦
    let (a, memory) := f w.memory
    (a, { w with memory })

end World

end ParkFusion
