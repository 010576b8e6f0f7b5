import ParkFusion.Document
import ParkFusion.Http
import ParkFusion.Http.Status
import ParkFusion.Json.Reader
import ParkFusion.Quota.Counter
import ParkFusion.Unicode.Blank

namespace ParkFusion.Http

/-- Asks one source, whose paths all stand below a base address. -/
structure Client where
  source : String
  base : String
  deriving DecidableEq, Repr

/-- An address without the slashes at its end. -/
def trimSlashes (url : String) : String :=
  String.ofList (url.toList.reverse.dropWhile (· = '/')).reverse

namespace Reply

/-- The wait that the reply asks for, in milliseconds, if it is given in whole seconds. -/
def retryAfter? (r : Reply) : Option Nat :=
  (r.header? "retry-after").bind fun value ↦
    if value.toList.all fun c ↦ c = '\t' || (0x20 ≤ c.toNat && c.toNat < 0x7F) then
      match Quota.Counter.read (Unicode.trim value) with
      | .ok seconds => some (seconds * 1000)
      | .error _ => none
    else none

/-- The body of a reply, unless its status allows none. -/
def content (r : Reply) : String :=
  if r.status < 200 || r.status = 204 || r.status = 304 then "" else r.body

def withoutMark (s : String) : String :=
  match s.toList with
  | '\ufeff' :: rest => String.ofList rest
  | _ => s

/-- The value in the body of a success; other replies say why there is none. -/
def read {α : Type} (source : String) (decode : Document → Option α) (r : Reply) :
    Except Failure α :=
  if isSuccess r.status then
    match (Json.read? r.content).bind decode with
    | some value => .ok value
    | none => .error (.malformed source "the body is not what was expected")
  else .error (failureOf source r.status r.retryAfter? (withoutMark r.content))

end Reply

/-- Whether a text can be the value of a header. -/
def isHeaderText (s : String) : Bool :=
  s.toList.all fun c ↦ c = '\t' || (0x20 ≤ c.toNat && c.toNat ≠ 0x7F)

/-- The value of a header as it arrives, without the blanks around it. -/
def headerValue (s : String) : String :=
  let isOuter := fun c : Char ↦ c = ' ' || c = '\t'
  String.ofList ((s.toList.dropWhile isOuter).reverse.dropWhile isOuter).reverse

namespace Client

variable {m : Type → Type} [Monad m] [Network m] {α : Type}

/-- Asks once for the value at a path. What cannot be sent counts as not answered. -/
def get (c : Client) (decode : Document → Option α) (path : String)
    (headers : List (String × String)) : m (Except Failure α) := do
  match Url.parse? (c.base ++ path) with
  | none => return .error (.unavailable c.source "the address is invalid")
  | some url =>
    if headers.all (isHeaderText ·.2) then
      match ← Network.send ⟨url, headers.map fun (name, value) ↦ (name, headerValue value)⟩ with
      | some reply => return reply.read c.source decode
      | none => return .error (.unavailable c.source "there was no reply")
    else return .error (.unavailable c.source "a header is invalid")

end Client

end ParkFusion.Http
