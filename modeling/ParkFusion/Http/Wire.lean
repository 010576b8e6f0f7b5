import ParkFusion.Decimal.Nearest
import ParkFusion.Hex
import ParkFusion.Http
import ParkFusion.Http.Client

namespace ParkFusion.Http

def userAgent : String := "parkfan-ingest/0.1.0"

def Url.authority (u : Url) : String :=
  match u.port with
  | some port => u.host ++ ":" ++ toString port
  | none => u.host

/-- The text of a request, after whose reply the connection is closed. -/
def Request.toText (r : Request) : String :=
  let fixed := [("Host", r.url.authority), ("Accept", "application/json"),
    ("User-Agent", userAgent), ("Connection", "close")]
  let lines := (fixed ++ r.headers).map fun (name, value) ↦ name ++ ": " ++ value ++ "\r\n"
  "GET " ++ r.url.target ++ " HTTP/1.1\r\n" ++ String.join lines ++ "\r\n"

/-- The bytes of a line and what follows its end. -/
def takeLine : List UInt8 → List UInt8 × List UInt8
  | [] => ([], [])
  | 13 :: 10 :: rest => ([], rest)
  | b :: rest =>
    let (line, rest) := takeLine rest
    (b :: line, rest)

/-- The lines up to the first empty one, and what follows it. -/
def takeHead : Nat → List UInt8 → List (List UInt8) × List UInt8
  | 0, bytes => ([], bytes)
  | fuel + 1, bytes =>
    match takeLine bytes with
    | ([], rest) => ([], rest)
    | (line, rest) =>
      let (lines, rest) := takeHead fuel rest
      (line :: lines, rest)

def text? (bytes : List UInt8) : Option String :=
  String.fromUTF8? ⟨bytes.toArray⟩

def headerLine? (line : List UInt8) : Option (String × String) := do
  let cs := (← text? line).toList
  let name := cs.takeWhile (· ≠ ':')
  return (String.ofList name, headerValue (String.ofList (cs.drop (name.length + 1))))

/-- The body that is cut into chunks, each after its length. -/
def joinChunks : Nat → List UInt8 → Option (List UInt8)
  | 0, _ => none
  | fuel + 1, bytes => do
    let (line, rest) := takeLine bytes
    let digits := ((← text? line).toList.takeWhile fun c ↦ (Hex.digit? c).isSome)
    if digits.isEmpty then none
    let size := Hex.ofDigits (digits.filterMap Hex.digit?)
    if size = 0 then return []
    else if rest.length < size then none
    else return rest.take size ++ (← joinChunks fuel (rest.drop (size + 2)))

/-- The code in a status line. -/
def status? (line : List UInt8) : Option Nat := do
  let cs := (← text? line).toList
  let (digits, _) := Decimal.takeDigits ((cs.dropWhile (· ≠ ' ')).drop 1)
  if "HTTP/".toList.isPrefixOf cs && digits.length = 3 then some (Decimal.ofDigits digits) else none

/-- Reads a reply to the end of its connection. A body that is shorter than announced is none. -/
def Reply.ofBytes? (bytes : List UInt8) : Option Reply := do
  let (head, rest) := takeHead bytes.length bytes
  let first :: lines := head | none
  let reply : Reply := { status := ← status? first, headers := lines.filterMap headerLine? }
  let body ← match reply.header? "transfer-encoding", reply.header? "content-length" with
    | some _, _ => joinChunks rest.length rest
    | none, some length =>
      let size := Decimal.ofDigits (Decimal.takeDigits length.toList).1
      if rest.length < size then none else some (rest.take size)
    | none, none => some rest
  return { reply with body := ← text? body }

end ParkFusion.Http
