import ParkFusion.Hex

namespace ParkFusion.Http

/-- Where a request goes: the host with its port, and the path with its query. -/
structure Url where
  secure : Bool
  host : String
  port : Option Nat
  target : String
  deriving DecidableEq, Repr

namespace Url

def escapeByte (b : UInt8) : List Char :=
  ['%', Hex.bigDigit (b.toNat / 16), Hex.bigDigit (b.toNat % 16)]

/-- A character as it stands in an address: marked ones and all but printable ASCII are escaped byte
by byte. -/
def escape (marked : List Char) (c : Char) : List Char :=
  if c.toNat ≤ 0x20 || 0x7E < c.toNat || marked.contains c then
    c.toString.toUTF8.toList.flatMap escapeByte
  else [c]

def pathMarks : List Char := ['"', '#', '<', '>', '?', '\x60', '\x7b', '\x7d']

def queryMarks : List Char := ['"', '#', '<', '>', '\'']

/-- The stretches between slashes. -/
def segments : List Char → List (List Char)
  | [] => [[]]
  | c :: rest =>
    if c = '/' || c = '\\' then [] :: segments rest
    else
      match segments rest with
      | [] => [[c]]
      | s :: others => (c :: s) :: others

def dots (s : List Char) : Nat :=
  match s.map Char.toLower with
  | ['.'] | ['%', '2', 'e'] => 1
  | ['.', '.'] | ['.', '%', '2', 'e'] | ['%', '2', 'e', '.'] | ['%', '2', 'e', '%', '2', 'e'] => 2
  | _ => 0

/-- Resolves segments of one dot and of two dots. The segments so far come latest first. -/
def resolveDots : List (List Char) → List (List Char) → List (List Char)
  | done, [] => done.reverse
  | done, s :: rest =>
    let done := match dots s with
      | 0 => s :: done
      | 1 => if rest.isEmpty then [] :: done else done
      | _ => if rest.isEmpty then [] :: done.drop 1 else done.drop 1
    resolveDots done rest

def pathText (cs : List Char) : List Char :=
  (resolveDots [] (segments cs)).flatMap fun s ↦ '/' :: s.flatMap (escape pathMarks)

/-- The path and the query of an address, as a request names them. -/
def targetText (cs : List Char) : List Char :=
  let cs := cs.takeWhile (· ≠ '#')
  let path := cs.takeWhile (· ≠ '?')
  let path := match path with
    | c :: rest => if c = '/' || c = '\\' then rest else c :: rest
    | [] => []
  match cs.dropWhile (· ≠ '?') with
  | [] => pathText path
  | mark :: query => pathText path ++ mark :: query.flatMap (escape queryMarks)

def isOuterBlank (c : Char) : Bool :=
  c.toNat ≤ 0x20

def isHostChar (c : Char) : Bool :=
  c.isAlphanum || c = '.' || c = '-' || c = '_' || 0x7F < c.toNat

/-- The host with its port; credentials before it are left out. -/
def authority? (cs : List Char) : Option (String × Option Nat) :=
  let cs := (cs.reverse.takeWhile (· ≠ '@')).reverse
  let host := cs.takeWhile (· ≠ ':')
  let port := (cs.dropWhile (· ≠ ':')).drop 1
  let number := port.foldl (fun n c ↦ 10 * n + (c.toNat - '0'.toNat)) 0
  if host.isEmpty || !host.all isHostChar || !port.all Char.isDigit || 65535 < number then none
  else some (String.ofList (host.map Char.toLower), if port.isEmpty then none else some number)

/-- An absolute address on the web. Line breaks within it and blanks around it do not count. -/
def parse? (s : String) : Option Url :=
  let cs := s.toList.dropWhile isOuterBlank
  let cs := (cs.reverse.dropWhile isOuterBlank).reverse
  let cs := cs.filter fun c ↦ c ≠ '\t' && c ≠ '\n' && c ≠ '\r'
  let scheme := String.ofList ((cs.takeWhile (· ≠ ':')).map Char.toLower)
  if scheme ≠ "http" && scheme ≠ "https" then none
  else
    match cs.dropWhile (· ≠ ':') with
    | ':' :: '/' :: '/' :: rest =>
      let isHost := fun c ↦ !(['/', '\\', '?', '#'].contains c)
      (authority? (rest.takeWhile isHost)).map fun (host, port) ↦
        ⟨scheme = "https", host, port, String.ofList (targetText (rest.dropWhile isHost))⟩
    | _ => none

end Url

end ParkFusion.Http
