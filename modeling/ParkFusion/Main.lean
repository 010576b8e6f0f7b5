import ParkFusion.CommandLine.Report
import ParkFusion.Http.Wire
import Std.Async.DNS
import Std.Async.TCP
import Std.Time

namespace ParkFusion

open Std.Async Std.Net

/-- All bytes up to the end of a connection. -/
partial def receiveAll (client : TCP.Socket.Client) (received : ByteArray) : Async ByteArray := do
  match ← client.recv? 65536 with
  | some bytes => receiveAll client (received ++ bytes)
  | none => return received

/-- Sends a request over a connection of its own. Secure connections are not spoken. -/
def exchange (request : Http.Request) : Async (Option Http.Reply) := do
  if request.url.secure then return none
  let port := (request.url.port.getD 80).toUInt16
  let hosts ← DNS.getAddrInfo request.url.host ""
  match hosts[0]? with
  | none => return none
  | some host =>
    let client ← TCP.Socket.Client.mk
    client.connect <| match host with
      | .v4 addr => .v4 ⟨addr, port⟩
      | .v6 addr => .v6 ⟨addr, port⟩
    client.send request.toText.toUTF8
    let received ← receiveAll client .empty
    return Http.Reply.ofBytes? received.toList

instance : Clock IO where
  now := IO.monoMsNow
  pause duration := IO.sleep duration.toUInt32

instance : Network IO where
  send request := do
    try (exchange request).block
    catch _ => return none
  today := do
    let nanos := (← Std.Time.Timestamp.now).toNanosecondsSinceUnixEpoch.val
    let instant : Instant := {
      day := nanos / 86400000000000
      second := (nanos / 1000000000 % 86400).toNat
      nano := (nanos % 1000000000).toNat
      second_lt := by omega
      nano_lt := by omega }
    return instant

def readFile (path : String) : IO FileContent := do
  try return .text (← IO.FS.readFile path)
  catch
    | .noFileOrDirectory .. => return .missing
    | _ => return .unreadable

/-- The place of a user's own settings. -/
def ownPath : IO (Option String) := do
  match ← IO.getEnv "XDG_CONFIG_HOME", ← IO.getEnv "HOME" with
  | some folder, _ => return some (folder ++ "/parkfan/parkfan.toml")
  | none, some home => return some (home ++ "/.config/parkfan/parkfan.toml")
  | none, none => return none

def loadSettings (argument : Option String) : IO (Except LoadFault Settings) := do
  let names := Settings.fileVariable :: Provider.all.map Provider.urlVariable
  let values ← names.mapM fun name ↦ return (name, ← IO.getEnv name)
  let environment := fun name ↦ (values.lookup name).join
  let content ← match Settings.chooseFile argument environment (← ownPath) with
    | some path => readFile path
    | none => pure .missing
  return Settings.complete environment content

end ParkFusion

open ParkFusion in
def main (words : List String) : IO UInt32 := do
  let start ← IO.rand 0 UInt64.size
  let supply : IdSupply := { id := fun n ↦ ⟨BitVec.ofNat 128 (start * UInt64.size + n)⟩ }
  let run : StateT Quota.Memory IO CommandLine.Report :=
    (CommandLine.parse words).answer (fun argument ↦ loadSettings argument) supply
  let (report, _) ← run.run {}
  (← IO.getStdout).putStr report.output
  (← IO.getStderr).putStr report.errors
  return report.exit.toUInt32
