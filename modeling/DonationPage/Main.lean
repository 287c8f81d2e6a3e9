import DonationPage.Origin.Wire
import DonationPage.Probe
import Std.Async.DNS
import Std.Async.TCP
/-! The command line of the probe: variables and files as the system gives them, and the one request
over a plain connection. -/
namespace DonationPage.Probe

open Std.Async

/-- Why the system does not read a file; it tells a directory by its own number. -/
private def fileFault : IO.Error → FileFault
  | .noFileOrDirectory .. => .missing
  | .permissionDenied .. => .denied
  | .inappropriateType _ code _ => if code = 21 then .directory else .belowFile
  | e@(.invalidArgument _ code _) => if code = 36 then .tooLong else .told (toString e)
  | .userError _ => .notText
  | e => .told (toString e)

/-- A file's text as far as a probe needs it: of the few files that it may ask for. -/
private def readTexts (paths : List String) : IO (List (String × Except FileFault String)) :=
  paths.mapM fun (path : String) => do
    try return (path, .ok (← IO.FS.readFile path))
    catch e => return (path, .error (fileFault e))

private def variableNames : List String :=
  ["DONATION_ORIGIN_URL", "DONATION_SUCCESS_PATH", "DONATION_PLAN_COMPLETE_PATH",
    "DONATION_ERROR_TARGET", "DONATION_POPUP_POLL_MS", "DONATION_PAGE_CONFIG", "DONATION_KIND",
    "RUST_LOG"]

private def readVariables : IO Lookup := do
  let values ← variableNames.mapM fun name => return (name, ← IO.getEnv name)
  return fun name => (values.find? fun v => v.1 = name).bind (·.2)

private def worldOf (lookup : Lookup) (texts : List (String × Except FileFault String)) : World where
  lookup := lookup
  fileText path := ((texts.find? fun t => t.1 = path).map (·.2)).getD (.error .missing)

private partial def receiveAll (socket : TCP.Socket.Client) (before : ByteArray) :
    Async ByteArray := do
  match ← socket.recv? 65536 with
  | none => return before
  | some bytes => receiveAll socket (before ++ bytes)

private def exchange (message : Message) : Async (Except TransportFault RawReply) := do
  let url := message.url
  let addresses ← DNS.getAddrInfo url.host.address (toString url.service)
  let some address := addresses[0]? | return .error (.told "no address")
  let service := UInt16.ofNat url.service
  let socket ← TCP.Socket.Client.mk
  socket.connect <|
    match address with
    | .v4 address => .v4 ⟨address, service⟩
    | .v6 address => .v6 ⟨address, service⟩
  socket.sendAll #[⟨message.toBytes.toArray⟩]
  let bytes ← receiveAll socket .empty
  return match RawReply.ofBytes? bytes.toList with
    | some reply => .ok reply
    | none => .error (.cutShort url.text)

private def send (post : FormPost) : IO (Except TransportFault RawReply) := do
  match post.message with
  | .error fault => return .error fault
  | .ok message =>
    if message.url.secure then return .error (.told "no secure connections")
    else
      try (exchange message).block
      catch e => return .error (.told (toString e))

private def display (filter : LogFilter) (run : Run) : IO UInt32 := do
  for line in shownLines filter run.log do IO.println line
  IO.eprint run.stderr
  return UInt32.ofNat run.exitCode

def probe : IO UInt32 := do
  let outside := worldOf (← readVariables) (← readTexts [".env"])
  match outside.withEnvFile ".env" with
  | .error fault =>
    IO.eprintln fault.message
    return 101
  | .ok world =>
    let texts ← readTexts (world.lookup "DONATION_PAGE_CONFIG").toList
    match plan (worldOf world.lookup texts) with
    | .ended log result => display (logFilter world.lookup) ⟨log, [], result⟩
    | .ask log call => display (logFilter world.lookup) (conclude log call (← send call.post))

end DonationPage.Probe

def main : IO UInt32 := DonationPage.Probe.probe
