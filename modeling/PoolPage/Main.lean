import PoolPage.Files
import PoolPage.Http.Message
import PoolPage.Program
import Std.Async.DNS
import Std.Async.TCP
import Std.Async.Timer
import Std.Time.DateTime.Timestamp

/-!
The command line: a dashboard that is shown in a file and takes commands from standard input.

This layer only moves bytes and waits.  Each round takes the lines that were typed, finds out
what the dashboard would ask, fetches that, and lets the dashboard go on.
-/

open PoolPage

namespace CommandLine

/-! ### The outside -/

def reason : IO.Error → String
  | .noFileOrDirectory .. => FileFault.missing.message
  | .alreadyExists .. => FileFault.occupied.message
  | .inappropriateType _ 21 _ => FileFault.isDirectory.message
  | .inappropriateType .. => FileFault.notDirectory.message
  | .invalidArgument _ 36 _ => FileFault.nameTooLong.message
  | .permissionDenied .. => "Permission denied (os error 13)"
  | e => e.toString

/-- All bytes until the other side closes the connection. -/
partial def receive (socket : Std.Async.TCP.Socket.Client) (bytes : ByteArray) :
    Std.Async.Async ByteArray := do
  match ← socket.recv? 65536 with
  | some more => receive socket (bytes ++ more)
  | none => return bytes

def resolveHost (host : Url.Host) : Std.Async.Async Std.Net.IPAddr := do
  let addresses ← Std.Async.DNS.getAddrInfo host.text ""
  match addresses[0]? with
  | some address => return address
  | none => throw (IO.userError "no address")

def socketAddress (address : Std.Net.IPAddr) (port : UInt16) : Std.Net.SocketAddress :=
  match address with
  | .v4 address => .v4 ⟨address, port⟩
  | .v6 address => .v6 ⟨address, port⟩

/-- The bytes that a server sends for a URL. -/
def exchange (host : Url.Host) (url : Url) : Std.Async.Async ByteArray := do
  let address ← resolveHost host
  let socket ← Std.Async.TCP.Socket.Client.mk
  socket.connect (socketAddress address (url.port.getD 80).toUInt16)
  socket.send (Http.requestText url).toUTF8
  receive socket .empty

/-- The response of a server.  Only plain connections are made. -/
def request (timeout : Nat) (url : Url) : IO (Except String Http.Response) := do
  let failed : Except String Http.Response :=
    .error ("error sending request for url (" ++ url.render ++ ")")
  if url.scheme ≠ "http" then return failed
  let some host := url.host | return failed
  let late : Std.Async.Async ByteArray := do
    Std.Async.sleep (.ofInt timeout)
    throw (IO.userError "timeout")
  try
    let bytes ← (Std.Async.Async.race (exchange host url) late).block
    match Http.Response.ofBytes? bytes with
    | some response => return .ok response
    | none => return failed
  catch _ => return failed

/-- The responses for a URL and those it sends to. -/
def requestAll (timeout : Nat) : Nat → Url → IO (List (Url × Except String Http.Response))
  | 0, _ => return []
  | limit + 1, url => do
    let response ← request timeout url
    let next? := match response with
      | .ok response => Http.redirection? url response
      | .error _ => none
    let later ← match next? with
      | some next => requestAll timeout limit next
      | none => pure []
    return (url, response) :: later

def content (path : String) : IO (Except String ByteArray) := do
  try return .ok (← IO.FS.readBinFile path)
  catch e => return .error (reason e)

/-- The outside as far as it matters for some questions. -/
def outside (setup : Program.Setup) (questions : List Question) : IO Program.Outside := do
  let timeout := setup.settings.httpTimeout
  let mut responses : List (Url × Except String Http.Response) := []
  let mut contents : List (String × Except String ByteArray) := []
  for resource in questions.filterMap (Program.resource? setup) do
    match resource with
    | .url url => responses := (← requestAll timeout (Http.redirectionLimit + 1) url) ++ responses
    | .file path => contents := (path, ← content path) :: contents
  let found := responses
  let read := contents
  return {
    transport := fun url => (found.lookup url).getD (.error "error sending request")
    contentOf := fun path => (read.lookup path).getD (.error "not read") }

/-! ### Output -/

/-- Where records go. -/
structure Books where
  filter : Log.Filter
  run : String
  /-- The directory of the run's log, if there is one. -/
  directory : Option String

def append (path line : String) : IO Unit := do
  let handle ← IO.FS.Handle.mk path .append
  handle.putStrLn line

def openBooks (environment : Environment) (epoch : Nat) : IO Books := do
  let run := (environment.lookup "RUN_ID").getD ("r-" ++ toString epoch)
  let filter := Program.logFilter environment
  match environment.lookup "LOG_DIR" with
  | none => return ⟨filter, run, none⟩
  | some base =>
    let directory := Program.logDirectory base run
    try
      IO.FS.createDirAll directory
      return ⟨filter, run, some directory⟩
    catch e =>
      IO.eprintln (Program.noLogDirectory (reason e))
      return ⟨filter, run, none⟩

/-- Writes records, and alerts to standard error; gives the number of records written so far. -/
def publish (books : Books) (millis written : Nat) (records : List Log.Record) : IO Nat := do
  let mut place := written
  for r in records do
    if books.filter.accepts r then
      let line := (Program.recordJson millis books.run place r).render
      if let some directory := books.directory then
        let file := match r.sink with
          | .events => "/events.jsonl"
          | .trace => "/trace.jsonl"
        append (directory ++ file) line
      IO.println line
      place := place + 1
    if r.component = .render ∧ r.event = "alert" then
      IO.eprintln ("ALERT: " ++ (r.message.string?.getD ""))
  return place

/-! ### Rounds -/

/-- What was written before a round. -/
structure Written where
  records : Nat
  document : Option String
  store : String

partial def collect (input : IO.FS.Stream) (lines : IO.Ref (List String)) : IO Unit := do
  let line ← input.getLine
  if line.isEmpty then return
  lines.modify (· ++ [line])
  collect input lines

def save (setup : Program.Setup) (books : Books) (millis : Nat) (written : Written)
    (d : Dashboard) : IO Written := do
  let records ← publish books millis written.records d.log
  if d.screen.document ≠ written.document then
    if let some document := d.screen.document then
      IO.FS.writeFile setup.settings.snapshotPath document
  let store := Program.storeText d.store
  if store ≠ written.store then IO.FS.writeFile setup.settings.stateDb store
  return ⟨records, d.screen.document, store⟩

partial def rounds (setup : Program.Setup) (books : Books) (epoch started : Nat)
    (lines : IO.Ref (List String)) (written : Written) (loop : Loop) : IO Unit := do
  let now := (← IO.monoMsNow) - started
  let typed ← lines.modifyGet fun typed => (typed, [])
  let fresh := { loop with dashboard := { loop.dashboard with asked := [], log := [] } }
  let round (outside : Program.Outside) : Loop × List String :=
    let backend := Program.backend setup outside
    let loop := { fresh with dashboard := { fresh.dashboard with backend } }
    Program.takeLines (loop.advanceTo now) typed
  let (trial, _) := round (.none "")
  let (loop, messages) := round (← outside setup trial.dashboard.asked)
  for message in messages do IO.eprintln message
  let written ← save setup books (epoch + now) written loop.dashboard
  if loop.isOver then return
  IO.sleep 10
  rounds setup books epoch started lines written loop

/-- Why the page cannot be written to its file, if it cannot. -/
def snapshotFailure (setup : Program.Setup) : IO (Option String) := do
  try
    IO.FS.writeFile setup.settings.snapshotPath ""
    return none
  catch e => return some (reason e)

def run (environment : Environment) (setup : Program.Setup) : IO Unit := do
  let epoch := (← Std.Time.Timestamp.now).toMillisecondsSinceUnixEpoch.toInt.toNat
  let started ← IO.monoMsNow
  let books ← openBooks environment epoch
  let text ← try IO.FS.readFile setup.settings.stateDb catch _ => pure ""
  let failure ← snapshotFailure setup
  let start (outside : Program.Outside) : Loop :=
    Loop.start (Program.dashboard setup outside failure (Program.storeOfText text) epoch)
  let trial := start (.none "")
  let loop := start (← outside setup trial.dashboard.asked)
  let written ← save setup books epoch ⟨0, none, text⟩ loop.dashboard
  let lines ← IO.mkRef []
  let _ ← IO.asTask (collect (← IO.getStdin) lines) Task.Priority.dedicated
  rounds setup books epoch started lines written loop

def readEnvironment : IO Environment := do
  let names := Settings.variables ++ ["LOG_LEVEL", "LOG_DOMAINS", "LOG_DIR", "RUN_ID"]
  names.filterMapM fun name => do return (← IO.getEnv name).map (name, ·)

end CommandLine

def main : IO UInt32 := do
  let environment ← CommandLine.readEnvironment
  match Program.setUp environment with
  | .error e =>
    for line in Program.reportLines e.causes do IO.eprintln line
    return 1
  | .ok setup =>
    CommandLine.run environment setup
    return 0
