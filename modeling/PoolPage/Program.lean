import PoolPage.Calendar
import PoolPage.Dashboard.Loop
import PoolPage.Json.Read
import PoolPage.Pool.Client
import PoolPage.Route.Source
import PoolPage.Settings.Environment
import PoolPage.Settings.Validation

/-!
The program around a dashboard: it is set up from environment variables, and takes commands as
lines of text.
-/

namespace PoolPage
namespace Program

/-! ### Setting up -/

/-- Why the program does not start. -/
inductive Error where
  | settings (error : Settings.Error)
  | base (error : Endpoint.BaseError)
deriving DecidableEq, Repr

def Error.causes : Error → List String
  | settings error => error.causes
  | base error => error.causes

/-- The lines that tell of an error, with what lies behind it below. -/
def reportLines : List String → List String
  | [] => []
  | [message] => ["Error: " ++ message]
  | message :: causes =>
    ["Error: " ++ message, "", "Caused by:"] ++ causes.map fun cause => "    " ++ cause

/-- Settings, where the pool is, and where fragments are served if not in a directory. -/
structure Setup where
  settings : Settings
  pool : Url
  server : Option Url

/-- The URL of a setting that may be missing. -/
def parseBase? : Option String → Except Error (Option Url)
  | some text => do return some (← (Endpoint.parseBase text).mapError Error.base)
  | none => .ok none

def setUp (environment : Environment) : Except Error Setup := do
  let settings := Settings.ofEnvironment environment
  settings.validate.mapError Error.settings
  let pool ← (Endpoint.parseBase settings.apiUrl).mapError Error.base
  return ⟨settings, pool, ← parseBase? settings.fragmentBaseUrl⟩

/-! ### The outside -/

/-- What the program can reach: servers, and the content of files or why they cannot be read. -/
structure Outside where
  transport : Http.Transport
  contentOf : String → Except String ByteArray

def Outside.none (reason : String) : Outside := ⟨Http.unreachable reason, fun _ => .error reason⟩

/-- A fragment from the server if there is one, and from the directory otherwise. -/
def fragment (setup : Setup) (outside : Outside) (path : String) : Except (List String) String :=
  match setup.server with
  | some base => (FragmentSource.fromServer base outside.transport path).2
  | none => FragmentSource.fromDirectory setup.settings.staticRoot outside.contentOf path

def backend (setup : Setup) (outside : Outside) : Backend :=
  let client : PoolClient := ⟨setup.pool, outside.transport⟩
  { stats := fun _ => client.stats.toReply
    miner := fun address _ => (client.miner address).toReply
    fragment := fun path _ => .now ((fragment setup outside path).mapError causeChain) }

/-- What has to be reached to answer a question. -/
inductive Resource where
  | url (url : Url)
  | file (path : String)

def resource? (setup : Setup) : Question → Option Resource
  | .stats => ((Endpoint.resolve setup.pool Endpoint.stats).toOption).map .url
  | .miner address => ((Endpoint.resolve setup.pool (Endpoint.miner address)).toOption).map .url
  | .fragment path =>
    match setup.server with
    | some base => ((base.join (Endpoint.relativePath path)).toOption).map .url
    | none => some (.file (FragmentSource.filePath setup.settings.staticRoot path))

/-! ### Running -/

def startupRecord (settings : Settings) : Log.Record :=
  Log.record .info .system "startup"
    [("api_url", .string settings.apiUrl), ("snapshot", .string settings.snapshotPath),
     ("stats_refresh_secs", .number (Binary64.ofNat settings.statsRefreshSeconds)),
     ("reload_secs", .number (Binary64.ofNat settings.reloadSeconds))]

/-- The dashboard before its first page load.  The page cannot be written to its file if there is a
reason. -/
def dashboard (setup : Setup) (outside : Outside) (snapshotFailure : Option String) (store : Store)
    (epoch : Nat) : Dashboard :=
  let screen := Screen.onFile ⟨setup.settings.snapshotPath, snapshotFailure⟩
  (Dashboard.new setup.settings .unattended (backend setup outside) screen store.makeTable
    epoch).note [startupRecord setup.settings]

/-- Takes a line of text.  Blank lines are passed over, and what is no command is answered with a
message. -/
def takeLine (loop : Loop) (line : String) : Loop × Option String :=
  if (trimBlanks line.toList).isEmpty then (loop, none)
  else
    match Command.parse line with
    | .ok command => (loop.send command, none)
    | .error e => (loop, some e.message)

def takeLines (loop : Loop) : List String → Loop × List String
  | [] => (loop, [])
  | line :: rest =>
    if loop.isOver then (loop, [])
    else
      let (loop, message) := takeLine loop line
      let (loop, messages) := takeLines (loop.advance 0) rest
      (loop, message.toList ++ messages)

/-! ### The log -/

def logFilter (environment : Environment) : Log.Filter :=
  .ofSettings (environment.lookup "LOG_LEVEL") (environment.lookup "LOG_DOMAINS")

def logDirectory (base run : String) : String :=
  if base.isEmpty || run.toList.head? = some '/' then run
  else if base.toList.getLast? = some '/' then base ++ run
  else base ++ "/" ++ run

/-- What is said when there can be no directory for the log. -/
def noLogDirectory (reason : String) : String := "[log] failed to create run dir: " ++ reason

/-- A time in milliseconds since the start of 1970. -/
def timestamp (millis : Nat) : String :=
  let m := Moment.ofEpochSecond (millis / 1000 : Nat)
  m.dateText ++ "T" ++ m.timeText ++ "." ++ Moment.padded 3 (millis % 1000) ++ "Z"

/-- A record as it is written: with its time, the name of the run and its place in the run. -/
def recordJson (millis : Nat) (run : String) (place : Nat) (r : Log.Record) : Json :=
  .record
    [("ts", .string (timestamp millis)), ("run_id", .string run), ("seq", .int place),
     ("lvl", .string r.level.label), ("component", .string r.component.name),
     ("event", .string r.event), ("msg", r.message), ("data", .object r.data.entries)]

/-! ### The store -/

/-- The text in which a store is kept. -/
def storeText (store : Store) : String :=
  match store.values with
  | some values => (Json.object (values.map Json.string).entries).render
  | none => ""

/-- The store that was kept in a text. -/
def storeOfText (text : String) : Store :=
  match Json.parse? text with
  | some (.object members) =>
    ⟨true, some (.ofList (members.filterMap fun (key, value) => value.string?.map (key, ·)))⟩
  | _ => .new true

end Program
end PoolPage
