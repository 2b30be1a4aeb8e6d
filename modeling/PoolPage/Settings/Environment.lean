import PoolPage.Number.Natural
import PoolPage.Number.Word
import PoolPage.Number.Numeral
import PoolPage.Settings

/-!
Settings from environment variables.  A variable that is not set, or whose value is no number
where one is needed, leaves the standard setting.
-/

namespace PoolPage

abbrev Environment := List (String × String)

namespace Environment

def text (env : Environment) (name default : String) : String := (env.lookup name).getD default

def natural (env : Environment) (name : String) (default : Nat) : Nat :=
  match env.lookup name with
  | some value => ((readNatural wordLimit value.toList).toOption).getD default
  | none => default

/-- A whole text as a number: a numeral, or a word for infinity or for no number, in any case of
letters. -/
def readNumber? (value : String) : Option Binary64 :=
  let (negative, unsigned) := scanSign value.toList
  let word := String.ofList (unsigned.map Char.toLower)
  if word = "inf" ∨ word = "infinity" then some (.infinite negative)
  else if word = "nan" then some .nan
  else
    match Numeral.scan? unsigned with
    | some (numeral, []) => some (numeral.toBinary64 negative)
    | _ => none

def number (env : Environment) (name : String) (default : Binary64) : Binary64 :=
  ((env.lookup name).bind readNumber?).getD default

end Environment

def Settings.variables : List String :=
  ["POOL_API_URL", "EXPLORER_TX_URL", "EXPLORER_BLOCK_URL", "TICKER", "SHORT_TERM",
   "BLOCK_TIME_SECS", "STATS_REFRESH_SECS", "RELOAD_SECS", "CALC_TICK_MS", "CHART_SETTLE_MS",
   "HTTP_TIMEOUT_SECS", "STATE_DB", "STATIC_ROOT", "FRAGMENT_BASE_URL", "SNAPSHOT_PATH",
   "START_ROUTE"]

/-- The settings of an environment.  An empty base for fragments is none. -/
def Settings.ofEnvironment (env : Environment) : Settings where
  apiUrl := env.text "POOL_API_URL" standard.apiUrl
  explorerTxUrl := env.text "EXPLORER_TX_URL" standard.explorerTxUrl
  explorerBlockUrl := env.text "EXPLORER_BLOCK_URL" standard.explorerBlockUrl
  ticker := env.text "TICKER" standard.ticker
  shortTerm := env.natural "SHORT_TERM" standard.shortTerm
  blockTime := env.number "BLOCK_TIME_SECS" standard.blockTime
  statsRefreshSeconds := env.natural "STATS_REFRESH_SECS" standard.statsRefreshSeconds
  reloadSeconds := env.natural "RELOAD_SECS" standard.reloadSeconds
  calcTickMillis := env.natural "CALC_TICK_MS" standard.calcTickMillis
  chartSettleMillis := env.natural "CHART_SETTLE_MS" standard.chartSettleMillis
  httpTimeoutSeconds := env.natural "HTTP_TIMEOUT_SECS" standard.httpTimeoutSeconds
  stateDb := env.text "STATE_DB" standard.stateDb
  staticRoot := env.text "STATIC_ROOT" standard.staticRoot
  fragmentBaseUrl := (env.lookup "FRAGMENT_BASE_URL").filter fun value => !value.isEmpty
  snapshotPath := env.text "SNAPSHOT_PATH" standard.snapshotPath
  startRoute := env.text "START_ROUTE" standard.startRoute

end PoolPage
