import PoolPage.Number.Arithmetic

/-!
The settings of a dashboard.
-/

namespace PoolPage

structure Settings where
  apiUrl : String
  explorerTxUrl : String
  explorerBlockUrl : String
  ticker : String
  /-- How many of the newest blocks count for the short-term luck. -/
  shortTerm : Nat
  /-- Seconds between two blocks of the network. -/
  blockTime : Binary64
  statsRefreshSeconds : Nat
  reloadSeconds : Nat
  calcTickMillis : Nat
  chartSettleMillis : Nat
  httpTimeoutSeconds : Nat
  stateDb : String
  staticRoot : String
  fragmentBaseUrl : Option String
  snapshotPath : String
  startRoute : String
deriving DecidableEq

namespace Settings

def standard : Settings where
  apiUrl := "https://api.xelpool.com"
  explorerTxUrl := "https://explorer.xelis.io/txs/"
  explorerBlockUrl := "https://explorer.xelis.io/blocks/"
  ticker := "XEL"
  shortTerm := 10
  blockTime := 15
  statsRefreshSeconds := 120
  reloadSeconds := 3600
  calcTickMillis := 100
  chartSettleMillis := 1
  httpTimeoutSeconds := 10
  stateDb := "./pooldash.sqlite"
  staticRoot := "./webui"
  fragmentBaseUrl := none
  snapshotPath := "./dashboard.html"
  startRoute := ""

def txLink (s : Settings) (txid : String) : String := s.explorerTxUrl ++ txid

def blockLink (s : Settings) (hash : String) : String := s.explorerBlockUrl ++ hash

/-! ### Durations in milliseconds -/

def statsRefresh (s : Settings) : Nat := s.statsRefreshSeconds * 1000

def reload (s : Settings) : Nat := s.reloadSeconds * 1000

def calcTick (s : Settings) : Nat := s.calcTickMillis

def chartSettle (s : Settings) : Nat := s.chartSettleMillis

def httpTimeout (s : Settings) : Nat := s.httpTimeoutSeconds * 1000

end Settings
end PoolPage
