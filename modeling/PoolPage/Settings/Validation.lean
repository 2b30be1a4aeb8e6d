import PoolPage.Settings
import PoolPage.Text.Quoted
import PoolPage.Url.Parse

/-!
Which settings a dashboard can run with.  The first fault decides.
-/

namespace PoolPage
namespace Settings

/-- Why a dashboard cannot run with its settings. -/
inductive Error where
  | apiUrl (text : String) (cause : Url.Error)
  | explorerTxUrl (cause : Url.Error)
  | explorerBlockUrl (cause : Url.Error)
  | fragmentBaseUrl (cause : Url.Error)
  | shortTerm
  | blockTime
  | intervals
deriving DecidableEq, Repr

namespace Error

def message : Error → String
  | apiUrl text _ => "POOL_API_URL " ++ quoted text
  | explorerTxUrl _ => "EXPLORER_TX_URL"
  | explorerBlockUrl _ => "EXPLORER_BLOCK_URL"
  | fragmentBaseUrl _ => "FRAGMENT_BASE_URL"
  | shortTerm => "SHORT_TERM must be positive"
  | blockTime => "BLOCK_TIME_SECS must be positive"
  | intervals => "refresh, reload and calculator intervals must be positive"

/-- What lies behind it. -/
def cause? : Error → Option Url.Error
  | apiUrl _ cause | explorerTxUrl cause | explorerBlockUrl cause | fragmentBaseUrl cause =>
    some cause
  | _ => none

/-- The messages from the error to its cause. -/
def causes (e : Error) : List String := e.message :: (e.cause?.map Url.Error.message).toList

end Error

/-- A setting that has to be an absolute URL. -/
def checkUrl (text : String) (error : Url.Error → Error) : Except Error Unit :=
  match Url.parse text with
  | .ok _ => .ok ()
  | .error cause => .error (error cause)

def validate (s : Settings) : Except Error Unit := do
  checkUrl s.apiUrl (.apiUrl s.apiUrl)
  checkUrl s.explorerTxUrl .explorerTxUrl
  checkUrl s.explorerBlockUrl .explorerBlockUrl
  match s.fragmentBaseUrl with
  | some base => checkUrl base .fragmentBaseUrl
  | none => pure ()
  if s.shortTerm = 0 then throw .shortTerm
  if !s.blockTime.gt 0 then throw .blockTime
  if s.statsRefreshSeconds = 0 ∨ s.reloadSeconds = 0 ∨ s.calcTickMillis = 0 then throw .intervals

end Settings
end PoolPage
