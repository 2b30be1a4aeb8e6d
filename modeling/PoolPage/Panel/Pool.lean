import PoolPage.Calendar
import PoolPage.Page.Basic
import PoolPage.Pool.Stats
import PoolPage.Settings

/-!
The overview of the pool.
-/

namespace PoolPage
namespace PoolPanel

/-! ### Regions -/

def networkRate : String := "nethr"
def height : String := "height"
def blocksFound : String := "blocksfound"
def effort : String := "effort"
def poolRateText : String := "pool-hr-text"
def poolRateChart : String := "pool-hr-chart"
def workersText : String := "workers-text"
def workersChart : String := "workers-chart"
def addressesText : String := "addresses-text"
def addressesChart : String := "addresses-chart"
def fee : String := "poolfee"
def minimumPayout : String := "minpayout"
def payoutWindow : String := "pplns"
def lastBlock : String := "lastblock"
def payouts : String := "poolPayouts"

def regions : List String :=
  [networkRate, height, blocksFound, effort, poolRateText, poolRateChart, workersText, workersChart,
   addressesText, addressesChart, fee, minimumPayout, payoutWindow, lastBlock, payouts]

/-! ### Updates -/

def viewBox : String := "0 0 200 100"

/-- A text region and the sparkline whose labels it shows. -/
def series (chart text : String) (values : List Binary64) (label : Binary64 → String)
    (current : Binary64) : List Update :=
  let resting := label current
  [.text text resting,
   .sparkline chart (Sparkline.draw values) ⟨text, values.map label, resting⟩]

def series? (chart text : String) (values : Option (List Binary64)) (current : Binary64) :
    List Update :=
  match values with
  | some values => series chart text values Figure.plain current
  | none => []

def text? (id : String) : Option String → List Update
  | some text => [.text id text]
  | none => []

/-- An amount with six significant digits, and the ticker. -/
def amountText (amount : Binary64) (ticker : String) : String :=
  Figure.precision amount 6 ++ " " ++ ticker

def paymentRow (settings : Settings) (payment : PoolPayment) : String :=
  Markup.row
    [Markup.anchor (settings.txLink payment.txid) payment.txid,
     Markup.escape (amountText payment.amount settings.ticker),
     toString payment.destinations,
     Markup.escape (dateTimeText payment.time)]

/-- The number of the newest block; there is none before the first one was found. -/
def lastBlockText? (block : Option LastBlock) : Option String :=
  match block with
  | some block => if 0 < block.height then some (toString block.height) else none
  | none => none

/-- Shows the overall figures.  The drawings get their viewport after the last of them was made. -/
def render (stats : PoolStats) (settings : Settings) : List Update :=
  [.text networkRate (Figure.hashRate stats.networkRate),
   .text height (toString stats.height),
   .text blocksFound (toString stats.blockCount),
   .text effort (Figure.fixed (stats.effort * 100) 1 ++ "%")] ++
  series poolRateChart poolRateText (stats.charts.hashRate.map RatePoint.rate) Figure.hashRate
    stats.poolRate ++
  series? workersChart workersText stats.charts.workers stats.connectedWorkers ++
  series? addressesChart addressesText stats.charts.addresses stats.connectedAddresses ++
  [.normalize viewBox "none"] ++
  text? fee (stats.feePercent.map fun percent => Figure.plain percent ++ "%") ++
  text? minimumPayout
    (stats.paymentThreshold.map fun amount => Figure.plain amount ++ " " ++ settings.ticker) ++
  text? payoutWindow (stats.payoutWindow.map Figure.duration) ++
  text? lastBlock (lastBlockText? stats.lastBlock) ++
  [.html payouts (String.join (stats.payments.map (paymentRow settings)))]

end PoolPanel
end PoolPage
