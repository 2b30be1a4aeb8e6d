import PoolPage.Panel.Pool

/-!
The panel of one miner.
-/

namespace PoolPage
namespace MinerPanel

/-! ### Regions -/

def area : String := "minerArea"
def hashRate : String := "hashrate"
def balance : String := "totaldue"
def unconfirmed : String := "unconfirmed"
def paid : String := "paid"
def pendingEstimate : String := "estpending"
def chart : String := "minerChart"
def payouts : String := "payouts"

def regions : List String :=
  [area, hashRate, balance, unconfirmed, paid, pendingEstimate, chart, payouts]

/-! ### Updates -/

def seriesName : String := "Your hashrate"

def seriesColor : String := "#2039c9"

/-- An amount rounded to decimal places, and the ticker. -/
def balanceText (amount : Binary64) (places : Int) (settings : Settings) : String :=
  Figure.plain (Figure.roundTo amount places) ++ " " ++ settings.ticker

/-- The chart of a miner's hash rate over the times of day. -/
def rateChart (points : List RatePoint) : LineChart where
  seriesName := seriesName
  xLabels := points.map fun point => timeOfDayText point.time
  values := points.map RatePoint.rate
  color := seriesColor

def paymentRow (settings : Settings) (payment : MinerPayment) : String :=
  Markup.row
    [Markup.anchor (settings.txLink payment.txid) payment.txid,
     Markup.escape (PoolPanel.amountText payment.amount settings.ticker),
     Markup.escape (dateTimeText payment.time)]

def chartUpdates : Option (List RatePoint) → List Update
  | some points => [.visible chart true, .chart chart (rateChart points)]
  | none => [.visible chart false]

def renderStats (stats : MinerStats) (settings : Settings) : List Update :=
  [.text hashRate (Figure.hashRate stats.hashRate),
   .text balance (balanceText stats.balance 5 settings),
   .text unconfirmed (balanceText stats.pendingBalance 5 settings),
   .text paid (balanceText stats.paid 3 settings)] ++
  PoolPanel.text? pendingEstimate
    (stats.pendingEstimate.map fun amount => balanceText amount 5 settings) ++
  chartUpdates stats.chart ++
  [.html payouts (String.join (stats.payments.map (paymentRow settings))),
   .visible area true]

/-- Shows the answer to a question for a miner.  A failure only raises an alert. -/
def render (lookup : MinerLookup) (settings : Settings) : List Update :=
  match lookup with
  | .failed failure => [.alert ("could not find miner: " ++ failure.message)]
  | .found stats => renderStats stats settings

def hide : List Update := [.visible area false]

end MinerPanel
end PoolPage
