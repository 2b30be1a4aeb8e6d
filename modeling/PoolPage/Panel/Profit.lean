import PoolPage.Metric
import PoolPage.Page.Basic

/-!
The profit calculator: the payout of a day for a hash rate that the visitor types.
-/

namespace PoolPage

/-- The network's figures that profit depends on, zero until they are known. -/
structure NetworkParams where
  blockReward : Binary64
  /-- The network's hash rate in thousands, the unit of the input. -/
  networkRate : Binary64
deriving DecidableEq

namespace NetworkParams

def unknown : NetworkParams := ⟨0, 0⟩

def ofNetwork (reward networkRate : Binary64) : NetworkParams := ⟨reward, networkRate / 1000⟩

end NetworkParams

namespace Profit

def region : String := "estimateProfit"

/-- The hash rate of an input; zero where it starts with no number. -/
def readRate (input : String) : Binary64 := (Figure.read? input).getD 0

/-- The payout of a day.  Without a hash rate it is zero, whatever the network's figures. -/
def daily (rate : Binary64) (params : NetworkParams) (blockTime : Binary64) : Metric :=
  if rate.isZero then .value 0
  else if !params.networkRate.gt 0 then .unavailable
  else Metric.finite (rate / params.networkRate * params.blockReward * (86400 / blockTime))

/-- The text of the payout for an input. -/
def text (input : String) (params : NetworkParams) (blockTime : Binary64) : String :=
  (daily (readRate input) params blockTime).fixed 3

def render (input : String) (params : NetworkParams) (blockTime : Binary64) : List Update :=
  [.text region (text input params blockTime)]

end Profit
end PoolPage
