import PoolPage.Metric
import PoolPage.Panel.Pool

/-!
Recently found blocks and how lucky the pool was with them.

The luck of a block is its effort relative to the mean effort of the whole window.  The
long-term figure compares that mean with itself, and is a hundred percent wherever it is
available.
-/

namespace PoolPage

structure BlockRow where
  hash : String
  luck : Metric
  time : Int
deriving DecidableEq

/-- The figures of a window of blocks. -/
structure BlockLuck where
  rows : List BlockRow
  longTermEffort : Metric
  longTermPercent : Metric
  shortTermPercent : Metric
  /-- The part of the network's blocks that the pool seems to find. -/
  chunk : Metric
  /-- The network's hash rate according to that part. -/
  impliedRate : Metric
deriving DecidableEq

namespace BlockLuck

/-- The part of the blocks since the oldest of the window that are in it.  It takes a positive time
since then. -/
def chunkOf (blocks : List FoundBlock) (now blockTime : Binary64) : Metric :=
  match blocks.getLast? with
  | some oldest =>
    let elapsed := now - Binary64.ofInt oldest.time
    if elapsed.gt 0 then Metric.finite (Binary64.ofNat blocks.length / elapsed * blockTime)
    else .unavailable
  | none => .unavailable

/-- The figures of a window, newest block first, at a time in seconds.  The short-term figure
divides by its length even when there are fewer blocks. -/
def ofBlocks (blocks : List FoundBlock) (poolRate now : Binary64) (shortTerm : Nat)
    (blockTime : Binary64) : BlockLuck :=
  let efforts := blocks.map FoundBlock.effort
  let mean := Metric.mean efforts
  let percentOfMean (m : Metric) : Metric := (m.map (· * 100)).per mean
  let chunk := chunkOf blocks now blockTime
  { rows := blocks.map fun block =>
      { hash := block.hash
        luck := (Metric.finite (block.effort * 100)).per mean
        time := block.time }
    longTermEffort := mean
    longTermPercent :=
      percentOfMean (Metric.ratio (Binary64.sum efforts) (Binary64.ofNat efforts.length))
    shortTermPercent :=
      percentOfMean
        (Metric.ratio (Binary64.sum (efforts.take shortTerm)) (Binary64.ofNat shortTerm))
    chunk
    impliedRate := (Metric.finite poolRate).per chunk }

end BlockLuck

namespace BlocksPanel

/-! ### Regions -/

def table : String := "blocksFound"
def longTerm : String := "effortL"
def shortTerm : String := "effortS"
def chunk : String := "estChunk"
def impliedRate : String := "estActual"

def regions : List String := [table, longTerm, shortTerm, chunk, impliedRate]

/-! ### Updates -/

def percentText (m : Metric) : String := m.render fun x => Figure.fixed x 1 ++ "%"

def row (settings : Settings) (block : BlockRow) : String :=
  Markup.row
    [Markup.anchor (settings.blockLink block.hash) block.hash,
     Markup.escape (percentText block.luck),
     Markup.escape (dateTimeText block.time)]

def render (luck : BlockLuck) (settings : Settings) : List Update :=
  [.html table (String.join (luck.rows.map (row settings))),
   .text longTerm (percentText luck.longTermPercent),
   .text shortTerm (percentText luck.shortTermPercent),
   .text chunk (luck.chunk.render fun x => Figure.fixed (x * 100) 2 ++ " %"),
   .text impliedRate (luck.impliedRate.render Figure.hashRate)]

end BlocksPanel
end PoolPage
