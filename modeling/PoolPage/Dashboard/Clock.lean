import PoolPage.Dashboard.Session

/-!
How time passes for a dashboard: what is on its agenda happens, one event after the other, up to
a time.
-/

namespace PoolPage
namespace Dashboard

def happen (d : Dashboard) : Event → Dashboard
  | .refreshDue turn => d.refresh (.periodic turn)
  | .poolArrived reply => (d.note reply.records).receivePool reply.answer
  | .minerArrived address reply => (d.note reply.records).receiveMiner address reply.answer
  | .refreshEnded occurrence => d.endRefresh occurrence
  | .blocksDue => d.askBlocks
  | .blocksArrived reply =>
    ((d.note reply.records).receiveBlocks reply.answer).note [Log.timed blocksScope]
  | .paramsDue => d.askParams
  | .paramsArrived reply => (d.note reply.records).receiveParams reply.answer
  | .profitDue turn => d.computeProfit.renewTurn d.settings.calcTick turn .profitDue
  | .fragmentArrived pageLoad hash reply =>
    (d.note reply.records).finishNavigation pageLoad (Navigation.arrive hash reply.answer)
  | .chartSettles => d.update [.resizeChart MinerPanel.chart]
  | .pageExpires => { d with session := { d.session with expired := true } }

/-- Lets the next event happen; none if there is no event up to the given time. -/
def step? (horizon : Nat) (d : Dashboard) : Option Dashboard :=
  match d.agenda with
  | [] => none
  | next :: rest =>
    if next.time ≤ horizon then
      some ({ d with agenda := rest, now := max d.now next.time }.happen next.event)
    else none

/-- Takes steps until there is none left to take, or the given number was taken. -/
def iterate {σ : Type} (step? : σ → Option σ) : Nat → σ → σ
  | 0, s => s
  | steps + 1, s =>
    match step? s with
    | none => s
    | some s => iterate step? steps s

/-- More than the steps that an event leads to up to a time, itself included.  A turn leads to
the turns after it, each of which is due later. -/
def weight (horizon : Nat) : Event → Nat
  | .refreshDue turn => 8 * (horizon + 1 - turn.due)
  | .refreshEnded (.periodic turn) => 8 * (horizon + 1 - turn.due) - 4
  | .profitDue turn => horizon + 1 - turn.due
  | .minerArrived .. | .blocksDue | .paramsDue | .fragmentArrived .. => 2
  | _ => 1

/-- More than the steps that the agenda leads to up to a time. -/
def workload (horizon : Nat) (d : Dashboard) : Nat :=
  d.agenda.foldr (fun a steps => weight horizon a.event + steps) 0

/-- Lets everything happen that is due up to a time. -/
def advanceTo (horizon : Nat) (d : Dashboard) : Dashboard :=
  let d := iterate (step? horizon) (d.workload horizon) d
  { d with now := max d.now horizon }

def advance (ms : Nat) (d : Dashboard) : Dashboard := d.advanceTo (d.now + waitOf ms)

/-- The time when all that the visitor waits for has ended. -/
def awaitedTime (d : Dashboard) : Nat :=
  (d.agenda.filter fun a => a.event.isAwaited).foldl (fun t a => max t a.time) d.now

/-- Waits for all of it. -/
def await (d : Dashboard) : Dashboard := d.advanceTo d.awaitedTime

end Dashboard
end PoolPage
