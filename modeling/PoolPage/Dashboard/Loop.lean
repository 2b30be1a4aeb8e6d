import PoolPage.Dashboard.Clock

/-!
The loop of a dashboard that runs on its own.

Commands wait in an inbox until what the visitor waits for has ended, and are then handled one
after the other.  The page is loaded anew on a command and when its time to live is over, on the
hash that was visited last.  The loop ends on a command, or when nobody can send commands any
more and the inbox is empty.
-/

namespace PoolPage

structure Loop where
  dashboard : Dashboard
  inbox : List Command
  /-- Whether commands may still be sent. -/
  isOpen : Bool
  /-- Whether the loop has ended. -/
  isOver : Bool

namespace Loop

def renew (d : Dashboard) : Dashboard :=
  let d := d.shutdown
  let d := d.note
    [Log.record .info .schedule "reload" [("route", .string d.session.route)]]
  d.start d.session.route

/-- Loads the page anew if its time to live is over and nothing is under way. -/
def renewExpired (d : Dashboard) : Dashboard :=
  if d.session.expired && !d.isBusy then renew d else d

def leave (d : Dashboard) : Dashboard :=
  d.shutdown.note [Log.record .info .system "shutdown" []]

/-- Handles commands of the inbox until the visitor has to wait. -/
def attend (isOpen : Bool) : List Command → Dashboard → Loop
  | [], d =>
    let d := renewExpired d
    if d.isBusy || isOpen then ⟨d, [], isOpen, false⟩ else ⟨leave d, [], isOpen, true⟩
  | command :: rest, d =>
    let d := renewExpired d
    if d.isBusy then ⟨d, command :: rest, isOpen, false⟩
    else
      match command with
      | .quit => ⟨leave d, [], isOpen, true⟩
      | .reload => attend isOpen rest (renew d)
      | command => attend isOpen rest (d.handle command)

/-- Goes on with the inbox unless the loop has ended. -/
def goOn (loop : Loop) : Loop :=
  if loop.isOver then loop else attend loop.isOpen loop.inbox loop.dashboard

/-- Starts the loop on the route of the settings. -/
def start (d : Dashboard) : Loop := attend true [] (d.start d.settings.startRoute)

/-- Sends a command.  None arrives after the end of the loop. -/
def send (loop : Loop) (command : Command) : Loop :=
  if loop.isOver then loop else { loop with inbox := loop.inbox ++ [command] }.goOn

/-- Says that no more commands will be sent. -/
def close (loop : Loop) : Loop := { loop with isOpen := false }.goOn

/-- Lets the next event happen; none if there is no event up to the given time. -/
def step? (horizon : Nat) (loop : Loop) : Option Loop :=
  (loop.dashboard.step? horizon).map fun dashboard => { loop with dashboard }.goOn

/-- More than the steps that a page load and a command lead to up to a time. -/
def freshWorkload (horizon : Nat) : Nat := 9 * (horizon + 1) + 16

/-- More than the steps that are taken up to a time: at most one page load expires in a millisecond,
and each command in the inbox is handled or loads the page anew. -/
def workload (horizon : Nat) (loop : Loop) : Nat :=
  loop.dashboard.workload horizon +
    (horizon + 2 + loop.inbox.length) * freshWorkload horizon

/-- Lets everything happen that is due up to a time. -/
def advanceTo (horizon : Nat) (loop : Loop) : Loop :=
  let loop := Dashboard.iterate (step? horizon) (loop.workload horizon) loop
  { loop with dashboard := { loop.dashboard with now := max loop.dashboard.now horizon } }

def advance (ms : Nat) (loop : Loop) : Loop := loop.advanceTo (loop.dashboard.now + waitOf ms)

end Loop
end PoolPage
