import PoolPage.Dashboard.Loop
import PoolPage.Proofs.Dashboard.Ledger

/-!
# The course of a loop

A loop waits for two things at a time, the next command and the end of the page's time to
live.  When both have come it may go on with either, so its courses branch: `Loop.Goes`
lists all moves, and `Loop.Course` leads from one loop to another along them, the newest
first.

A loop that is run (`Loop.attend`) always prefers the end of the page.  What it does is
one of the courses (`exists_course_attend`, `exists_course_goOn`).
-/

namespace PoolPage

/-- What a loop does with its dashboard. -/
inductive Deed where
  | handle (command : Command)
  /-- The page is left and loaded anew. -/
  | load
deriving DecidableEq

namespace Happening

def deed? : Happening → Option Deed
  | command given => some (.handle given)
  | restart _ => some .load
  | _ => none

/-- The hash that the visitor goes to. -/
def hash? : Happening → Option String
  | command (.navigate hash) => some hash
  | _ => none

theorem deed?_of_isOwn {happening : Happening} (h : happening.isOwn = true) :
    happening.deed? = none := by
  cases happening <;> first | rfl | cases h

end Happening

namespace Loop

/-- What comes about for a loop. -/
inductive Move where
  /-- Something happens to the dashboard, and the loop has no part in it. -/
  | aside (happening : Happening)
  | sent (command : Command)
  /-- Nobody will send commands any more. -/
  | closed
  | received (command : Command)
  /-- The page's time to live is over. -/
  | timedOut
  /-- It is received that nobody sends commands any more. -/
  | hungUp

namespace Move

def sent? : Move → Option Command
  | sent given => some given
  | _ => none

def received? : Move → Option Command
  | received given => some given
  | _ => none

/-- What the loop has to do on a move. -/
def deed? : Move → Option Deed
  | received .quit => none
  | received .reload | timedOut => some .load
  | received given => some (.handle given)
  | _ => none

/-- Whether a move ends the loop. -/
def isEnd : Move → Bool
  | received .quit | hungUp => true
  | _ => false

/-- Whether a move is the loop's. -/
def isTaken : Move → Bool
  | received _ | timedOut | hungUp => true
  | _ => false

end Move

/-- Whether the loop waits for what comes next. -/
structure Listens (loop : Loop) : Prop where
  isOver : loop.isOver = false
  isBusy : loop.dashboard.isBusy = false

/-- Takes a command from the inbox. -/
def receive (loop : Loop) (rest : List Command) : Command → Loop
  | .quit => ⟨leave loop.dashboard, [], loop.isOpen, true⟩
  | .reload => { loop with dashboard := renew loop.dashboard, inbox := rest }
  | command => { loop with dashboard := loop.dashboard.handle command, inbox := rest }

/-- What a move makes of a loop.  A command and the end of the page are taken only while the loop
listens, in any order when both have come. -/
inductive Goes : Loop → Move → Loop → Prop
  | aside {loop : Loop} {happening : Happening} {e : Dashboard}
    (hgo : loop.dashboard.Goes happening e) (hdeed : happening.deed? = none) :
    Goes loop (.aside happening) { loop with dashboard := e }
  | sent {loop : Loop} (hgoing : loop.isOver = false) (command : Command) :
    Goes loop (.sent command) { loop with inbox := loop.inbox ++ [command] }
  | closed (loop : Loop) : Goes loop .closed { loop with isOpen := false }
  | received {loop : Loop} {command : Command} {rest : List Command} (hlistens : loop.Listens)
    (hinbox : loop.inbox = command :: rest) :
    Goes loop (.received command) (loop.receive rest command)
  | timedOut {loop : Loop} (hlistens : loop.Listens)
    (hexpired : loop.dashboard.session.expired = true) :
    Goes loop .timedOut { loop with dashboard := renew loop.dashboard }
  | hungUp {loop : Loop} (hlistens : loop.Listens) (hinbox : loop.inbox = [])
    (hclosed : loop.isOpen = false) :
    Goes loop .hungUp { loop with dashboard := leave loop.dashboard, isOver := true }

inductive Course (loop : Loop) : List Move → Loop → Prop
  | refl : Course loop [] loop
  | go {loop' loop'' : Loop} {moves : List Move} {move : Move} :
    Course loop moves loop' → loop'.Goes move loop'' → Course loop (move :: moves) loop''

/-- The loop when its first page load has begun. -/
def opened (d : Dashboard) : Loop := ⟨d.start d.settings.startRoute, [], true, false⟩

variable {loop loop' loop'' : Loop} {moves moves' : List Move} {d : Dashboard}

/-- A command ends the loop, loads the page anew, or is handled. -/
theorem receive_cases (loop : Loop) (rest : List Command) (command : Command) :
    (command = .quit ∧
      loop.receive rest command = ⟨leave loop.dashboard, [], loop.isOpen, true⟩) ∨
    (command = .reload ∧
      loop.receive rest command =
        { loop with dashboard := renew loop.dashboard, inbox := rest }) ∨
    ((Move.received command).isEnd = false ∧
      (Move.received command).deed? = some (.handle command) ∧
      loop.receive rest command =
        { loop with dashboard := loop.dashboard.handle command, inbox := rest }) := by
  cases command with
  | quit => exact .inl ⟨rfl, rfl⟩
  | reload => exact .inr (.inl ⟨rfl, rfl⟩)
  | _ => exact .inr (.inr ⟨rfl, rfl, rfl⟩)

theorem Course.trans (h : loop.Course moves loop') (h' : loop'.Course moves' loop'') :
    loop.Course (moves' ++ moves) loop'' := by
  induction h' with
  | refl => exact h
  | go _ hgo ih => exact .go ih hgo

/-! ## What every course keeps -/

theorem wellTimed_renew (hd : d.WellTimed) : (renew d).WellTimed :=
  (Dashboard.Goes.restart d _ d.session.route).wellTimed hd

theorem wellTimed_leave (hd : d.WellTimed) : (leave d).WellTimed :=
  ⟨hd.shutdown.isOrdered, hd.shutdown.timely⟩

theorem Goes.wellTimed {move : Move} (h : loop.Goes move loop') (hd : loop.dashboard.WellTimed) :
    loop'.dashboard.WellTimed := by
  cases h with
  | aside hgo hdeed => exact hgo.wellTimed hd
  | @received command rest hlistens hinbox =>
    rcases loop.receive_cases rest command with ⟨-, heq⟩ | ⟨-, heq⟩ | ⟨-, -, heq⟩ <;> rw [heq]
    · exact wellTimed_leave hd
    · exact wellTimed_renew hd
    · exact hd.handle command
  | timedOut hlistens hexpired => exact wellTimed_renew hd
  | hungUp hlistens hinbox hclosed => exact wellTimed_leave hd
  | _ => exact hd

theorem Course.wellTimed (h : loop.Course moves loop') (hd : loop.dashboard.WellTimed) :
    loop'.dashboard.WellTimed := by
  induction h with
  | refl => exact hd
  | go _ hgo ih => exact hgo.wellTimed ih

theorem Goes.settings_eq {move : Move} (h : loop.Goes move loop') :
    loop'.dashboard.settings = loop.dashboard.settings := by
  have hrenew := (Dashboard.Goes.restart loop.dashboard
    [Log.record .info .schedule "reload" [("route", .string loop.dashboard.session.route)]]
    loop.dashboard.session.route).settings_eq
  cases h with
  | aside hgo hdeed => exact hgo.settings_eq
  | @received command rest hlistens hinbox =>
    rcases loop.receive_cases rest command with ⟨-, heq⟩ | ⟨-, heq⟩ | ⟨-, -, heq⟩ <;> rw [heq]
    · rfl
    · exact hrenew
    · exact (Dashboard.Goes.command loop.dashboard command).settings_eq
  | timedOut hlistens hexpired => exact hrenew
  | _ => rfl

theorem Course.settings_eq (h : loop.Course moves loop') :
    loop'.dashboard.settings = loop.dashboard.settings := by
  induction h with
  | refl => rfl
  | go _ hgo ih => exact hgo.settings_eq.trans ih

/-! ## What is run is a course -/

/-- What happens to the dashboard alone happens to a loop around it. -/
theorem exists_course_aside {past : List Incident} {e : Dashboard} (h : d.Course past e)
    (hown : ∀ x ∈ past, x.happening.isOwn = true) (inbox : List Command) (isOpen isOver : Bool) :
    ∃ moves, (⟨d, inbox, isOpen, isOver⟩ : Loop).Course moves ⟨e, inbox, isOpen, isOver⟩ ∧
      ∀ m ∈ moves, m.sent? = none := by
  induction h with
  | refl => exact ⟨[], .refl, List.forall_mem_nil _⟩
  | @go e f past happening _ hgo ih =>
    obtain ⟨hlast, hrest⟩ := List.forall_mem_cons.mp hown
    obtain ⟨moves, hmoves, hsent⟩ := ih hrest
    have hdeed : happening.deed? = none := Happening.deed?_of_isOwn hlast
    exact ⟨.aside happening :: moves, .go hmoves (.aside hgo hdeed),
      List.forall_mem_cons.mpr ⟨rfl, hsent⟩⟩

/-- The page is loaded anew when its time is over, unless the visitor waits. -/
theorem exists_course_renewExpired (d : Dashboard) (inbox : List Command) (isOpen : Bool) :
    ∃ moves, (⟨d, inbox, isOpen, false⟩ : Loop).Course moves
        ⟨renewExpired d, inbox, isOpen, false⟩ ∧ ∀ m ∈ moves, m.sent? = none := by
  unfold renewExpired
  split
  next h =>
    obtain ⟨hexpired, hbusy⟩ := Bool.and_eq_true_iff.mp h
    rw [Bool.not_eq_true'] at hbusy
    exact ⟨[.timedOut], .go .refl (.timedOut ⟨rfl, hbusy⟩ hexpired), by simp [Move.sent?]⟩
  next => exact ⟨[], .refl, List.forall_mem_nil _⟩

theorem exists_course_attend (isOpen : Bool) (inbox : List Command) (d : Dashboard) :
    ∃ moves, (⟨d, inbox, isOpen, false⟩ : Loop).Course moves (attend isOpen inbox d) ∧
      ∀ m ∈ moves, m.sent? = none := by
  induction inbox generalizing d with
  | nil =>
    obtain ⟨moves, hmoves, hsent⟩ := exists_course_renewExpired d [] isOpen
    unfold attend
    dsimp only
    split
    next => exact ⟨moves, hmoves, hsent⟩
    next h =>
      simp only [Bool.or_eq_true, not_or, Bool.not_eq_true] at h
      obtain ⟨hbusy, hclosed⟩ := h
      exact ⟨.hungUp :: moves, hmoves.go (.hungUp ⟨rfl, hbusy⟩ rfl hclosed),
        List.forall_mem_cons.mpr ⟨rfl, hsent⟩⟩
  | cons command rest ih =>
    obtain ⟨moves, hmoves, hsent⟩ := exists_course_renewExpired d (command :: rest) isOpen
    have hreceived : ∀ {loop : Loop}, (renewExpired d).isBusy = false →
        loop = (⟨renewExpired d, command :: rest, isOpen, false⟩ : Loop).receive rest command →
        (⟨d, command :: rest, isOpen, false⟩ : Loop).Course (.received command :: moves) loop :=
      fun hbusy heq => heq ▸ hmoves.go (.received ⟨rfl, hbusy⟩ rfl)
    have hgoes : ∀ {e : Dashboard}, (⟨d, command :: rest, isOpen, false⟩ : Loop).Course
        (.received command :: moves) ⟨e, rest, isOpen, false⟩ →
        ∃ moves, (⟨d, command :: rest, isOpen, false⟩ : Loop).Course moves (attend isOpen rest e) ∧
          ∀ m ∈ moves, m.sent? = none := by
      intro e hcourse
      obtain ⟨later, hlater, hlaterSent⟩ := ih e
      exact ⟨_, hcourse.trans hlater, List.forall_mem_append.mpr
        ⟨hlaterSent, List.forall_mem_cons.mpr ⟨rfl, hsent⟩⟩⟩
    unfold attend
    dsimp only
    split
    next => exact ⟨moves, hmoves, hsent⟩
    next h =>
      have hbusy : (renewExpired d).isBusy = false := (Bool.not_eq_true _).mp h
      cases command with
      | quit => exact ⟨_, hreceived hbusy rfl, List.forall_mem_cons.mpr ⟨rfl, hsent⟩⟩
      | _ => exact hgoes (hreceived hbusy rfl)

theorem exists_course_goOn (loop : Loop) :
    ∃ moves, loop.Course moves loop.goOn ∧ ∀ m ∈ moves, m.sent? = none := by
  obtain ⟨d, inbox, isOpen, isOver⟩ := loop
  cases isOver with
  | true => exact ⟨[], .refl, List.forall_mem_nil _⟩
  | false => exact exists_course_attend isOpen inbox d

end Loop
end PoolPage
