import PoolPage.Proofs.Loop.Pace

/-!
# Page loads lose nothing

Each page load of a loop is on the hash that the visitor went to last (`LoadsOnLast`), whether or
not the hash is valid and its fragment was fetched.  What is sent to the loop is received in its
order (`Delivers`), and what is received is handled in the page load that is there, or loads the
page anew, or ends the loop (`Account`).

Both hold along every course of a loop, so they hold however the ends of pages fall between the
commands.  They hold in particular of what a loop does when it is run on a list of inputs, which
is a course (`exists_course_takeAll`).
-/

namespace PoolPage

/-! ## The route -/

/-- Each page load of a past is on the hash that the visitor went to last, and on the first route
before the visitor went anywhere. -/
def LoadsOnLast (first : String) (past : List Incident) : Prop :=
  ∀ since x before route, past = since ++ x :: before → x.happening = .restart route →
    route = (last? Happening.hash? before).getD first

theorem loadsOnLast_nil (first : String) : LoadsOnLast first [] := by
  intro since x before route hpast
  simp at hpast

theorem LoadsOnLast.cons {first : String} {past : List Incident} (h : LoadsOnLast first past)
    {x : Incident} (hx : ∀ route, x.happening = .restart route →
      route = (last? Happening.hash? past).getD first) : LoadsOnLast first (x :: past) := by
  intro since y before route hpast hrestart
  cases since with
  | nil =>
    obtain ⟨rfl, rfl⟩ := List.cons.inj hpast
    exact hx route hrestart
  | cons z since =>
    obtain ⟨-, hrest⟩ := List.cons.inj hpast
    exact h since y before route hrest hrestart

theorem LoadsOnLast.tail {first : String} {past : List Incident} {x : Incident}
    (h : LoadsOnLast first (x :: past)) :
    LoadsOnLast first past ∧ ∀ route, x.happening = .restart route →
      route = (last? Happening.hash? past).getD first :=
  ⟨fun since y before route hpast => h (x :: since) y before route (by rw [hpast]; rfl),
    fun route => h [] x past route rfl⟩

namespace Dashboard

variable {d e f : Dashboard} {happening : Happening} {past : List Incident}

theorem Goes.route_eq (h : d.Goes happening e) (hload : happening.isRestart = false) :
    e.session.route = happening.hash?.getD d.session.route := by
  have hsession := congrArg Session.route (h.session_eq hload)
  cases happening with
  | event event => rwa [books, foldl_edit_eventBooks] at hsession
  | command command => cases command <;> exact hsession
  | restart route => cases hload
  | _ => exact hsession

theorem route_start (d : Dashboard) (route : String) : (d.start route).session.route = route :=
  congrArg Session.route (session_start d route)

/-- The route of a dashboard is the hash that the visitor went to last. -/
theorem Course.route_eq {first : String} (h : (d.start first).Course past e)
    (hloads : LoadsOnLast first past) :
    e.session.route = (last? Happening.hash? past).getD first := by
  induction h with
  | refl => exact route_start d first
  | @go e f past happening _ hgo ih =>
    obtain ⟨hbefore, hlast⟩ := hloads.tail
    cases hload : happening.isRestart with
    | false => rw [hgo.route_eq hload, getD_last?_cons, ih hbefore]
    | true =>
      cases hgo with
      | restart records route =>
        rw [route_start, hlast route rfl]
        rfl
      | _ => cases hload

/-! ## What is left of a dashboard -/

/-- Only what outlives its page load is on the agenda. -/
def IsLeft (d : Dashboard) : Prop := ∀ a ∈ d.agenda, a.event.outlives = true

theorem isLeft_shutdown (d : Dashboard) : d.shutdown.IsLeft :=
  fun _ ha => (List.mem_filter.mp ha).2

theorem IsLeft.activeTasks_eq (h : d.IsLeft) : d.activeTasks = 0 := by
  refine List.countP_eq_zero.mpr fun a ha htask => ?_
  have houtlives := h a ha
  cases hevent : a.event <;> simp_all [Event.outlives, Event.isTask]

theorem IsLeft.go (h : d.IsLeft) (hgo : d.Goes happening e) (hdeed : happening.deed? = none) :
    e.IsLeft := by
  cases hgo with
  | command command => cases hdeed
  | restart records route => cases hdeed
  | @event a rest hagenda htime =>
    have houtlives : a.event = .chartSettles := by
      have ha := h a (hagenda ▸ List.mem_cons_self)
      cases hevent : a.event <;> simp_all [Event.outlives]
    have hrest : (d.meet a rest).IsLeft := fun b hb => h b (hagenda ▸ List.mem_cons_of_mem a hb)
    rw [houtlives]
    exact hrest
  | _ => exact h

end Dashboard

namespace Loop

open Dashboard

/-- What the moves of a loop say of something, the first move first. -/
def inOrder {α : Type} (of : Move → Option α) (moves : List Move) : List α :=
  (moves.filterMap of).reverse

theorem inOrder_cons {α : Type} (of : Move → Option α) (move : Move) (moves : List Move) :
    inOrder of (move :: moves) = inOrder of moves ++ (of move).toList := by
  cases h : of move <;> simp [inOrder, h]

theorem inOrder_cons_of_none {α : Type} {of : Move → Option α} {move : Move}
    (h : of move = none) (moves : List Move) : inOrder of (move :: moves) = inOrder of moves := by
  rw [inOrder_cons, h, Option.toList_none, List.append_nil]

/-- How a loop has ended by its moves: it took none after one that ends it, and then left the page,
of which no task is live. -/
structure EndsWith (moves : List Move) (e last : Dashboard) : Prop where
  ended : ∃ after move before, moves = after ++ move :: before ∧ move.isEnd = true ∧
    (∀ m ∈ after, m.isTaken = false) ∧ ∀ m ∈ before, m.isEnd = false
  left : ∃ later, (leave e).Course later last ∧ ∀ x ∈ later, x.happening.deed? = none
  isLeft : last.IsLeft

/-- What a loop receives of what is sent: everything, in this order, until the loop is over. -/
structure Delivers (moves : List Move) (loop : Loop) : Prop where
  closed : loop.isOpen = false ↔ .closed ∈ moves
  delivered : ∃ unread, inOrder Move.sent? moves = inOrder Move.received? moves ++ unread ∧
    (loop.isOver = false → loop.inbox = unread) ∧
    (.hungUp ∈ moves → loop.isOver = true ∧ unread = [] ∧ .closed ∈ moves)

/-- What a loop has to show for its moves: the course of its dashboard from the first page load
on. -/
structure Account (d : Dashboard) (moves : List Move) (loop : Loop) (past : List Incident)
    (e : Dashboard) : Prop where
  course : (d.start d.settings.startRoute).Course past e
  /-- Each command but the last one is handled, and each reload and time-out loads the page, in the
  order of the moves. -/
  deeds : (past.filterMap fun x => x.happening.deed?) = moves.filterMap Move.deed?
  routes : LoadsOnLast d.settings.startRoute past
  going : loop.isOver = false → loop.dashboard = e ∧ ∀ m ∈ moves, m.isEnd = false
  done : loop.isOver = true → EndsWith moves e loop.dashboard

variable {d e : Dashboard} {moves : List Move} {move : Move} {loop loop' : Loop}
  {past : List Incident}

/-! ## Commands are delivered -/

theorem delivers_opened (d : Dashboard) : Delivers [] (opened d) where
  closed := by simp [opened]
  delivered := ⟨[], rfl, fun _ => rfl, fun h => by cases h⟩

/-- A move that neither brings nor takes a command. -/
theorem Delivers.of_none (h : Delivers moves loop) (hsent : move.sent? = none)
    (hreceived : move.received? = none) (hmove : move ≠ .hungUp ∧ move ≠ .closed)
    (hopen : loop'.isOpen = loop.isOpen) (hinbox : loop'.inbox = loop.inbox)
    (hover : loop'.isOver = loop.isOver) : Delivers (move :: moves) loop' where
  closed := by
    rw [hopen, h.closed, List.mem_cons, or_iff_right hmove.2.symm]
  delivered := by
    obtain ⟨unread, hstream, hunread, hhungUp⟩ := h.delivered
    refine ⟨unread, ?_, by rwa [hover, hinbox], fun hmem => ?_⟩
    · rwa [inOrder_cons_of_none hsent, inOrder_cons_of_none hreceived]
    · rw [List.mem_cons, or_iff_right hmove.1.symm] at hmem
      obtain ⟨hends, hall, hclosed⟩ := hhungUp hmem
      exact ⟨hover.trans hends, hall, List.mem_cons_of_mem _ hclosed⟩

theorem Delivers.sent (h : Delivers moves loop) (hgoing : loop.isOver = false)
    (command : Command) :
    Delivers (.sent command :: moves) { loop with inbox := loop.inbox ++ [command] } where
  closed := by simpa using h.closed
  delivered := by
    obtain ⟨unread, hstream, hunread, hhungUp⟩ := h.delivered
    refine ⟨unread ++ [command], ?_, fun _ => congrArg (· ++ [command]) (hunread hgoing), ?_⟩
    · rw [inOrder_cons, hstream, inOrder_cons_of_none rfl]
      exact List.append_assoc _ unread [command]
    · intro hmem
      obtain ⟨hends, -⟩ := hhungUp (by simpa using hmem)
      rw [hgoing] at hends
      cases hends

theorem Delivers.closing (h : Delivers moves loop) :
    Delivers (.closed :: moves) { loop with isOpen := false } where
  closed := by simp
  delivered := by
    obtain ⟨unread, hstream, hunread, hhungUp⟩ := h.delivered
    refine ⟨unread, ?_, hunread, fun hmem => ?_⟩
    · rwa [inOrder_cons_of_none rfl, inOrder_cons_of_none rfl]
    · obtain ⟨hends, hall, -⟩ := hhungUp (by simpa using hmem)
      exact ⟨hends, hall, List.mem_cons_self⟩

theorem Delivers.receive (h : Delivers moves loop) {command : Command} {rest : List Command}
    (hgoing : loop.isOver = false) (hinbox : loop.inbox = command :: rest) :
    Delivers (.received command :: moves) (loop.receive rest command) where
  closed := by
    have hopen : (loop.receive rest command).isOpen = loop.isOpen := by
      rcases loop.receive_cases rest command with ⟨-, h⟩ | ⟨-, h⟩ | ⟨-, -, h⟩ <;> rw [h]
    rw [hopen]
    simpa using h.closed
  delivered := by
    obtain ⟨unread, hstream, hunread, hhungUp⟩ := h.delivered
    have hread : unread = command :: rest := (hunread hgoing).symm.trans hinbox
    refine ⟨rest, ?_, fun hgoes => ?_, fun hmem => ?_⟩
    · rw [inOrder_cons_of_none rfl, inOrder_cons, hstream, hread]
      simp [Move.received?]
    · rcases loop.receive_cases rest command with ⟨-, h⟩ | ⟨-, h⟩ | ⟨-, -, h⟩ <;> rw [h] at hgoes ⊢
      cases hgoes
    · obtain ⟨hends, -⟩ := hhungUp (by simpa using hmem)
      rw [hgoing] at hends
      cases hends

theorem Delivers.hangUp (h : Delivers moves loop) (hgoing : loop.isOver = false)
    (hinbox : loop.inbox = []) (hclosed : loop.isOpen = false) (e : Dashboard) :
    Delivers (.hungUp :: moves) { loop with dashboard := e, isOver := true } where
  closed := by simpa using h.closed
  delivered := by
    obtain ⟨unread, hstream, hunread, -⟩ := h.delivered
    refine ⟨unread, ?_, nofun, fun _ => ⟨rfl, ?_, ?_⟩⟩
    · rwa [inOrder_cons_of_none rfl, inOrder_cons_of_none rfl]
    · exact (hunread hgoing).symm.trans hinbox
    · exact List.mem_cons_of_mem _ (h.closed.mp hclosed)

theorem Goes.delivers (hgo : loop.Goes move loop') (h : Delivers moves loop) :
    Delivers (move :: moves) loop' := by
  cases hgo with
  | aside hgo hdeed => exact h.of_none rfl rfl ⟨by simp, by simp⟩ rfl rfl rfl
  | sent hgoing command => exact h.sent hgoing command
  | closed => exact h.closing
  | received hlistens hinbox => exact h.receive hlistens.isOver hinbox
  | timedOut hlistens hexpired => exact h.of_none rfl rfl ⟨by simp, by simp⟩ rfl rfl rfl
  | hungUp hlistens hinbox hclosed => exact h.hangUp hlistens.isOver hinbox hclosed _

theorem Course.delivers (h : (opened d).Course moves loop) : Delivers moves loop := by
  induction h with
  | refl => exact delivers_opened d
  | go _ hgo ih => exact hgo.delivers ih

/-! ## The account -/

theorem account_opened (d : Dashboard) :
    Account d [] (opened d) [] (d.start d.settings.startRoute) where
  course := .refl
  deeds := rfl
  routes := loadsOnLast_nil _
  going _ := ⟨rfl, List.forall_mem_nil _⟩
  done h := by cases h

/-- A loop that is over takes no more moves. -/
theorem EndsWith.cons {last last' : Dashboard} (h : EndsWith moves e last)
    (hmove : move.isTaken = false)
    (hleft : ∃ later, last.Course later last' ∧ ∀ x ∈ later, x.happening.deed? = none)
    (hlast : last'.IsLeft) : EndsWith (move :: moves) e last' where
  ended := by
    obtain ⟨after, final, before, hmoves, hend, hafter, hbefore⟩ := h.ended
    exact ⟨move :: after, final, before, by rw [hmoves]; rfl, hend,
      List.forall_mem_cons.mpr ⟨hmove, hafter⟩, hbefore⟩
  left := by
    obtain ⟨later, hlater, hdeeds⟩ := h.left
    obtain ⟨later', hlater', hdeeds'⟩ := hleft
    exact ⟨later' ++ later, hlater.trans hlater', List.forall_mem_append.mpr ⟨hdeeds', hdeeds⟩⟩
  isLeft := hlast

theorem endsWith_leave (hmove : move.isEnd = true) (hmoves : ∀ m ∈ moves, m.isEnd = false) :
    EndsWith (move :: moves) e (leave e) where
  ended := ⟨[], move, moves, rfl, hmove, List.forall_mem_nil _, hmoves⟩
  left := ⟨[], .refl, List.forall_mem_nil _⟩
  isLeft := isLeft_shutdown e

namespace Account

/-- A move that the loop does not take leaves the course of the dashboard alone. -/
theorem of_not_taken (h : Account d moves loop past e) (htaken : move.isTaken = false)
    (hdeed : move.deed? = none) (hend : move.isEnd = false)
    (hdashboard : loop'.dashboard = loop.dashboard) (hover : loop'.isOver = loop.isOver) :
    Account d (move :: moves) loop' past e where
  course := h.course
  deeds := by
    rw [List.filterMap_cons_none hdeed]
    exact h.deeds
  routes := h.routes
  going hgoing := by
    obtain ⟨heq, hmoves⟩ := h.going (hover ▸ hgoing)
    exact ⟨hdashboard.trans heq, List.forall_mem_cons.mpr ⟨hend, hmoves⟩⟩
  done hends := by
    have hbefore := h.done (hover ▸ hends)
    rw [hdashboard]
    exact hbefore.cons htaken ⟨[], .refl, List.forall_mem_nil _⟩ hbefore.isLeft

/-- While the loop goes on, what happens to the dashboard and the moves of the loop are told
alike. -/
theorem go (h : Account d moves loop past e) {happening : Happening} {f : Dashboard}
    (hgo : e.Goes happening f) (hdeed : happening.deed? = move.deed?)
    (hend : move.isEnd = false) (hmoves : ∀ m ∈ moves, m.isEnd = false)
    (hroute : ∀ route, happening = .restart route → route = e.session.route)
    (hdashboard : loop'.dashboard = f) (hgoing : loop'.isOver = false) :
    Account d (move :: moves) loop' (⟨e.now, happening⟩ :: past) f where
  course := h.course.go hgo
  deeds := by
    rw [List.filterMap_cons, List.filterMap_cons, hdeed, h.deeds]
  routes := h.routes.cons fun route hrestart =>
    (hroute route hrestart).trans (h.course.route_eq h.routes)
  going _ := ⟨hdashboard, List.forall_mem_cons.mpr ⟨hend, hmoves⟩⟩
  done hends := by
    rw [hgoing] at hends
    cases hends

/-- The page is left when the loop ends. -/
theorem leave (h : Account d moves loop past e) (hend : move.isEnd = true)
    (hdeed : move.deed? = none) (hmoves : ∀ m ∈ moves, m.isEnd = false)
    (hdashboard : loop'.dashboard = Loop.leave e) (hends : loop'.isOver = true) :
    Account d (move :: moves) loop' past e where
  course := h.course
  deeds := by
    rw [List.filterMap_cons_none hdeed]
    exact h.deeds
  routes := h.routes
  going hgoing := by
    rw [hends] at hgoing
    cases hgoing
  done _ := by
    rw [hdashboard]
    exact endsWith_leave hend hmoves

end Account

theorem goes_renew (d : Dashboard) : d.Goes (.restart d.session.route) (renew d) :=
  .restart d _ d.session.route

theorem Goes.account (hgo : loop.Goes move loop') (h : Account d moves loop past e) :
    ∃ past' e', Account d (move :: moves) loop' past' e' := by
  cases hgo with
  | sent hgoing command => exact ⟨past, e, h.of_not_taken rfl rfl rfl rfl rfl⟩
  | closed => exact ⟨past, e, h.of_not_taken rfl rfl rfl rfl rfl⟩
  | @aside happening f hgo hdeed =>
    by_cases hover : loop.isOver = true
    · have hends := h.done hover
      refine ⟨past, e, h.course, h.deeds, h.routes, fun hgoing => ?_, fun _ => ?_⟩
      · exact absurd hover (by simpa using hgoing)
      · exact hends.cons rfl ⟨[_], .go .refl hgo, by simpa using hdeed⟩
          (hends.isLeft.go hgo hdeed)
    · obtain ⟨heq, hmoves⟩ := h.going (by simpa using hover)
      rw [heq] at hgo
      refine ⟨_, f, h.go hgo hdeed rfl hmoves (fun route hrestart => ?_) rfl (by simpa using hover)⟩
      rw [hrestart] at hdeed
      cases hdeed
  | @received command rest hlistens hinbox =>
    obtain ⟨heq, hmoves⟩ := h.going hlistens.isOver
    rcases loop.receive_cases rest command with
      ⟨rfl, hreceive⟩ | ⟨rfl, hreceive⟩ | ⟨hend, hdeed, hreceive⟩
    · refine ⟨past, e, h.leave rfl rfl hmoves ?_ ?_⟩ <;> simp only [hreceive, heq]
    · refine ⟨_, _, h.go (goes_renew e) rfl rfl hmoves (fun route hrestart => ?_) ?_ ?_⟩
      · exact (Happening.restart.inj hrestart).symm
      · simp only [hreceive, heq]
      · simpa only [hreceive] using hlistens.isOver
    · refine ⟨_, _, h.go (.command e command) hdeed.symm hend hmoves nofun ?_ ?_⟩
      · simp only [hreceive, heq]
      · simpa only [hreceive] using hlistens.isOver
  | timedOut hlistens hexpired =>
    obtain ⟨heq, hmoves⟩ := h.going hlistens.isOver
    refine ⟨_, _, h.go (goes_renew e) rfl rfl hmoves (fun route hrestart => ?_) ?_ hlistens.isOver⟩
    · exact (Happening.restart.inj hrestart).symm
    · simp only [heq]
  | hungUp hlistens hinbox hclosed =>
    obtain ⟨heq, hmoves⟩ := h.going hlistens.isOver
    refine ⟨past, e, h.leave rfl rfl hmoves ?_ rfl⟩
    simp only [heq]

theorem Course.exists_account (h : (opened d).Course moves loop) :
    ∃ past e, Account d moves loop past e := by
  induction h with
  | refl => exact ⟨[], _, account_opened d⟩
  | go _ hgo ih =>
    obtain ⟨past, e, haccount⟩ := ih
    exact hgo.account haccount

/-! ## A loop that is run -/

/-- What is done to a loop from outside. -/
inductive Input where
  | send (command : Command)
  | close
  | wait (ms : Nat)

def Input.command? : Input → Option Command
  | send command => some command
  | _ => none

def take (loop : Loop) : Input → Loop
  | .send command => loop.send command
  | .close => loop.close
  | .wait ms => loop.advance ms

def takeAll (loop : Loop) (inputs : List Input) : Loop := inputs.foldl take loop

theorem Goes.isOver_eq (h : loop.Goes move loop') (hover : loop.isOver = true) :
    loop'.isOver = true ∧ move.sent? = none := by
  cases h with
  | aside hgo hdeed => exact ⟨hover, rfl⟩
  | closed => exact ⟨hover, rfl⟩
  | sent hgoing command =>
    rw [hover] at hgoing
    cases hgoing
  | received hlistens hinbox => exact absurd hover (by simp [hlistens.isOver])
  | timedOut hlistens hexpired => exact absurd hover (by simp [hlistens.isOver])
  | hungUp hlistens hinbox hclosed => exact absurd hover (by simp [hlistens.isOver])

/-- Nothing is sent to a loop that is over. -/
theorem Course.isOver_eq (h : loop.Course moves loop') (hover : loop.isOver = true) :
    loop'.isOver = true ∧ inOrder Move.sent? moves = [] := by
  induction h with
  | refl => exact ⟨hover, rfl⟩
  | go _ hgo ih =>
    obtain ⟨hbefore, hnone⟩ := ih
    obtain ⟨hafter, hsent⟩ := hgo.isOver_eq hbefore
    exact ⟨hafter, (inOrder_cons_of_none hsent _).trans hnone⟩

theorem inOrder_eq_nil {moves : List Move} (h : ∀ m ∈ moves, m.sent? = none) :
    inOrder Move.sent? moves = [] := by
  rw [inOrder, List.filterMap_eq_nil_iff.mpr h, List.reverse_nil]

theorem inOrder_append {α : Type} (of : Move → Option α) (moves moves' : List Move) :
    inOrder of (moves' ++ moves) = inOrder of moves ++ inOrder of moves' := by
  rw [inOrder, List.filterMap_append, List.reverse_append]
  rfl

/-- What is done to a loop is a course, on which a command is sent unless the loop is over. -/
theorem exists_course_take (hd : loop.dashboard.WellTimed)
    (hreload : 0 < loop.dashboard.settings.reload) (input : Input) :
    ∃ moves, loop.Course moves (loop.take input) ∧
      (loop.isOver = false → inOrder Move.sent? moves = input.command?.toList) := by
  cases input with
  | send command =>
    cases hover : loop.isOver with
    | true =>
      refine ⟨[], ?_, nofun⟩
      rw [take, send, if_pos hover]
      exact .refl
    | false =>
      obtain ⟨moves, hmoves, hsent⟩ :=
        exists_course_goOn { loop with inbox := loop.inbox ++ [command] }
      refine ⟨moves ++ [.sent command], ?_, fun _ => ?_⟩
      · rw [take, send, if_neg (by simp [hover])]
        exact (Course.go .refl (.sent hover command)).trans hmoves
      · rw [inOrder_append, inOrder_eq_nil hsent, List.append_nil]
        rfl
  | close =>
    obtain ⟨moves, hmoves, hsent⟩ := exists_course_goOn { loop with isOpen := false }
    refine ⟨moves ++ [.closed], (Course.go .refl (.closed loop)).trans hmoves, fun _ => ?_⟩
    rw [inOrder_append, inOrder_eq_nil hsent, List.append_nil]
    rfl
  | wait ms =>
    obtain ⟨moves, hmoves, hsent⟩ := exists_course_advanceTo hd hreload _
    exact ⟨moves, hmoves, fun _ => inOrder_eq_nil hsent⟩

theorem exists_course_takeAll (inputs : List Input) (hd : loop.dashboard.WellTimed)
    (hreload : 0 < loop.dashboard.settings.reload) :
    ∃ moves, loop.Course moves (loop.takeAll inputs) ∧
      ∃ late, inputs.filterMap Input.command? = inOrder Move.sent? moves ++ late ∧
        ((loop.takeAll inputs).isOver = false → late = []) := by
  induction inputs generalizing loop with
  | nil => exact ⟨[], .refl, [], rfl, fun _ => rfl⟩
  | cons input inputs ih =>
    obtain ⟨moves, hmoves, hsent⟩ := exists_course_take hd hreload input
    obtain ⟨moves', hmoves', late, hlate, hall⟩ :=
      ih (hmoves.wellTimed hd) (hmoves.settings_eq ▸ hreload)
    have hcourse := hmoves.trans hmoves'
    refine ⟨moves' ++ moves, hcourse, ?_⟩
    cases hover : loop.isOver with
    | true =>
      obtain ⟨hends, hnone⟩ := hcourse.isOver_eq hover
      exact ⟨_, (congrArg (· ++ _) hnone).symm, fun hgoing =>
        Bool.noConfusion (hgoing.symm.trans hends)⟩
    | false =>
      refine ⟨late, ?_, hall⟩
      have hfirst : (input :: inputs).filterMap Input.command? =
          input.command?.toList ++ inputs.filterMap Input.command? := by
        rw [List.filterMap_cons]
        cases input.command? <;> rfl
      rw [hfirst, hlate, inOrder_append, hsent hover, List.append_assoc]

/-! ## A loop that is run does not wait -/

/-- A loop that waits has nothing left to take, unless the visitor waits. -/
def Prompt (loop : Loop) : Prop :=
  loop.isOver = false → loop.dashboard.isBusy = false →
    loop.inbox = [] ∧ loop.isOpen = true ∧ loop.dashboard.session.expired = false

theorem expired_renewExpired (h : (renewExpired d).isBusy = false) :
    (renewExpired d).session.expired = false := by
  unfold renewExpired at h ⊢
  split at h
  next hrenewed =>
    rw [if_pos hrenewed]
    exact congrArg Session.expired (session_start _ _)
  next hkept =>
    rw [if_neg hkept]
    simpa [h] using hkept

theorem prompt_attend (isOpen : Bool) (inbox : List Command) (d : Dashboard) :
    (attend isOpen inbox d).Prompt := by
  induction inbox generalizing d with
  | nil =>
    unfold attend
    dsimp only
    split
    next hwaits =>
      intro _ hbusy
      have hopen : isOpen = true := by simpa [show (renewExpired d).isBusy = false from hbusy]
        using hwaits
      exact ⟨rfl, hopen, expired_renewExpired hbusy⟩
    next => exact fun hgoing => Bool.noConfusion hgoing
  | cons command rest ih =>
    unfold attend
    dsimp only
    split
    next hbusy => exact fun _ hfree => absurd hbusy (by simpa using hfree)
    next =>
      cases command with
      | quit => exact fun hgoing => Bool.noConfusion hgoing
      | _ => exact ih _

theorem prompt_goOn (loop : Loop) : loop.goOn.Prompt := by
  unfold goOn
  split
  next hover => exact fun hgoing => absurd hover (by simpa using hgoing)
  next => exact prompt_attend _ _ _

theorem Prompt.advanceTo (h : loop.Prompt) (horizon : Nat) : (loop.advanceTo horizon).Prompt := by
  have hsteps : ∀ steps : Nat, (iterate (step? horizon) steps loop).Prompt := by
    intro steps
    induction steps generalizing loop with
    | zero => exact h
    | succ steps ih =>
      unfold iterate
      cases hstep : loop.step? horizon with
      | none => exact h
      | some loop' =>
        obtain ⟨e, -, rfl⟩ := Option.map_eq_some_iff.mp hstep
        exact ih (prompt_goOn _)
  exact hsteps _

theorem Prompt.take (h : loop.Prompt) (input : Input) : (loop.take input).Prompt := by
  cases input with
  | send command =>
    rw [Loop.take, send]
    split
    · exact h
    · exact prompt_goOn _
  | close => exact prompt_goOn _
  | wait ms => exact h.advanceTo _

theorem Prompt.takeAll (h : loop.Prompt) (inputs : List Input) : (loop.takeAll inputs).Prompt := by
  induction inputs generalizing loop with
  | nil => exact h
  | cons input inputs ih => exact ih (h.take input)

/-! ## Page loads lose nothing -/

/-- However commands and the ends of pages fall, a loop receives the commands as they were sent,
does with each what it says, loads the page on the hash that was visited last, and leaves nothing
live behind.  So does a loop that is run, and it receives all there is until the visitor has to
wait. -/
theorem loads_lose_nothing (d : Dashboard) :
    (∀ moves loop, (opened d).Course moves loop →
      Delivers moves loop ∧ (∃ past e, Account d moves loop past e) ∧
        (loop.isOver = true → loop.dashboard.activeTasks = 0)) ∧
    (d.WellTimed → 0 < d.settings.reload → ∀ inputs,
      ((start d).takeAll inputs).Prompt ∧
        ∃ moves, (opened d).Course moves ((start d).takeAll inputs) ∧
          ∃ late, inputs.filterMap Input.command? = inOrder Move.sent? moves ++ late ∧
            (((start d).takeAll inputs).isOver = false → late = [])) := by
  refine ⟨fun moves loop h => ?_, fun hd hreload inputs => ?_⟩
  · obtain ⟨past, e, haccount⟩ := h.exists_account
    exact ⟨h.delivers, ⟨past, e, haccount⟩, fun hover =>
      (haccount.done hover).isLeft.activeTasks_eq⟩
  have hopened : (opened d).dashboard.WellTimed := hd.start _
  obtain ⟨first, hfirst, hnone⟩ := exists_course_goOn (opened d)
  have hsettings : (start d).dashboard.settings = d.settings :=
    (hfirst.settings_eq.trans (settings_start d _))
  obtain ⟨moves, hmoves, late, hlate, hall⟩ :=
    exists_course_takeAll inputs (hfirst.wellTimed hopened) (hsettings ▸ hreload)
  refine ⟨(prompt_attend _ _ _).takeAll inputs, moves ++ first, hfirst.trans hmoves, late, ?_, hall⟩
  rw [inOrder_append, inOrder_eq_nil hnone]
  exact hlate

/-- A dashboard that is nobody's yet. -/
def unvisited : Dashboard := .new .standard .unattended charted (.memory .blank) (.new false) 0

/-- An invalid hash is visited and the page loaded anew, on that hash. -/
theorem loads_lose_nothing_invalid :
    ∃ moves loop, (opened unvisited).Course moves loop ∧
      inOrder Move.received? moves = [.navigate "a/b", .reload] ∧
      loop.dashboard.session.route = "a/b" ∧
      ∃ past e, Account unvisited moves loop past e := by
  obtain ⟨hcourses, hrun⟩ := loads_lose_nothing unvisited
  obtain ⟨hprompt, moves, hmoves, late, hsent, hlate⟩ :=
    hrun ⟨.nil, List.forall_mem_nil _⟩ (by decide) [.send (.navigate "a/b"), .send .reload]
  obtain ⟨⟨-, unread, hstream, hunread, -⟩, haccount, -⟩ := hcourses moves _ hmoves
  have hgoing : ((start unvisited).takeAll
      [.send (.navigate "a/b"), .send .reload]).isOver = false := by rfl
  have hfree : ((start unvisited).takeAll
      [.send (.navigate "a/b"), .send .reload]).dashboard.isBusy = false := by rfl
  obtain ⟨hinbox, -⟩ := hprompt hgoing hfree
  rw [hunread hgoing] at hinbox
  rw [hlate hgoing, hstream, hinbox] at hsent
  refine ⟨moves, _, hmoves, ?_, rfl, haccount⟩
  rw [List.append_nil, List.append_nil] at hsent
  exact hsent.symm

end Loop
end PoolPage
