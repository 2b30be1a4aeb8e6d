import PoolPage.Proofs.Dashboard.Actions

/-!
# What is left of a page load

A page load is shut down with all its tasks, but the later layout of the chart is none of
them.  If no such layout is pending, nothing happens after the end of a page load, and
the next one cannot be told from a first one (`TornDown`).  If some are, each of them may
still lay out the chart of the next page load, and does so if that is drawn in time.

`tornDown_iff` says both, and that nothing worse comes of them: what the next page load
shows is what a first one would show, with the chart laid out at most as many times more
as layouts were pending.
-/

namespace PoolPage
namespace Dashboard

def surface (d : Dashboard) : Page := d.screen.page.surface

def leftovers (d : Dashboard) : Agenda Event := d.agenda.filter fun a => a.event.outlives

/-- A dashboard before its first page load, in the place and at the time of another. -/
def unvisited (d : Dashboard) : Dashboard :=
  { Dashboard.new d.settings d.mode d.backend ⟨.blank, d.screen.file, none⟩ d.store d.epoch with
    now := d.now }

/-- The page load is over when it is shut down: nothing changes any more, and another page load is
like a first one whatever happens then. -/
structure TornDown (d : Dashboard) : Prop where
  still : ∀ waits : List Nat, (d.shutdown.live (waits.map .wait)).surface = d.surface
  fresh : ∀ (route : String) (actions : List Action),
    ((d.shutdown.start route).live actions).surface =
      ((d.unvisited.start route).live actions).surface

/-! ## Layouts left over -/

/-- A page shows what another shows after some more layouts of the chart, no more than were pending
and are not any longer. -/
def LaidAgain (total n : Nat) (page page' : Page) : Prop :=
  ∃ k, k + n ≤ total ∧ page.surface = (page'.layAgain k).surface

theorem surface_takeDirty (page : Page) : page.takeDirty.2.surface = page.surface := rfl

theorem surface_layAgain_takeDirty (page : Page) (n : Nat) :
    (page.takeDirty.2.layAgain n).surface = (page.layAgain n).surface :=
  (Page.surface_layAgain page n).symm

theorem compares_laidAgain (total : Nat) : Compares (LaidAgain total) where
  change := by
    rintro n page page' c hc ⟨k, hk, hsurface⟩
    have hchange := Page.surface_change_congr hsurface c
    by_cases hchart : page'.HasChart
    · exact ⟨k, hk, by rw [hchange, Page.change_layAgain hchart hc]⟩
    · rw [Page.layAgain_of_not_hasChart hchart] at hchange
      exact ⟨0, by omega, hchange⟩
  lower := by
    rintro n page page' ⟨k, hk, hsurface⟩
    exact ⟨k, hk, by rw [surface_takeDirty, hsurface, surface_layAgain_takeDirty]⟩

theorem surface_call (d : Dashboard) (c : Snapshot.Call) :
    (d.call c).surface = (Screen.change d.screen.page c).surface :=
  Screen.view_call true d.screen c

/-- What outlives a page load lays out the chart, and does nothing else. -/
theorem happen_of_outlives {event : Event} (h : event.outlives = true) (d : Dashboard) :
    Changes.happen d event = [.call (.applyAll [.resizeChart MinerPanel.chart])] := by
  cases event with
  | chartSettles => rfl
  | _ => cases h

theorem isInert_of_outlives {p : Appointment Event → Prop} {r : Nat → Page → Page → Prop}
    {horizon : Nat} (hp : ∀ a, p a → a.event.outlives = true)
    (hr : ∀ {n : Nat} {page page' later : Page}, r (n + 1) page page' →
      later.surface = (page.layAgain 1).surface → r n later page') : IsInert p r horizon where
  isShown := by
    intro a ha _ d
    rw [happen_of_outlives (hp a ha)]
    simp [Change.isShown]
  strike := by
    intro a ha _ n d page' hpage
    rw [happen_of_outlives (hp a ha)]
    exact hr hpage (surface_call d _)

theorem surface_layAgain_succ {page page' : Page} {k : Nat}
    (h : page.surface = (page'.layAgain k).surface) :
    (page.layAgain 1).surface = (page'.layAgain (k + 1)).surface := by
  rw [Page.surface_layAgain, h, ← Page.surface_layAgain]
  rfl

theorem LaidAgain.loaded {total n : Nat} {page page' : Page} (h : LaidAgain total n page page') :
    LaidAgain total n .loaded .loaded := by
  obtain ⟨k, hk, -⟩ := h
  exact ⟨0, by omega, rfl⟩

theorem isInert_laidAgain (total horizon : Nat) :
    IsInert (fun a => a.event.outlives = true) (LaidAgain total) horizon := by
  refine isInert_of_outlives (fun _ ha => ha) ?_
  rintro n page page' later ⟨k, hk, hsurface⟩ hlater
  exact ⟨k + 1, by omega, hlater.trans (surface_layAgain_succ hsurface)⟩

/-! ## Another page load -/

variable {d : Dashboard}

theorem thinned_shutdown (d : Dashboard) {p : Appointment Event → Prop}
    (hp : ∀ a ∈ d.leftovers, p a) :
    Agenda.Thinned p d.leftovers.length d.shutdown.agenda d.unvisited.agenda :=
  Agenda.Thinned.of_forall hp

theorem outlives_of_mem_leftovers {a : Appointment Event} (ha : a ∈ d.leftovers) :
    a.event.outlives = true :=
  (List.mem_filter.mp ha).2

theorem akin_unvisited (d : Dashboard) : Akin d.shutdown d.unvisited :=
  ⟨rfl, rfl, rfl, rfl, rfl, rfl, rfl⟩

theorem wellTimed_unvisited (d : Dashboard) : d.unvisited.WellTimed :=
  ⟨.nil, fun a ha => by simp [unvisited, new] at ha⟩

theorem not_awaited_of_outlives (a : Appointment Event) (h : a.event.outlives = true) :
    a.event.isAwaited = false := by
  cases hevent : a.event with
  | chartSettles => rfl
  | _ =>
    rw [hevent] at h
    cases h

/-- Of two dashboards that only layouts of the chart set apart, the first goes on to show what the
second shows, with the chart laid out some more times. -/
theorem surface_live_of_twins {total n : Nat} {e : Dashboard}
    (h : Twins (fun a => a.event.outlives = true) (LaidAgain total) n d e)
    (actions : List Action) :
    ∃ k, k ≤ total ∧
      (d.live actions).surface = ((e.live actions).screen.page.layAgain k).surface := by
  obtain ⟨n', h'⟩ := h.live (compares_laidAgain total) LaidAgain.loaded (isInert_laidAgain total)
    (fun _ ha => ha) not_awaited_of_outlives actions
  obtain ⟨k, hk, hsurface⟩ := h'.inStep.alike.page
  exact ⟨k, by omega, hsurface⟩

/-- A page load after another is like a first one, but for layouts that were pending. -/
theorem surface_restart (hd : d.WellTimed) (route : String) (actions : List Action) :
    ∃ k, k ≤ d.leftovers.length ∧
      ((d.shutdown.start route).live actions).surface =
        (((d.unvisited.start route).live actions).screen.page.layAgain k).surface :=
  surface_live_of_twins (Twins.start_of_akin (compares_laidAgain d.leftovers.length)
    ⟨0, by omega, rfl⟩ (akin_unvisited d) hd.shutdown (wellTimed_unvisited d)
    (thinned_shutdown d fun _ => outlives_of_mem_leftovers) route) actions

/-- A dashboard that has nothing to do stays as it is while time passes. -/
theorem surface_waits_of_agenda_eq_nil (h : d.agenda = []) (waits : List Nat) :
    (d.live (waits.map .wait)).surface = d.surface := by
  induction waits generalizing d with
  | nil => rfl
  | cons ms waits ih =>
    have hact : d.act (.wait ms) = { d with now := max d.now (d.now + waitOf ms) } := by
      simp [act, advance, advanceTo, workload, h, iterate]
    rw [List.map_cons, live, List.foldl_cons, hact]
    exact ih h

/-- After the end of a page load nothing but pending layouts happens. -/
theorem surface_shutdown (hd : d.WellTimed) (waits : List Nat) :
    ∃ k, k ≤ d.leftovers.length ∧
      (d.shutdown.live (waits.map .wait)).surface = (d.screen.page.layAgain k).surface := by
  have htwins : Twins (fun a => a.event.outlives = true) (LaidAgain d.leftovers.length)
      d.leftovers.length d.shutdown { d.shutdown with agenda := [] } :=
    ⟨⟨⟨rfl, rfl, rfl, rfl, rfl, rfl, thinned_shutdown d fun _ => outlives_of_mem_leftovers,
      ⟨0, by omega, rfl⟩⟩, hd.shutdown, ⟨.nil, fun a ha => by simp at ha⟩, .asking ⟨rfl, rfl⟩,
      Nat.le_refl _⟩, rfl⟩
  obtain ⟨k, hk, hsurface⟩ := surface_live_of_twins htwins (waits.map .wait)
  refine ⟨k, hk, hsurface.trans ?_⟩
  rw [Page.surface_layAgain]
  have hidle := surface_waits_of_agenda_eq_nil (d := { d.shutdown with agenda := [] }) rfl waits
  change Page.surface _ = Page.surface _ at hidle
  rw [hidle]
  exact (Page.surface_layAgain _ k).symm

theorem tornDown_of_leftovers_eq_nil (hd : d.WellTimed) (h : d.leftovers = []) : d.TornDown where
  still := by
    intro waits
    obtain ⟨k, hk, hsurface⟩ := surface_shutdown hd waits
    rw [h, List.length_nil, Nat.le_zero] at hk
    rw [hsurface, hk]
    rfl
  fresh := by
    intro route actions
    obtain ⟨k, hk, hsurface⟩ := surface_restart hd route actions
    rw [h, List.length_nil, Nat.le_zero] at hk
    rw [hsurface, hk]
    rfl

/-! ## A page load that finds leftovers -/

/-- Nothing was laid out yet, and all that was pending still is. -/
def Untouched (total n : Nat) (page page' : Page) : Prop :=
  n = total ∧ page.surface = page'.surface

theorem compares_untouched (total : Nat) : Compares (Untouched total) where
  change := by
    rintro n page page' c - ⟨hn, hsurface⟩
    exact ⟨hn, Page.surface_change_congr hsurface c⟩
  lower := by
    rintro n page page' h
    exact h

/-- The chart is there, and was laid out once for each layout that is not pending any longer. -/
def LaidOut (total n : Nat) (page page' : Page) : Prop :=
  page'.HasChart ∧ n ≤ total ∧ page.surface = (page'.layAgain (total - n)).surface

theorem compares_laidOut (total : Nat) : Compares (LaidOut total) where
  change := by
    rintro n page page' c hc ⟨hchart, hn, hsurface⟩
    refine ⟨hchart.change hc, hn, ?_⟩
    rw [Page.surface_change_congr hsurface c, Page.change_layAgain hchart hc]
  lower := by
    rintro n page page' ⟨hchart, hn, hsurface⟩
    exact ⟨hchart, hn, by rw [surface_takeDirty, hsurface, surface_layAgain_takeDirty]⟩

/-- A layout that was pending at a time. -/
def PendingAt (time : Nat) (a : Appointment Event) : Prop :=
  a.event.outlives = true ∧ time < a.time ∧ a.time ≤ time + longestWait

theorem isInert_laidOut (time total horizon : Nat) :
    IsInert (PendingAt time) (LaidOut total) horizon := by
  refine isInert_of_outlives (fun _ ha => ha.1) ?_
  rintro n page page' later ⟨hchart, hn, hsurface⟩ hlater
  refine ⟨hchart, by omega, hlater.trans ?_⟩
  have hsucc : total - n = total - (n + 1) + 1 := by omega
  rw [hsucc]
  exact surface_layAgain_succ hsurface

/-- Nothing that is pending at a time is due by then. -/
theorem isInert_pendingAt (time : Nat) (r : Nat → Page → Page → Prop) :
    IsInert (PendingAt time) r time where
  isShown := by
    intro a ha hdue
    exact absurd ha.2.1 (Nat.not_lt.mpr hdue)
  strike := by
    intro a ha hdue
    exact absurd ha.2.1 (Nat.not_lt.mpr hdue)

theorem pendingAt_of_mem_leftovers (hd : d.AtRest) {a : Appointment Event}
    (ha : a ∈ d.leftovers) : PendingAt d.now a := by
  have houtlives := outlives_of_mem_leftovers ha
  have hmem : a ∈ d.agenda := (List.mem_filter.mp ha).1
  refine ⟨houtlives, hd.lies_ahead a hmem houtlives, (hd.wellTimed.timely a hmem).soon ?_⟩
  cases hevent : a.event with
  | chartSettles => rfl
  | _ =>
    rw [hevent] at houtlives
    cases houtlives

/-! ### The chart of a miner -/

theorem hasChart_call {c : Snapshot.Call} (h : (Screen.change d.screen.page c).HasChart) :
    (d.call c).screen.page.HasChart := by
  show (d.screen.call c).1.page.HasChart
  rw [Screen.page_call]
  split <;> exact h

theorem hasChart_make {c : Change} {settings : Settings} {now : Nat}
    (hc : c.IsProper settings now) (h : d.screen.page.HasChart) :
    (d.make c).screen.page.HasChart := by
  cases c with
  | call c => exact hasChart_call (h.change hc)
  | _ => exact h

theorem hasChart_makeAll {cs : List Change} {settings : Settings} {now : Nat}
    (hcs : ∀ c ∈ cs, c.IsProper settings now) (h : d.screen.page.HasChart) :
    (d.makeAll cs).screen.page.HasChart := by
  induction cs generalizing d with
  | nil => exact h
  | cons c cs ih =>
    obtain ⟨hc, hrest⟩ := List.forall_mem_cons.mp hcs
    exact ih hrest (hasChart_make hc h)

/-- An answer with a chart. -/
def IsCharted (event : Event) : Prop :=
  ∃ address reply stats points, event = .minerArrived address reply ∧
    reply.answer = .ok (.found stats) ∧ stats.chart = some points

theorem hasChart_render {stats : MinerStats} {points : List RatePoint}
    (h : stats.chart = some points) (settings : Settings) (page : Page) :
    (page.applyAll (MinerPanel.render (.found stats) settings)).HasChart := by
  have hdrawn : ∀ page : Page, (page.applyAll (MinerPanel.chartUpdates stats.chart)).HasChart := by
    intro page
    simp [h, MinerPanel.chartUpdates, Page.HasChart, Page.apply_eq]
  rw [MinerPanel.render, MinerPanel.renderStats, Page.applyAll_append, Page.applyAll_append]
  exact (hdrawn _).applyAll _

theorem hasChart_happen {lane : Lane} {event : Event}
    (htimely : Timely d.settings d.now ⟨d.now, lane, event⟩) (h : IsCharted event) :
    (d.makeAll (Changes.happen d event)).screen.page.HasChart := by
  obtain ⟨address, reply, stats, points, rfl, hanswer, hchart⟩ := h
  have hproper := Changes.isProper_happen d lane htimely
  simp only [Changes.happen, Changes.receiveMiner, hanswer] at hproper ⊢
  have hrest := (List.forall_mem_append.mp (List.forall_mem_cons.mp hproper).2).2
  rw [makeAll_cons, makeAll_append]
  refine hasChart_makeAll hrest ?_
  rw [makeAll_cons, makeAll_cons, makeAll_nil]
  exact hasChart_call (hasChart_render hchart d.settings _)

/-- Once an answer with a chart has come, the chart is there. -/
theorem hasChart_advanceTo (hd : d.WellTimed) {horizon : Nat} {a : Appointment Event}
    (ha : a ∈ d.agenda) (hevent : IsCharted a.event) (hdue : a.time ≤ horizon) :
    (d.advanceTo horizon).screen.page.HasChart := by
  obtain ⟨e, hsteps, hdone, heq⟩ := advanceTo_spec hd horizon
  have hkept := hsteps.invariant (fun d => d.screen.page.HasChart ∨ a ∈ d.agenda)
    (fun {d e} hd hstep hholds => ?_) hd (.inr ha)
  · rw [heq]
    refine hkept.2.resolve_right fun hpending => ?_
    have hlater := (step?_eq_none_iff hkept.1).mp hdone a hpending
    omega
  · obtain ⟨next, rest, hagenda, -, rfl⟩ := (step?_eq_some_iff hd).mp hstep
    obtain ⟨-, hnext⟩ := hd.timely_meet hagenda
    have hproper := Changes.isProper_happen (d.meet next rest) next.lane hnext
    rcases hholds with hchart | hpending
    · exact .inl (hasChart_makeAll hproper hchart)
    · rw [hagenda] at hpending
      rcases List.mem_cons.mp hpending with rfl | hrest
      · exact .inl (hasChart_happen (d := d.meet a rest) hnext hevent)
      · exact .inr (mem_agenda_makeAll.mpr (.inl hrest))

/-! ### The page load that tells -/

def charted : Backend where
  stats _ := .now (.error "")
  miner _ _ := .now (.ok (.found ⟨0, 0, 0, 0, none, some [], []⟩))
  fragment _ _ := .now (.error "")

def someAddress : String := "01234567890"

theorem charted_of_handle (d : Dashboard) (hbackend : d.backend = charted) :
    ∃ a ∈ (d.handle (.address someAddress)).agenda, IsCharted a.event ∧ a.time = d.now := by
  have hlong : isShort someAddress = false := by decide
  let asked := (d.make (.remember (.address someAddress))).ask .stats
  let reply := asked.backend.miner someAddress asked.occasion
  have hreply : reply = .now (.ok (.found ⟨0, 0, 0, 0, none, some [], []⟩)) := by
    show d.backend.miner _ _ = _
    rw [hbackend]
    rfl
  have hminer : .enter (asked.after reply.delay .awaited (.minerArrived someAddress reply)) ∈
      Changes.askMiner asked .awaited := by
    have haddress : asked.session.address = someAddress := rfl
    simp [Changes.askMiner, haddress, hlong, reply]
  have hmem : .enter (asked.after reply.delay .awaited (.minerArrived someAddress reply)) ∈
      Changes.handle d (.address someAddress) := by
    refine List.mem_cons_of_mem _ (List.mem_append_right _ ?_)
    exact List.mem_append_left _ (List.mem_append_right _ hminer)
  rw [handle_eq]
  refine ⟨_, mem_agenda_makeAll.mpr (.inr hmem), ?_, ?_⟩
  · exact ⟨someAddress, reply, _, [], rfl, by rw [hreply]; rfl, rfl⟩
  · rw [hreply]
    rfl

theorem now_start (d : Dashboard) (route : String) : (d.start route).now = d.now := by
  rw [start_eq, makeAll_now]
  rfl

theorem now_handle (d : Dashboard) (command : Command) : (d.handle command).now = d.now := by
  rw [handle_eq, makeAll_now]

/-- Twins of which the second has a chart, and which so far had nothing laid out, show another
number of layouts once all that was pending has come. -/
theorem surface_ne_of_untouched {time : Nat} {x y : Dashboard} {total : Nat} (htotal : 0 < total)
    {n : Nat} (h : Twins (PendingAt time) (Untouched total) n x y)
    (hchart : y.screen.page.HasChart) (htime : x.now ≤ time + longestWait) :
    (x.advanceTo (time + longestWait)).surface ≠ (y.advanceTo (time + longestWait)).surface := by
  obtain ⟨rfl, hsurface⟩ := h.inStep.alike.page
  have halike := h.inStep.alike
  have hpage : LaidOut n n x.screen.page y.screen.page := by
    refine ⟨hchart, Nat.le_refl n, ?_⟩
    rw [Nat.sub_self]
    exact hsurface
  have htwins : Twins (PendingAt time) (LaidOut n) n x y :=
    ⟨⟨⟨halike.settings, halike.mode, halike.epoch, halike.store, halike.file, halike.session,
      halike.agenda, hpage⟩, h.inStep.wellTimed_left, h.inStep.wellTimed_right, h.inStep.told,
      h.inStep.now_le⟩, h.now⟩
  obtain ⟨n', h'⟩ := htwins.advanceTo (compares_laidOut n) (isInert_laidOut time n _) htime
  have hover := lt_time_advanceTo h.inStep.wellTimed_left (time + longestWait)
  obtain ⟨hnone, -⟩ := h'.inStep.alike.agenda.eq_of_forall_not fun a ha hpending =>
    absurd hpending.2.2 (Nat.not_le.mpr (hover a ha))
  obtain ⟨hchart', -, hlaid⟩ := h'.inStep.alike.page
  intro hsame
  have hcharts : (y.advanceTo (time + longestWait)).screen.page.charts =
      ((y.advanceTo (time + longestWait)).screen.page.layAgain (n - n')).charts := by
    have hshown := congrArg Page.charts (hsame.symm.trans hlaid)
    exact hshown
  have hresizes := Page.resizesOf_layAgain hchart' (n - n')
  rw [← hcharts] at hresizes
  omega

theorem waits_eq (hd : d.WellTimed) :
    (d.act (.wait 0)).act (.wait longestWait) =
      (d.advanceTo d.now).advanceTo (d.now + longestWait) := by
  have hnone : waitOf 0 = 0 := rfl
  have hlongest : waitOf longestWait = longestWait := Nat.min_self longestWait
  simp only [act, advance, hnone, hlongest, Nat.add_zero, now_advanceTo hd (Nat.le_refl d.now)]

/-- A page load in which an address is given before anything else happens, and its chart comes at
once. -/
def loadChart (d : Dashboard) : Dashboard :=
  ((d.start "").act (.answers charted)).act (.command (.address someAddress))

theorem now_loadChart (d : Dashboard) : d.loadChart.now = d.now :=
  (now_handle _ _).trans (now_start d "")

theorem twins_loadChart (hd : d.AtRest) :
    Twins (PendingAt d.now) (Untouched d.leftovers.length) d.leftovers.length
      d.shutdown.loadChart d.unvisited.loadChart := by
  have hr := compares_untouched d.leftovers.length
  have hstart := Twins.start_of_akin hr ⟨rfl, rfl⟩ (akin_unvisited d) hd.wellTimed.shutdown
    (wellTimed_unvisited d) (thinned_shutdown d fun _ => pendingAt_of_mem_leftovers hd) ""
  exact (hstart.answers charted).handle hr (.address someAddress)

theorem leftovers_eq_nil_of_tornDown (hd : d.AtRest) (h : d.TornDown) : d.leftovers = [] := by
  rcases Nat.eq_zero_or_pos d.leftovers.length with hnone | hsome
  · exact List.length_eq_zero_iff.mp hnone
  exfalso
  have htwins := twins_loadChart hd
  have hleftnow : d.shutdown.loadChart.now = d.now := now_loadChart d.shutdown
  have hrightnow : d.unvisited.loadChart.now = d.now := now_loadChart d.unvisited
  -- the chart is drawn while all that was left over is still pending
  obtain ⟨n, hdrawn⟩ := htwins.advanceTo (compares_untouched d.leftovers.length)
    (isInert_pendingAt d.now _) (Nat.le_of_eq hleftnow)
  obtain ⟨a, ha, hcharted, htime⟩ :=
    charted_of_handle ((d.unvisited.start "").act (.answers charted)) rfl
  have hdue : a.time ≤ d.now := Nat.le_of_eq (htime.trans (now_start d.unvisited ""))
  have hchart := hasChart_advanceTo htwins.inStep.wellTimed_right ha hcharted hdue
  have hstart : (d.shutdown.loadChart.advanceTo d.now).now ≤ d.now + longestWait := by
    rw [now_advanceTo htwins.inStep.wellTimed_left (Nat.le_of_eq hleftnow)]
    exact Nat.le_add_right ..
  refine surface_ne_of_untouched hsome hdrawn hchart hstart ?_
  have hsame : ((d.shutdown.loadChart.act (.wait 0)).act (.wait longestWait)).surface =
      ((d.unvisited.loadChart.act (.wait 0)).act (.wait longestWait)).surface :=
    h.fresh "" [.answers charted, .command (.address someAddress), .wait 0, .wait longestWait]
  rwa [waits_eq htwins.inStep.wellTimed_left, waits_eq htwins.inStep.wellTimed_right, hleftnow,
    hrightnow] at hsame

/-! ## Every page load -/

/-- Whatever was done to a dashboard before, its page load is torn down exactly if no layout of the
chart is pending.  If some are, neither what it shows after its end nor what the next page load
shows differs in anything but that many layouts of the chart. -/
theorem tornDown_iff (settings : Settings) (mode : Mode) (backend : Backend) (screen : Screen)
    (store : Store) (epoch : Nat) (route : String) (actions : List Action) :
    let d := ((Dashboard.new settings mode backend screen store epoch).start route).live actions
    (d.TornDown ↔ d.leftovers = []) ∧
      (∀ waits : List Nat, ∃ k, k ≤ d.leftovers.length ∧
        (d.shutdown.live (waits.map .wait)).surface = (d.screen.page.layAgain k).surface) ∧
      ∀ (route' : String) (actions' : List Action), ∃ k, k ≤ d.leftovers.length ∧
        ((d.shutdown.start route').live actions').surface =
          (((d.unvisited.start route').live actions').screen.page.layAgain k).surface := by
  intro d
  have hd : d.AtRest :=
    ((atRest_new settings mode backend screen store epoch).start route).live actions
  exact ⟨⟨leftovers_eq_nil_of_tornDown hd, tornDown_of_leftovers_eq_nil hd.wellTimed⟩,
    surface_shutdown hd.wellTimed, surface_restart hd.wellTimed⟩

/-- The page is left half a second after a chart was drawn that is laid out again after a second. -/
theorem layout_outlives_page_load :
    ¬ (((Dashboard.new { Settings.standard with chartSettleMillis := 1000 } .attended charted
      (.memory .blank) ⟨false, some (Table.empty.insert addressKey someAddress)⟩ 0).start "").live
        [.wait 500]).TornDown := by
  intro h
  have hd := ((atRest_new { Settings.standard with chartSettleMillis := 1000 } .attended charted
    (.memory .blank) ⟨false, some (Table.empty.insert addressKey someAddress)⟩ 0).start "").live
      [.wait 500]
  have hnone := congrArg List.isEmpty (leftovers_eq_nil_of_tornDown hd h)
  revert hnone
  decide

end Dashboard
end PoolPage
