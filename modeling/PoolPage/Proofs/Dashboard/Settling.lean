import PoolPage.Proofs.Dashboard.Ledger
import PoolPage.Proofs.Panel.Layouts

/-!
# The chart settles once

The first answer with a chart creates the miner's chart and orders its second layout; no
other one orders another.  From then on the chart was laid out as often as the window was
resized, and once more when it has settled (`Drawn`).

The chart settles after a wait, and no wait lasts longer than thirty years: of a longer delay the
rest is left out (`chart_settles_early`).
-/

namespace PoolPage

namespace Event

def isSettling : Event → Bool
  | chartSettles => true
  | _ => false

theorem isDuty_of_isSettling (event : Event) (h : event.isSettling = true) :
    event.isDuty = true := by
  cases event <;> first | rfl | cases h

end Event

namespace Happening

/-- Whether a chart comes of a happening. -/
def isCharted (happening : Happening) : Bool := happening.event?.any Event.isCharted

def isResize : Happening → Bool
  | command .resize => true
  | _ => false

/-- How often the chart is laid out after a happening. -/
def lay (happening : Happening) (layouts : Option Nat) : Option Nat :=
  match happening with
  | command .resize | event .chartSettles => layouts.map (· + 1)
  | _ => if happening.isCharted then some (layouts.getD 0) else layouts

theorem lay_some (happening : Happening) (n : Nat) :
    happening.lay (some n) = some (n + (if happening.isResize then 1 else 0) +
      if happening.event?.any Event.isSettling then 1 else 0) := by
  cases happening with
  | command command => cases command <;> rfl
  | event event =>
    cases event with
    | minerArrived address reply => exact ite_self (some n)
    | _ => rfl
  | _ => rfl

end Happening

namespace Dashboard

variable {d e : Dashboard} {happening : Happening} {past : List Incident}

/-! ## What is laid out -/

def layouts (d : Dashboard) : Option Nat := d.screen.page.layouts

theorem layouts_foldl_batch (batch : Option Batch) (page : Page) :
    ((batch.toList.map fun batch => Snapshot.Call.applyAll batch.updates).foldl Screen.change
      page).layouts =
        if batch.any Batch.isCharted then some (page.layouts.getD 0) else page.layouts := by
  cases batch with
  | none => rfl
  | some batch => exact Page.layouts_batch batch page

theorem any_isCharted_batch? (d : Dashboard) (event : Event) :
    (d.batch? event).any Batch.isCharted = event.isCharted := by
  cases event with
  | minerArrived address reply =>
    obtain ⟨answer, delay, records⟩ := reply
    cases answer with
    | error causes => rfl
    | ok lookup => cases lookup <;> rfl
  | refreshDue turn =>
    rw [batch?]
    split <;> rfl
  | poolArrived reply =>
    obtain ⟨answer, delay, records⟩ := reply
    cases answer <;> rfl
  | blocksArrived reply =>
    obtain ⟨answer, delay, records⟩ := reply
    cases answer <;> rfl
  | paramsArrived reply =>
    obtain ⟨answer, delay, records⟩ := reply
    cases answer <;> rfl
  | fragmentArrived pageLoad hash reply =>
    obtain ⟨answer, delay, records⟩ := reply
    cases answer <;> rfl
  | _ => rfl

theorem Goes.layouts_eq (h : d.Goes happening e) (hload : happening.isRestart = false) :
    e.layouts = happening.lay d.layouts := by
  have hcalls : e.layouts =
      ((d.books happening).calls.foldl Screen.change d.screen.page).layouts := by
    show e.screen.page.surface.layouts = _
    rw [h.surface_eq hload]
    rfl
  rw [hcalls]
  cases happening with
  | command command =>
    cases command with
    | address value =>
      show ((if isShort value then [Snapshot.Call.applyAll Batch.noMiner.updates] else []).foldl
        Screen.change d.screen.page).layouts = d.layouts
      split
      · exact Page.layouts_batch .noMiner _
      · rfl
    | resize => exact Page.layouts_resize _
    | pointerMove chart index => exact Page.layouts_pointerMove _ chart index
    | pointerOut chart => exact Page.layouts_pointerOut _ chart
    | _ => rfl
  | event event =>
    by_cases hsettles : event = .chartSettles
    · rw [hsettles]
      exact Page.layouts_resizeChart _
    · have hlay : (Happening.event event).lay d.layouts =
          if event.isCharted then some (d.layouts.getD 0) else d.layouts := by
        cases event <;> first | rfl | exact absurd rfl hsettles
      rw [books, calls_eventBooks d hsettles, layouts_foldl_batch, any_isCharted_batch?, hlay]
      rfl
  | restart route => cases hload
  | _ => rfl

/-! ## What is ordered -/

/-- Only the first chart has another layout ordered. -/
theorem filter_duties_isSettling (d : Dashboard) (hload : happening.isRestart = false) :
    (d.books happening).duties.filter (fun a => a.event.isSettling) =
      if happening.isCharted && !d.session.chartDrawn then
        [d.ordered d.settings.chartSettle .chartSettles]
      else [] := by
  cases happening with
  | event event =>
    have hnext : (d.next? event).toList.filter (fun a => a.event.isSettling) = [] := by
      cases event with
      | refreshEnded occurrence => cases occurrence <;> rfl
      | _ => rfl
    have hdraws : ((Happening.event event).isCharted && !d.session.chartDrawn) =
        d.drawsChart event := rfl
    rw [books, filter_duties_eventBooks rfl, hnext, List.append_nil, hdraws]
    split <;> rfl
  | restart route => cases hload
  | _ => rfl

/-! ## Before and after the first chart -/

/-- The chart was drawn first at a time, and the window was resized so often since. -/
inductive Drawn (d : Dashboard) (first resizes : Nat) : Prop
  /-- The chart is about to settle. -/
  | settling {a : Appointment Event} (hdrawn : d.session.chartDrawn = true)
    (hplanned : d.planned Event.isSettling = [a])
    (htime : a.time = first + waitOf d.settings.chartSettle) (hnow : d.now ≤ a.time)
    (hlayouts : d.layouts = some resizes)
  /-- The chart has settled. -/
  | settled (hdrawn : d.session.chartDrawn = true) (hplanned : d.planned Event.isSettling = [])
    (hnow : first + waitOf d.settings.chartSettle ≤ d.now)
    (hlayouts : d.layouts = some (resizes + 1))

theorem Goes.drawn {first resizes : Nat} (h : d.Goes happening e)
    (hload : happening.isRestart = false) (hd : d.Drawn first resizes) :
    e.Drawn first (resizes + if happening.isResize then 1 else 0) := by
  have hsettings := h.settings_eq
  have hlay := h.layouts_eq hload
  have hnone : d.session.chartDrawn = true → e.session.chartDrawn = true ∧
      (d.books happening).duties.filter (fun a => a.event.isSettling) = [] := by
    intro hdrawn
    rw [h.chartDrawn_eq hload, filter_duties_isSettling d hload, hdrawn, Bool.not_true,
      Bool.and_false]
    exact ⟨Bool.true_or _, rfl⟩
  cases hd with
  | @settling a hdrawn hplanned htime hnow hlayouts =>
    obtain ⟨hdrawn', hduties⟩ := hnone hdrawn
    obtain ⟨hagenda, hkind⟩ := mem_of_planned_eq hplanned
    rw [hlayouts, Happening.lay_some] at hlay
    rcases h.planned_of_singleton Event.isDuty_of_isSettling hload hplanned with
      ⟨hother, hperm⟩ | ⟨rfl, hdone, hperm⟩
    · rw [hduties] at hperm
      rw [hother] at hlay
      exact .settling hdrawn' hperm.eq_singleton (hsettings ▸ htime)
        (h.now_le_time hagenda hnow) hlay
    · have hsettles : (Happening.event a.event).event?.any Event.isSettling = true := hkind
      rw [hduties] at hperm
      rw [hsettles] at hlay
      refine .settled hdrawn' hperm.eq_nil ?_ hlay
      rw [hsettings, ← htime, hdone]
      exact h.now_le
  | settled hdrawn hplanned hnow hlayouts =>
    obtain ⟨hdrawn', hduties⟩ := hnone hdrawn
    obtain ⟨hother, hperm⟩ := h.planned_of_nil Event.isDuty_of_isSettling hload hplanned
    rw [hlayouts, Happening.lay_some, hother] at hlay
    rw [hduties] at hperm
    refine .settled hdrawn' hperm.eq_nil ?_ ?_
    · rw [hsettings]
      exact Nat.le_trans hnow h.now_le
    · rw [hlay, Nat.add_right_comm resizes]
      rfl

/-! ## Every course of a page load -/

variable {since before : List Incident} {first : Incident}

theorem Course.drawn {time resizes : Nat} (h : d.Course past e) (hload : IsOneLoad past)
    (hd : d.Drawn time resizes) :
    e.Drawn time (resizes + past.countP (·.happening.isResize)) := by
  induction h with
  | refl => exact hd
  | go _ hgo ih =>
    obtain ⟨hlast, hbefore⟩ := List.forall_mem_cons.mp hload
    rw [List.countP_cons, ← Nat.add_assoc]
    exact hgo.drawn hlast (ih hbefore)

theorem Drawn.layouts_eq {time resizes : Nat} (h : d.Drawn time resizes) :
    ∃ settled : Bool, d.layouts = some (resizes + if settled then 1 else 0) ∧
      (d.now < time + waitOf d.settings.chartSettle → settled = false) ∧
      (time + waitOf d.settings.chartSettle < d.now ∨
        time + waitOf d.settings.chartSettle = d.now ∧ d.Settled → settled = true) := by
  cases h with
  | @settling a _ hplanned htime hnow hlayouts =>
    refine ⟨false, hlayouts, fun _ => rfl, ?_⟩
    rintro (hlater | ⟨hdue, hsettled⟩)
    · omega
    · have hpending := hsettled a (mem_of_planned_eq hplanned).1
      omega
  | settled _ _ hnow hlayouts =>
    exact ⟨true, hlayouts, fun hearly => absurd hnow (Nat.not_le.mpr hearly), fun _ => rfl⟩

end Dashboard
end PoolPage
