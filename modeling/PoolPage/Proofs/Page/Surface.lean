import PoolPage.Page.Screen
import PoolPage.Panel.Miner
import PoolPage.Proofs.Page.Parts

/-!
# What a page shows

The flag `dirty` says nothing about what is shown, and what becomes of the regions of a
page does not depend on its alerts.  So what a call makes of a page as it is seen, with
or without its alerts, depends on what was seen before (`view_change`).

A later layout of the miner's chart (`Page.layAgain`) changes nothing but how often that
chart was laid out.  If the chart is there, a call may be made before or after it
(`change_layAgain`); if it is not, the layout does nothing.
-/

namespace PoolPage
namespace Page

/-- All that a page shows, with or without its alerts. -/
def view (alerts : Bool) (page : Page) : Page :=
  { page with
    alerts := if alerts then page.alerts else []
    dirty := false }

def surface (page : Page) : Page := page.view true

section View

variable (alerts : Bool) (page : Page)

theorem view_apply (u : Update) :
    (page.apply u).view alerts = ((page.view alerts).apply u).view alerts := by
  rw [apply_eq, apply_eq]
  cases alerts <;> rfl

theorem view_applyAll (us : List Update) :
    (page.applyAll us).view alerts = ((page.view alerts).applyAll us).view alerts := by
  induction us generalizing page with
  | nil => cases alerts <;> rfl
  | cons u us ih => rw [applyAll_cons, applyAll_cons, ih, view_apply, ← ih]

theorem view_pointerMove (id : String) (index : Nat) :
    (page.pointerMove id index).view alerts =
      ((page.view alerts).pointerMove id index).view alerts := by
  unfold pointerMove
  simp only [view]
  split
  · split
    · exact view_apply alerts page (.text _ _)
    · cases alerts <;> rfl
  · cases alerts <;> rfl

theorem view_pointerOut (id : String) :
    (page.pointerOut id).view alerts = ((page.view alerts).pointerOut id).view alerts := by
  unfold pointerOut
  simp only [view]
  split
  · exact view_apply alerts page (.text _ _)
  · cases alerts <;> rfl

theorem view_change (c : Snapshot.Call) :
    (Screen.change page c).view alerts = (Screen.change (page.view alerts) c).view alerts := by
  cases c with
  | applyAll us => exact view_applyAll alerts page us
  | apply u => exact view_apply alerts page u
  | pointerMove id index => exact view_pointerMove alerts page id index
  | pointerOut id => exact view_pointerOut alerts page id
  | resize => cases alerts <;> rfl
  | reset => rfl

end View

theorem view_change_congr {alerts : Bool} {page page' : Page}
    (h : page.view alerts = page'.view alerts) (c : Snapshot.Call) :
    (Screen.change page c).view alerts = (Screen.change page' c).view alerts := by
  rw [view_change alerts page, view_change alerts page', h]

theorem surface_change_congr {page page' : Page} (h : page.surface = page'.surface)
    (c : Snapshot.Call) : (Screen.change page c).surface = (Screen.change page' c).surface :=
  view_change_congr h c

/-! ## Layouts of the chart -/

/-- Whether the miner's chart is on the page. -/
def HasChart (page : Page) : Prop := (page.charts.get? MinerPanel.chart).isSome = true

/-- The page with its chart laid out so many times more. -/
def layAgain (page : Page) : Nat → Page
  | 0 => page
  | n + 1 => (page.layAgain n).resizeChart MinerPanel.chart

theorem resizeChart_eq_apply (page : Page) (id : String) :
    page.resizeChart id = page.apply (.resizeChart id) := rfl

theorem surface_layAgain (page : Page) (n : Nat) :
    (page.layAgain n).surface = (page.surface.layAgain n).surface := by
  induction n with
  | zero => rfl
  | succ n ih =>
    unfold surface at ih ⊢
    rw [layAgain, layAgain, resizeChart_eq_apply, resizeChart_eq_apply, view_apply, ih,
      ← view_apply]

theorem layAgain_of_not_hasChart {page : Page} (h : ¬ page.HasChart) (n : Nat) :
    page.layAgain n = page := by
  have hnone : page.charts.get? MinerPanel.chart = none := by
    simpa [HasChart] using h
  induction n with
  | zero => rfl
  | succ n ih =>
    rw [layAgain, ih, resizeChart_eq]
    simp [hnone]

theorem HasChart.setChart {charts : Table ChartSlot} {id : String} {slot : ChartSlot}
    (h : (charts.get? MinerPanel.chart).isSome = true) :
    ((charts.insert id slot).get? MinerPanel.chart).isSome = true := by
  by_cases hid : MinerPanel.chart = id <;> simp [hid, h]

theorem HasChart.apply {page : Page} (h : page.HasChart) (u : Update) :
    (page.apply u).HasChart := by
  unfold HasChart at h ⊢
  rw [apply_eq]
  cases u with
  | chart id new => exact HasChart.setChart h
  | resizeChart id =>
    simp only [Update.onCharts]
    split
    · exact HasChart.setChart h
    · exact h
  | _ => exact h

theorem HasChart.applyAll {page : Page} (h : page.HasChart) (us : List Update) :
    (page.applyAll us).HasChart := by
  induction us generalizing page with
  | nil => exact h
  | cons u us ih => exact ih (h.apply u)

theorem HasChart.change {page : Page} (h : page.HasChart) {c : Snapshot.Call} (hc : c ≠ .reset) :
    (Screen.change page c).HasChart := by
  cases c with
  | applyAll us => exact h.applyAll us
  | apply u => exact h.apply u
  | pointerMove id index =>
    rw [Screen.change, pointerMove]
    split
    · split
      · exact h.apply (.text _ _)
      · exact h
    · exact h
  | pointerOut id =>
    rw [Screen.change, pointerOut]
    split
    · exact h.apply (.text _ _)
    · exact h
  | resize =>
    unfold HasChart at h ⊢
    simpa [Screen.change, resize] using h
  | reset => exact absurd rfl hc

theorem HasChart.layAgain {page : Page} (h : page.HasChart) (n : Nat) :
    (page.layAgain n).HasChart := by
  induction n with
  | zero => exact h
  | succ n ih => exact ih.apply (.resizeChart MinerPanel.chart)

theorem apply_resizeChart {page : Page} (h : page.HasChart) (u : Update) :
    (page.resizeChart MinerPanel.chart).apply u = (page.apply u).resizeChart MinerPanel.chart := by
  obtain ⟨slot, hslot⟩ := Option.isSome_iff_exists.mp h
  have hapart : (Update.resizeChart MinerPanel.chart).Apart u →
      (page.resizeChart MinerPanel.chart).apply u =
        (page.apply u).resizeChart MinerPanel.chart := fun hu => apply_comm hu page
  cases u with
  | chart id new =>
    by_cases hid : MinerPanel.chart = id
    · subst hid
      simp only [resizeChart_eq_apply, apply_eq]
      simp [hslot, Update.resizesOf, Table.insert_insert]
    · exact hapart (.inr ⟨_, _, rfl, rfl, hid⟩)
  | resizeChart id =>
    by_cases hid : MinerPanel.chart = id
    · subst hid
      rfl
    · exact hapart (.inr ⟨_, _, rfl, rfl, hid⟩)
  | _ => exact hapart (.inl (by simp [Update.part]))

theorem applyAll_resizeChart {page : Page} (h : page.HasChart) (us : List Update) :
    (page.resizeChart MinerPanel.chart).applyAll us =
      (page.applyAll us).resizeChart MinerPanel.chart := by
  induction us generalizing page with
  | nil => rfl
  | cons u us ih => rw [applyAll_cons, applyAll_cons, apply_resizeChart h, ih (h.apply u)]

theorem sparklines_resizeChart (page : Page) (id : String) :
    (page.resizeChart id).sparklines = page.sparklines := by
  rw [resizeChart_eq]

theorem change_resizeChart {page : Page} (h : page.HasChart) {c : Snapshot.Call}
    (hc : c ≠ .reset) :
    Screen.change (page.resizeChart MinerPanel.chart) c =
      (Screen.change page c).resizeChart MinerPanel.chart := by
  cases c with
  | applyAll us => exact applyAll_resizeChart h us
  | apply u => exact apply_resizeChart h u
  | pointerMove id index =>
    simp only [Screen.change, pointerMove, sparklines_resizeChart]
    split
    · split
      · exact apply_resizeChart h (.text _ _)
      · rfl
    · rfl
  | pointerOut id =>
    simp only [Screen.change, pointerOut, sparklines_resizeChart]
    split
    · exact apply_resizeChart h (.text _ _)
    · rfl
  | resize =>
    obtain ⟨slot, hslot⟩ := Option.isSome_iff_exists.mp h
    simp only [Screen.change, resize, resizeChart_eq, Update.onCharts, Table.get?_map, hslot,
      Option.map_some]
    congr 1
    refine Table.ext_get? fun id => ?_
    by_cases hid : id = MinerPanel.chart <;> simp [hid]
  | reset => exact absurd rfl hc

/-- A call may be made before or after layouts of the chart, if the chart is there. -/
theorem change_layAgain {page : Page} (h : page.HasChart) {c : Snapshot.Call} (hc : c ≠ .reset)
    (n : Nat) :
    Screen.change (page.layAgain n) c = (Screen.change page c).layAgain n := by
  induction n with
  | zero => rfl
  | succ n ih => rw [layAgain, layAgain, change_resizeChart (h.layAgain n) hc, ih]

theorem resizesOf_layAgain {page : Page} (h : page.HasChart) (n : Nat) :
    Update.resizesOf (page.layAgain n).charts MinerPanel.chart =
      Update.resizesOf page.charts MinerPanel.chart + n := by
  induction n with
  | zero => rfl
  | succ n ih =>
    obtain ⟨slot, hslot⟩ := Option.isSome_iff_exists.mp (h.layAgain n)
    have hold : Update.resizesOf (page.layAgain n).charts MinerPanel.chart = slot.resizes := by
      simp [Update.resizesOf, hslot]
    have hnew : Update.resizesOf (page.layAgain (n + 1)).charts MinerPanel.chart =
        slot.resizes + 1 := by
      rw [layAgain, resizeChart_eq]
      simp [hslot, Update.resizesOf]
    rw [hnew, ← hold, ih]
    omega

end Page
/-! ## Screens -/

namespace Screen

/-- Whether a call on a page that a file shows has the file written. -/
def flushes : Snapshot.Call → Bool
  | .apply _ | .resize => false
  | _ => true

theorem file_call (s : Screen) (c : Snapshot.Call) : (s.call c).1.file = s.file := by
  unfold call
  cases s.file <;> rfl

theorem page_flush (file : Snapshot.File) (page : Page) (records : List Log.Record) :
    (Snapshot.flush file page records).page = page.takeDirty.2 := by
  unfold Snapshot.flush
  dsimp only
  split
  · split <;> rfl
  · rfl

/-- What becomes of a page does not depend on the file, but for the flag. -/
theorem page_call (s : Screen) (c : Snapshot.Call) :
    (s.call c).1.page =
      if s.file.isSome && flushes c then (change s.page c).takeDirty.2 else change s.page c := by
  unfold call
  cases h : s.file with
  | none => simp
  | some file => cases c <;> simp [Snapshot.call, flushes, change, page_flush]

theorem view_call (alerts : Bool) (s : Screen) (c : Snapshot.Call) :
    (s.call c).1.page.view alerts = (change s.page c).view alerts := by
  rw [page_call]
  split <;> rfl

end Screen

end PoolPage
