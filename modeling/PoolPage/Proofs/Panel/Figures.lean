import PoolPage.Panel.Blocks
import PoolPage.Panel.Miner
import PoolPage.Panel.Profit
import PoolPage.Proofs.Figure.Numerals
import PoolPage.Proofs.Json.Fields
import PoolPage.Proofs.Pool.Finite

/-!
# Figures of panels

Every figure that the panels write is a finite numeral or the sentinel, except where a product is
written that was not checked: the pool's effort and its part of the network in percent, and the
amounts of a miner that are rounded by scaling them (`answers_show_figures_iff`).
-/

namespace PoolPage

open Figure

/-! ## Texts -/

/-- The units that figures have beside the ticker. -/
def plainUnits : List String :=
  ["", "%", " %", " H/s", " kH/s", " MH/s", " GH/s", " TH/s", "h ", "m ", "m", "s"]

/-- The units that figures have. -/
def figureUnits (ticker : String) : List String := (" " ++ ticker) :: plainUnits

/-- The text of a date or a time of day, or of a number in place of one. -/
def IsClock (text : String) : Prop :=
  ∀ c ∈ text.toList, c.isDigit = true ∨ c ∈ ['-', '+', ':', ' ']

instance (text : String) : Decidable (IsClock text) := List.decidableBAll _ text.toList

/-- A table row of a link and cells with a figure or a date each. -/
def ShowsRow (ticker row : String) : Prop :=
  ∃ target text cells, row = Markup.row (Markup.anchor target text :: cells) ∧
    ∀ cell ∈ cells, ∃ figure, cell = Markup.escape figure ∧
      (IsFigure (figureUnits ticker) figure ∨ IsClock figure)

/-- The figures in the texts, table cells and labels of an update are numerals or sentinels. -/
def Update.ShowsFigures (ticker : String) : Update → Prop
  | .text _ shown => IsFigure (figureUnits ticker) shown
  | .html _ shown => ∃ rows, shown = String.join rows ∧ ∀ row ∈ rows, ShowsRow ticker row
  | .sparkline _ _ hover =>
    (∀ label ∈ hover.labels, IsFigure (figureUnits ticker) label) ∧
      IsFigure (figureUnits ticker) hover.resting
  | .chart _ shown => ∀ label ∈ shown.xLabels, IsClock label
  | .visible _ _ | .normalize _ _ | .resizeChart _ | .alert _ => True

section

variable {ticker : String}

theorem mem_figureUnits {unit : String} (h : unit ∈ plainUnits) : unit ∈ figureUnits ticker :=
  List.mem_cons_of_mem _ h

theorem isFigure_bare {text : String} (h : IsNumeral text.toList) :
    IsFigure (figureUnits ticker) text := by
  have hempty : "" ∈ figureUnits ticker := mem_figureUnits (by decide)
  have hfigure := isFigure_of_isNumeral h hempty
  rwa [String.append_empty] at hfigure

theorem isFigure_natural (n : Nat) : IsFigure (figureUnits ticker) (toString n) :=
  isFigure_bare (isNumeral_toString n)

theorem isFigure_naturalUnit (n : Nat) {unit : String} (h : unit ∈ plainUnits) :
    IsFigure (figureUnits ticker) (toString n ++ unit) :=
  isFigure_of_isNumeral (isNumeral_toString n) (mem_figureUnits h)

theorem isFigure_unavailable : IsFigure (figureUnits ticker) Metric.sentinel :=
  isFigure_sentinel (mem_figureUnits (by decide))

/-! ### Hash rates and durations -/

theorem hashUnits_spec : ∀ entry ∈ hashUnits,
    entry.1.isFinite = true ∧ (1 : Binary64).le entry.1 = true ∧
      " " ++ (entry.2 ++ "H/s") ∈ plainUnits := by
  decide +kernel

theorem isFigure_hashRate {x : Binary64} (h : x.isFinite = true) :
    IsFigure (figureUnits ticker) (Figure.hashRate x) := by
  have hguard : (!x.isFinite) = false := by rw [h]; rfl
  unfold Figure.hashRate Figure.hashCount
  rw [hguard]
  simp only [Bool.false_eq_true, if_false]
  split
  · next scale unit hfind =>
    obtain ⟨hfinite, hone, hunit⟩ := hashUnits_spec _ (List.mem_of_find?_eq_some hfind)
    rw [String.append_assoc, String.append_assoc]
    exact isFigure_of_isNumeral (isNumeral_fixed (Binary64.isFinite_div h hfinite hone) 2)
      (mem_figureUnits hunit)
  · rw [String.append_assoc]
    exact isFigure_of_isNumeral (isNumeral_plain (Binary64.isFinite_round h))
      (mem_figureUnits (by decide))

theorem isFigure_duration (seconds : Binary64) :
    IsFigure (figureUnits ticker) (Figure.duration seconds) := by
  unfold Figure.duration
  split
  · exact isFigure_unavailable
  · simp only
    split
    · rw [String.append_assoc]
      exact (isFigure_naturalUnit _ (by decide)).append (isFigure_naturalUnit _ (by decide))
    · split
      · rw [String.append_assoc]
        exact (isFigure_naturalUnit _ (by decide)).append (isFigure_naturalUnit _ (by decide))
      · exact isFigure_naturalUnit _ (by decide)

/-! ### Amounts -/

theorem isFigure_amountText {amount : Binary64} (h : amount.isFinite = true) :
    IsFigure (figureUnits ticker) (PoolPanel.amountText amount ticker) := by
  unfold PoolPanel.amountText
  rw [String.append_assoc]
  exact isFigure_of_isNumeral (isNumeral_precision h (by decide) (by decide)) List.mem_cons_self

end

/-! ### Metrics -/

/-- A figure that is finite where it is available. -/
def Metric.IsFinite (m : Metric) : Prop := ∀ x, m = .value x → x.isFinite = true

namespace Metric

theorem isFinite_finite (x : Binary64) : (finite x).IsFinite := by
  unfold finite
  split
  · next h =>
    rintro y ⟨⟩
    exact h
  · exact nofun

theorem isFinite_ratio (num den : Binary64) : (ratio num den).IsFinite := by
  unfold ratio
  split
  · exact nofun
  · exact isFinite_finite _

theorem isFinite_per (num den : Metric) : (num.per den).IsFinite := by
  cases num <;> cases den
  · exact isFinite_ratio _ _
  · exact nofun
  · exact nofun
  · exact nofun

theorem isFigure_render {m : Metric} {ticker : String} {f : Binary64 → String} (h : m.IsFinite)
    (hf : ∀ x, x.isFinite = true → IsFigure (figureUnits ticker) (f x)) :
    IsFigure (figureUnits ticker) (m.render f) := by
  cases m with
  | value x => exact hf x (h x rfl)
  | unavailable => exact isFigure_unavailable

end Metric

/-! ### Dates -/

namespace IsClock

theorem append {text text' : String} (h : IsClock text) (h' : IsClock text') :
    IsClock (text ++ text') := by
  unfold IsClock at *
  rw [String.toList_append]
  exact List.forall_mem_append.mpr ⟨h, h'⟩

theorem of_allDigits {text : String} (h : AllDigits text.toList) : IsClock text :=
  fun c hc => .inl (h c hc)

theorem padded (width n : Nat) : IsClock (Moment.padded width n) := by
  refine of_allDigits ?_
  unfold Moment.padded
  rw [String.toList_ofList]
  exact (AllDigits.replicate_zero _).append (.digitsOf n)

theorem yearText (year : Int) : IsClock (Moment.yearText year) := by
  unfold Moment.yearText
  split
  · exact padded 4 _
  · refine append ?_ (padded 4 _)
    split <;> decide

theorem render {f : Moment → String} (hf : ∀ m, IsClock (f m)) (seconds : Int) :
    IsClock (Moment.render f seconds) := by
  unfold Moment.render
  split
  · exact hf _
  · unfold IsClock
    rw [toList_toString_int]
    refine List.forall_mem_append.mpr ⟨?_, fun c hc => .inl (AllDigits.digitsOf _ c hc)⟩
    cases decide (seconds < 0) with
    | false => exact nofun
    | true => exact List.forall_mem_singleton.mpr (.inr List.mem_cons_self)

theorem timeText (m : Moment) : IsClock m.timeText := by
  have hcolon : IsClock ":" := by decide
  exact ((((padded 2 _).append hcolon).append (padded 2 _)).append hcolon).append (padded 2 _)

theorem dateText (m : Moment) : IsClock m.dateText := by
  have hminus : IsClock "-" := by decide
  exact ((((yearText _).append hminus).append (padded 2 _)).append hminus).append (padded 2 _)

theorem dateTimeText (seconds : Int) : IsClock (PoolPage.dateTimeText seconds) := by
  have hblank : IsClock " " := by decide
  exact render (fun m => ((dateText m).append hblank).append (timeText m)) seconds

theorem timeOfDayText (seconds : Int) : IsClock (PoolPage.timeOfDayText seconds) :=
  render timeText seconds

end IsClock

/-! ## Rows -/

theorem escapeChar_of_isDigit {c : Char} (h : c.isDigit = true) : Markup.escapeChar c = [c] := by
  unfold Markup.escapeChar
  split <;> first | exact absurd h (by decide) | rfl

theorem escape_of_allDigits {text : String} (h : AllDigits text.toList) :
    Markup.escape text = text := by
  have hsame : text.toList.flatMap Markup.escapeChar = text.toList.flatMap fun c => [c] :=
    List.flatMap_congr fun c hc => escapeChar_of_isDigit (h c hc)
  rw [Markup.escape, hsame, List.flatMap_singleton', String.ofList_toList]

theorem escape_toString (n : Nat) : Markup.escape (toString n) = toString n := by
  refine escape_of_allDigits ?_
  have hdigits : (toString n).toList = digitsOf n := Nat.toList_repr
  rw [hdigits]
  exact .digitsOf n

section

variable {ticker : String}

/-- A table whose rows have figures and dates in their cells. -/
theorem showsFigures_rows {α : Type} {id : String} {row : α → String} {xs : List α}
    (h : ∀ x ∈ xs, ShowsRow ticker (row x)) :
    (Update.html id (String.join (xs.map row))).ShowsFigures ticker :=
  ⟨_, rfl, List.forall_mem_map.mpr h⟩

theorem showsRow_poolPayment {settings : Settings} {payment : PoolPayment}
    (h : payment.amount.isFinite = true) :
    ShowsRow settings.ticker (PoolPanel.paymentRow settings payment) := by
  refine ⟨_, _, _, rfl, ?_⟩
  simp only [List.forall_mem_cons, List.not_mem_nil, false_implies, implies_true, and_true]
  exact ⟨⟨_, rfl, .inl (isFigure_amountText h)⟩,
    ⟨_, (escape_toString _).symm, .inl (isFigure_natural _)⟩, ⟨_, rfl, .inr (.dateTimeText _)⟩⟩

theorem showsRow_minerPayment {settings : Settings} {payment : MinerPayment}
    (h : payment.amount.isFinite = true) :
    ShowsRow settings.ticker (MinerPanel.paymentRow settings payment) := by
  refine ⟨_, _, _, rfl, ?_⟩
  simp only [List.forall_mem_cons, List.not_mem_nil, false_implies, implies_true, and_true]
  exact ⟨⟨_, rfl, .inl (isFigure_amountText h)⟩, ⟨_, rfl, .inr (.dateTimeText _)⟩⟩

theorem isFigure_percentText {m : Metric} (h : m.IsFinite) :
    IsFigure (figureUnits ticker) (BlocksPanel.percentText m) :=
  Metric.isFigure_render h fun _ hx => (isFigure_fixed_iff (mem_figureUnits (by decide))).mpr hx

theorem showsRow_block {settings : Settings} {block : BlockRow} (h : block.luck.IsFinite) :
    ShowsRow settings.ticker (BlocksPanel.row settings block) := by
  refine ⟨_, _, _, rfl, ?_⟩
  simp only [List.forall_mem_cons, List.not_mem_nil, false_implies, implies_true, and_true]
  exact ⟨⟨_, rfl, .inl (isFigure_percentText h)⟩, ⟨_, rfl, .inr (.dateTimeText _)⟩⟩

/-! ## Panels -/

theorem showsFigures_text? {id : String} {text : Option String}
    (h : ∀ shown ∈ text, IsFigure (figureUnits ticker) shown) :
    ∀ u ∈ PoolPanel.text? id text, u.ShowsFigures ticker := by
  cases text with
  | none => exact List.forall_mem_nil _
  | some shown => exact List.forall_mem_singleton.mpr (h shown rfl)

theorem showsFigures_series {chart text : String} {values : List Binary64}
    {label : Binary64 → String} {current : Binary64}
    (hlabel : ∀ x, x.isFinite = true → IsFigure (figureUnits ticker) (label x))
    (hvalues : ∀ x ∈ values, x.isFinite = true) (hcurrent : current.isFinite = true) :
    ∀ u ∈ PoolPanel.series chart text values label current, u.ShowsFigures ticker := by
  have hresting := hlabel current hcurrent
  have hlabels : ∀ shown ∈ values.map label, IsFigure (figureUnits ticker) shown :=
    List.forall_mem_map.mpr fun x hx => hlabel x (hvalues x hx)
  exact List.forall_mem_cons.mpr ⟨hresting, List.forall_mem_singleton.mpr ⟨hlabels, hresting⟩⟩

theorem isFigure_plain {x : Binary64} (h : x.isFinite = true) :
    IsFigure (figureUnits ticker) (Figure.plain x) :=
  isFigure_bare (isNumeral_plain h)

theorem showsFigures_series? {chart text : String} {values : Option (List Binary64)}
    {current : Binary64} (hvalues : ∀ shown ∈ values, ∀ x ∈ shown, x.isFinite = true)
    (hcurrent : current.isFinite = true) :
    ∀ u ∈ PoolPanel.series? chart text values current, u.ShowsFigures ticker := by
  cases values with
  | none => exact List.forall_mem_nil _
  | some shown => exact showsFigures_series (fun _ => isFigure_plain) (hvalues shown rfl) hcurrent

theorem isFigure_plainAmount {x : Binary64} :
    IsFigure (figureUnits ticker) (Figure.plain x ++ " " ++ ticker) ↔ x.isFinite = true := by
  rw [String.append_assoc]
  exact isFigure_plain_iff List.mem_cons_self

theorem PoolPanel.effort_mem_render (stats : PoolStats) (settings : Settings) :
    Update.text PoolPanel.effort (Figure.fixed (stats.effort * 100) 1 ++ "%") ∈
      PoolPanel.render stats settings := by
  simp only [PoolPanel.render, List.mem_append, List.mem_cons, true_or, or_true]

/-- The overview of the pool writes its effort in percent without checking the product. -/
theorem PoolPanel.showsFigures_iff {stats : PoolStats} (h : stats.IsFinite) (settings : Settings) :
    (∀ u ∈ PoolPanel.render stats settings, u.ShowsFigures settings.ticker) ↔
      (stats.effort * 100).isFinite = true := by
  have heffort : IsFigure (figureUnits settings.ticker)
      (Figure.fixed (stats.effort * 100) 1 ++ "%") ↔ (stats.effort * 100).isFinite = true :=
    isFigure_fixed_iff (mem_figureUnits (by decide))
  rw [← heffort]
  constructor
  · exact fun hall => hall _ (effort_mem_render stats settings)
  · intro hshown
    simp only [PoolPanel.render, List.forall_mem_append]
    have hpercent : "%" ∈ figureUnits settings.ticker := mem_figureUnits (by decide)
    refine ⟨⟨⟨⟨⟨⟨⟨⟨⟨?head, ?rate⟩, ?workers⟩, ?addresses⟩, ?viewport⟩, ?fee⟩, ?minimum⟩, ?window⟩,
      ?block⟩, ?payouts⟩
    case head =>
      exact List.forall_mem_cons.mpr ⟨isFigure_hashRate h.networkRate, List.forall_mem_cons.mpr
        ⟨isFigure_natural _, List.forall_mem_cons.mpr
          ⟨isFigure_natural _, List.forall_mem_singleton.mpr hshown⟩⟩⟩
    case rate =>
      exact showsFigures_series (fun _ => isFigure_hashRate) (List.forall_mem_map.mpr h.rates)
        h.poolRate
    case workers => exact showsFigures_series? h.workers h.connectedWorkers
    case addresses => exact showsFigures_series? h.addresses h.connectedAddresses
    case viewport => exact List.forall_mem_singleton.mpr trivial
    case fee =>
      refine showsFigures_text? (Option.forall_mem_map.mpr fun percent hpresent => ?_)
      exact (isFigure_plain_iff hpercent).mpr (h.feePercent percent hpresent)
    case minimum =>
      refine showsFigures_text? (Option.forall_mem_map.mpr fun amount hpresent => ?_)
      exact isFigure_plainAmount.mpr (h.paymentThreshold amount hpresent)
    case window =>
      refine showsFigures_text? (Option.forall_mem_map.mpr fun seconds _ => ?_)
      exact isFigure_duration seconds
    case block =>
      refine showsFigures_text? ?_
      cases stats.lastBlock with
      | none => exact nofun
      | some last =>
        simp only [lastBlockText?]
        split
        · rintro shown ⟨⟩
          exact isFigure_natural _
        · exact nofun
    case payouts =>
      refine List.forall_mem_singleton.mpr (showsFigures_rows fun payment hpayment => ?_)
      exact showsRow_poolPayment (h.payments payment hpayment)

/-- The amounts of a miner that are rounded by scaling them. -/
structure MinerStats.Scales (stats : MinerStats) : Prop where
  balance : (stats.balance * 100000).isFinite = true
  pendingBalance : (stats.pendingBalance * 100000).isFinite = true
  paid : (stats.paid * 1000).isFinite = true
  pendingEstimate : ∀ amount ∈ stats.pendingEstimate, (amount * 100000).isFinite = true

theorem isFigure_balanceText_iff {amount scale : Binary64} {places : Int} {settings : Settings}
    (hscale : Binary64.pow 10 places = scale) (hfinite : scale.isFinite = true)
    (hone : (1 : Binary64).le scale = true) :
    IsFigure (figureUnits settings.ticker) (MinerPanel.balanceText amount places settings) ↔
      (amount * scale).isFinite = true := by
  rw [MinerPanel.balanceText, isFigure_plainAmount, isFinite_roundTo_iff hscale hfinite hone]

theorem isFigure_fivePlaces_iff {amount : Binary64} {settings : Settings} :
    IsFigure (figureUnits settings.ticker) (MinerPanel.balanceText amount 5 settings) ↔
      (amount * 100000).isFinite = true :=
  isFigure_balanceText_iff (by decide +kernel) (by decide +kernel) (by decide +kernel)

theorem isFigure_threePlaces_iff {amount : Binary64} {settings : Settings} :
    IsFigure (figureUnits settings.ticker) (MinerPanel.balanceText amount 3 settings) ↔
      (amount * 1000).isFinite = true :=
  isFigure_balanceText_iff (by decide +kernel) (by decide +kernel) (by decide +kernel)

/-- The panel of a miner rounds its amounts by scaling them, without checking the products. -/
theorem MinerPanel.showsFigures_iff {stats : MinerStats} (h : stats.IsFinite)
    (settings : Settings) :
    (∀ u ∈ MinerPanel.renderStats stats settings, u.ShowsFigures settings.ticker) ↔
      stats.Scales := by
  simp only [MinerPanel.renderStats, List.forall_mem_append, List.forall_mem_cons]
  constructor
  · rintro ⟨⟨⟨⟨-, hbalance, hpending, hpaid, -⟩, hestimate⟩, -⟩, -⟩
    refine ⟨isFigure_fivePlaces_iff.mp hbalance, isFigure_fivePlaces_iff.mp hpending,
      isFigure_threePlaces_iff.mp hpaid, fun amount hpresent => ?_⟩
    rw [hpresent] at hestimate
    exact isFigure_fivePlaces_iff.mp (hestimate _ (List.mem_singleton_self _))
  · intro hscales
    refine ⟨⟨⟨⟨isFigure_hashRate h.hashRate, isFigure_fivePlaces_iff.mpr hscales.balance,
      isFigure_fivePlaces_iff.mpr hscales.pendingBalance,
      isFigure_threePlaces_iff.mpr hscales.paid, List.forall_mem_nil _⟩, ?estimate⟩, ?drawing⟩,
      ?payouts, trivial, List.forall_mem_nil _⟩
    case estimate =>
      refine showsFigures_text? (Option.forall_mem_map.mpr fun amount hpresent => ?_)
      exact isFigure_fivePlaces_iff.mpr (hscales.pendingEstimate amount hpresent)
    case drawing =>
      cases stats.chart with
      | none => exact List.forall_mem_singleton.mpr trivial
      | some points =>
        refine List.forall_mem_cons.mpr ⟨trivial, List.forall_mem_singleton.mpr ?_⟩
        exact List.forall_mem_map.mpr fun point _ => IsClock.timeOfDayText point.time
    case payouts =>
      exact showsFigures_rows fun payment hpayment =>
        showsRow_minerPayment (h.payments payment hpayment)

/-- The blocks' figures are checked, but for the part of the network in percent. -/
theorem BlocksPanel.showsFigures_iff (blocks : List FoundBlock) (poolRate now : Binary64)
    (shortTerm : Nat) (blockTime : Binary64) (settings : Settings) :
    (∀ u ∈ BlocksPanel.render (BlockLuck.ofBlocks blocks poolRate now shortTerm blockTime) settings,
        u.ShowsFigures settings.ticker) ↔
      ∀ part, BlockLuck.chunkOf blocks now blockTime = .value part →
        (part * 100).isFinite = true := by
  simp only [BlocksPanel.render, List.forall_mem_cons]
  constructor
  · rintro ⟨-, -, -, hchunk, -⟩ part hpart
    have htext : IsFigure (figureUnits settings.ticker) (Figure.fixed (part * 100) 2 ++ " %") := by
      rw [show (BlockLuck.ofBlocks blocks poolRate now shortTerm blockTime).chunk = .value part
        from hpart] at hchunk
      exact hchunk
    exact (isFigure_fixed_iff (mem_figureUnits (by decide))).mp htext
  · intro hpart
    refine ⟨showsFigures_rows ?rows, isFigure_percentText (Metric.isFinite_per _ _),
      isFigure_percentText (Metric.isFinite_per _ _), ?chunk,
      Metric.isFigure_render (Metric.isFinite_per _ _) fun _ => isFigure_hashRate,
      List.forall_mem_nil _⟩
    case rows =>
      exact List.forall_mem_map.mpr fun block _ => showsRow_block (Metric.isFinite_per _ _)
    case chunk =>
      show IsFigure _ ((BlockLuck.chunkOf blocks now blockTime).render _)
      cases hchunk : BlockLuck.chunkOf blocks now blockTime with
      | unavailable => exact isFigure_unavailable
      | value part =>
        exact (isFigure_fixed_iff (mem_figureUnits (by decide))).mpr (hpart part hchunk)

/-- The calculator checks its figure. -/
theorem Profit.showsFigures (input : String) (params : NetworkParams) (blockTime : Binary64) :
    ∀ u ∈ Profit.render input params blockTime, u.ShowsFigures ticker := by
  have hdaily : (Profit.daily (Profit.readRate input) params blockTime).IsFinite := by
    unfold Profit.daily
    split
    · rintro x ⟨⟩
      decide +kernel
    · split
      · exact nofun
      · exact Metric.isFinite_finite _
  exact List.forall_mem_singleton.mpr
    (Metric.isFigure_render hdaily fun _ hx => isFigure_bare (isNumeral_fixed hx 3))

end

/-! ## All panels -/

/-- Every figure of the panels that is made of answers of the pool is a finite numeral or the
sentinel, exactly where the products that are not checked are finite: the pool's effort and its part
of the network times a hundred, and the amounts of a miner times the powers of ten by which they are
rounded. -/
theorem answers_show_figures_iff {body answer : String} {stats : PoolStats} {lookup : MinerLookup}
    (settings : Settings) (now : Binary64) (input : String) (params : NetworkParams)
    (hbody : PoolStats.read body = .ok stats) (hanswer : MinerLookup.read answer = .ok lookup) :
    ((∀ u ∈ PoolPanel.render stats settings, u.ShowsFigures settings.ticker) ↔
        (stats.effort * 100).isFinite = true) ∧
      ((∀ u ∈ MinerPanel.render lookup settings, u.ShowsFigures settings.ticker) ↔
        ∀ miner, lookup = .found miner → miner.Scales) ∧
      ((∀ u ∈ BlocksPanel.render (BlockLuck.ofBlocks stats.recentBlocks stats.poolRate now
            settings.shortTerm settings.blockTime) settings, u.ShowsFigures settings.ticker) ↔
        ∀ part, BlockLuck.chunkOf stats.recentBlocks now settings.blockTime = .value part →
          (part * 100).isFinite = true) ∧
      ∀ u ∈ Profit.render input params settings.blockTime, u.ShowsFigures settings.ticker := by
  refine ⟨PoolPanel.showsFigures_iff (PoolStats.isFinite_of_read hbody) settings, ?_,
    BlocksPanel.showsFigures_iff _ _ _ _ _ _, Profit.showsFigures _ _ _⟩
  cases lookup with
  | failed failure =>
    refine iff_of_true ?_ fun miner h => nomatch h
    exact List.forall_mem_singleton.mpr trivial
  | found miner =>
    refine (MinerPanel.showsFigures_iff (MinerLookup.isFinite_of_read hanswer) settings).trans ?_
    constructor
    · rintro hscales _ ⟨⟩
      exact hscales
    · exact fun hscales => hscales miner rfl

/-- The figures of a pool that has reported only an effort. -/
def PoolStats.ofEffort (effort : Binary64) : PoolStats where
  poolRate := 0
  networkRate := 0
  connectedAddresses := 0
  connectedWorkers := 0
  charts := ⟨[], none, none⟩
  blockCount := 0
  recentBlocks := []
  height := 0
  lastBlock := none
  reward := 0
  payoutWindow := none
  payments := []
  effort
  feePercent := none
  paymentThreshold := none

/-- The figures of a miner of whom nothing was reported. -/
def MinerStats.quiet : MinerStats := ⟨0, 0, 0, 0, none, none, []⟩

theorem answers_show_figures_quiet :
    PoolStats.read "\x7b\"effort\":1\x7d" = .ok (.ofEffort 1) ∧
      MinerLookup.read "\x7b\x7d" = .ok (.found .quiet) ∧
      (∀ u ∈ PoolPanel.render (.ofEffort 1) .standard, u.ShowsFigures Settings.standard.ticker) ∧
      ∀ u ∈ MinerPanel.render (.found .quiet) .standard,
        u.ShowsFigures Settings.standard.ticker := by
  have hbody : PoolStats.read "\x7b\"effort\":1\x7d" = .ok (.ofEffort 1) :=
    toOption_eq_some_iff.mp (by decide +kernel)
  have hanswer : MinerLookup.read "\x7b\x7d" = .ok (.found .quiet) :=
    toOption_eq_some_iff.mp (by decide +kernel)
  obtain ⟨hpool, hminer, -, -⟩ :=
    answers_show_figures_iff .standard 0 "" .unknown hbody hanswer
  refine ⟨hbody, hanswer, hpool.mpr (by decide +kernel), hminer.mpr ?_⟩
  rintro _ ⟨⟩
  exact ⟨by decide +kernel, by decide +kernel, by decide +kernel, nofun⟩

/-- The number 10³⁰⁷. -/
def largeEffort : Binary64 := .finite false ⟨2042 * binadeSize + 3513073812665395, by decide⟩

/-- An effort of 10³⁰⁷ is shown as infinitely many percent. -/
theorem not_showsFigures_largeEffort :
    PoolStats.read "\x7b\"effort\":1e307\x7d" = .ok (.ofEffort largeEffort) ∧
      Update.text PoolPanel.effort "inf%" ∈ PoolPanel.render (.ofEffort largeEffort) .standard ∧
      ¬∀ u ∈ PoolPanel.render (.ofEffort largeEffort) .standard,
        u.ShowsFigures Settings.standard.ticker := by
  have hbody : PoolStats.read "\x7b\"effort\":1e307\x7d" = .ok (.ofEffort largeEffort) :=
    toOption_eq_some_iff.mp (by decide +kernel)
  have htext : Figure.fixed ((PoolStats.ofEffort largeEffort).effort * 100) 1 ++ "%" = "inf%" := by
    decide +kernel
  have hshown := PoolPanel.effort_mem_render (.ofEffort largeEffort) .standard
  rw [htext] at hshown
  refine ⟨hbody, hshown, fun hall => ?_⟩
  exact not_isFigure_positional (x := .infinite false) rfl rfl (hall _ hshown)

end PoolPage
