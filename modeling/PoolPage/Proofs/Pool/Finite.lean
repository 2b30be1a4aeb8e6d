import PoolPage.Pool.Decoding
import PoolPage.Proofs.Json.Finite

/-!
# Finite answers

Every number in an answer of the pool that was read is finite.
-/

namespace PoolPage

/-! ## Overall figures -/

/-- All numbers of the overall figures are finite. -/
structure PoolStats.IsFinite (stats : PoolStats) : Prop where
  poolRate : stats.poolRate.isFinite = true
  networkRate : stats.networkRate.isFinite = true
  connectedAddresses : stats.connectedAddresses.isFinite = true
  connectedWorkers : stats.connectedWorkers.isFinite = true
  rates : ∀ point ∈ stats.charts.hashRate, point.rate.isFinite = true
  workers : ∀ values ∈ stats.charts.workers, ∀ x ∈ values, x.isFinite = true
  addresses : ∀ values ∈ stats.charts.addresses, ∀ x ∈ values, x.isFinite = true
  efforts : ∀ block ∈ stats.recentBlocks, block.effort.isFinite = true
  reward : stats.reward.isFinite = true
  payoutWindow : ∀ seconds ∈ stats.payoutWindow, seconds.isFinite = true
  payments : ∀ payment ∈ stats.payments, payment.amount.isFinite = true
  effort : stats.effort.isFinite = true
  feePercent : ∀ percent ∈ stats.feePercent, percent.isFinite = true
  paymentThreshold : ∀ amount ∈ stats.paymentThreshold, amount.isFinite = true

theorem isFinite_ratePoints {points : List ratePointFields.Values}
    (h : ∀ values ∈ points, ratePointFields.AllFinite values) :
    ∀ point ∈ points.map RatePoint.ofValues, point.rate.isFinite = true := by
  rintro point hpoint
  obtain ⟨values, hvalues, rfl⟩ := List.mem_map.mp hpoint
  match values, h values hvalues with
  | (_, _, ()), ⟨_, hrate, _⟩ => exact hrate

theorem PoolStats.isFinite_ofValues : ∀ values : poolStatsFields.Values,
    poolStatsFields.AllFinite values → (PoolStats.ofValues values).IsFinite
  | (_, _, _, _, (_, _, _, ()), _, _, _, _, _, _, _, _, _, _, ()),
    ⟨hpool, hnetwork, haddresses, hworkers, ⟨hrates, hworkerSeries, haddressSeries, _⟩, _, hblocks,
      _, _, hreward, hwindow, hpayments, heffort, hfee, hthreshold, _⟩ =>
    { poolRate := hpool
      networkRate := hnetwork
      connectedAddresses := haddresses
      connectedWorkers := hworkers
      rates := isFinite_ratePoints hrates
      workers := hworkerSeries
      addresses := haddressSeries
      efforts := by
        intro block hblock
        obtain ⟨values, hvalues, rfl⟩ := List.mem_map.mp hblock
        match values, hblocks values hvalues with
        | (_, _, _, _, ()), ⟨_, _, heffort, _⟩ => exact heffort
      reward := hreward
      payoutWindow := hwindow
      payments := by
        intro payment hpayment
        obtain ⟨values, hvalues, rfl⟩ := List.mem_map.mp hpayment
        match values, hpayments values hvalues with
        | (_, _, _, _, ()), ⟨_, _, hamount, _⟩ => exact hamount
      effort := heffort
      feePercent := hfee
      paymentThreshold := hthreshold }

theorem PoolStats.isFinite_of_read {text : String} {stats : PoolStats}
    (h : PoolStats.read text = .ok stats) : stats.IsFinite := by
  unfold PoolStats.read at h
  cases hvalues : Schema.readText (.record poolStatsFields) text with
  | error fault =>
    rw [hvalues] at h
    exact nomatch h
  | ok values =>
    rw [hvalues] at h
    cases h
    exact PoolStats.isFinite_ofValues values
      (Schema.allFinite_readText (.record poolStatsFields) hvalues)

/-! ## Figures of a miner -/

/-- All numbers of a miner's figures are finite. -/
structure MinerStats.IsFinite (stats : MinerStats) : Prop where
  hashRate : stats.hashRate.isFinite = true
  balance : stats.balance.isFinite = true
  pendingBalance : stats.pendingBalance.isFinite = true
  paid : stats.paid.isFinite = true
  pendingEstimate : ∀ amount ∈ stats.pendingEstimate, amount.isFinite = true
  chart : ∀ points ∈ stats.chart, ∀ point ∈ points, point.rate.isFinite = true
  payments : ∀ payment ∈ stats.payments, payment.amount.isFinite = true

theorem MinerStats.isFinite_ofValues : ∀ values : minerStatsFields.Values,
    minerStatsFields.AllFinite values → (MinerStats.ofValues values).IsFinite
  | (_, _, _, _, _, _, _, ()),
    ⟨hrate, hbalance, hpending, hpaid, hestimate, hchart, hpayments, _⟩ =>
    { hashRate := hrate
      balance := hbalance
      pendingBalance := hpending
      paid := hpaid
      pendingEstimate := hestimate
      chart := by
        intro points hpoints
        obtain ⟨values, hvalues, rfl⟩ := Option.map_eq_some_iff.mp hpoints
        exact isFinite_ratePoints (hchart values hvalues)
      payments := by
        intro payment hpayment
        obtain ⟨values, hvalues, rfl⟩ := List.mem_map.mp hpayment
        match values, hpayments values hvalues with
        | (_, _, _, ()), ⟨_, hamount, _⟩ => exact hamount }

theorem MinerLookup.isFinite_of_read {text : String} {stats : MinerStats}
    (h : MinerLookup.read text = .ok (.found stats)) : stats.IsFinite := by
  obtain ⟨_, _, h⟩ := bind_eq_ok_iff.mp h
  split at h
  · exact nomatch h
  · next lookup hlookup =>
    split at h
    · exact nomatch h
    · cases h
      unfold MinerLookup.ofDoc? at hlookup
      split at hlookup
      · exact nomatch hlookup
      · split at hlookup
        · next values hvalues =>
          cases hlookup
          exact MinerStats.isFinite_ofValues values
            (Schema.allFinite_read (.record minerStatsFields) hvalues)
        · exact nomatch hlookup

end PoolPage
