import PoolPage.Proofs.Dashboard.Alike

/-!
# Jobs

A `Job` fetches something for the page: the figures of a refresh, the blocks, or what the
profit is computed from.  It comes with the replies that it gets.  Some of them are
fruitless (`Event.isFruitless`): no regions of the page and no parameters come of them.
What comes of a job is then what comes of its other changes (`fruits`), and `Job.spare`
is the job without its failed requests.

A dashboard that does its jobs shows in its regions what one shows that makes the
fruitful changes only (`InStep.perform`).
-/

namespace PoolPage

/-- Something that is fetched for the page, with the replies to it, or time that passes. -/
inductive Job where
  /-- A refresh, either half of which may be left out. -/
  | refresh (pool : Option (Reply PoolStats)) (miner : Option (Reply MinerLookup))
  | blocks (reply : Reply PoolStats)
  | params (reply : Reply PoolStats)
  | pause (ms : Nat)

namespace Dashboard

def facing (d : Dashboard) (backend : Backend) : Dashboard := { d with backend }

/-- Lets a reply be the answer to all questions for the overall figures. -/
def answerStats (d : Dashboard) (reply : Reply PoolStats) : Dashboard :=
  d.facing { d.backend with stats := fun _ => reply }

/-- Lets a reply be the answer to all questions for a miner. -/
def answerMiner (d : Dashboard) (reply : Reply MinerLookup) : Dashboard :=
  d.facing { d.backend with miner := fun _ _ => reply }

/-- The half of a refresh that is about the pool, and how long it takes. -/
def performPool (d : Dashboard) : Option (Reply PoolStats) → Dashboard × Nat
  | some reply => (d.answerStats reply).askPool .awaited
  | none => (d, 0)

/-- The half of a refresh that is about a miner. -/
def performMiner (d : Dashboard) : Option (Reply MinerLookup) → Dashboard × Nat
  | some reply => (d.answerMiner reply).askMiner .awaited
  | none => (d, 0)

def perform (d : Dashboard) : Job → Dashboard
  | .refresh pool miner =>
    let (d, poolDelay) := d.performPool pool
    let (d, minerDelay) := d.performMiner miner
    d.proceed (max poolDelay minerDelay) .awaited (.refreshEnded .visitor)
  | .blocks reply => (d.answerStats reply).askBlocks
  | .params reply => (d.answerStats reply).askParams
  | .pause ms => d.advance ms

def performAll (d : Dashboard) (jobs : List Job) : Dashboard := jobs.foldl perform d

end Dashboard

/-! ## Failures -/

def Reply.failed {α : Type} (reply : Reply α) : Bool :=
  match reply.answer with
  | .ok _ => false
  | .error _ => true

/-- The alert that the reply for a miner raises. -/
def Reply.complaint? (reply : Reply MinerLookup) : Option String :=
  match reply.answer with
  | .error causes => some ("error: " ++ causes)
  | .ok (.failed failure) => some ("could not find miner: " ++ failure.message)
  | .ok (.found _) => none

namespace Event

def complaint? : Event → Option String
  | minerArrived _ reply => reply.complaint?
  | _ => none

/-- Whether no region of the page and nothing that is remembered changes. -/
def isFruitless : Event → Bool
  | refreshEnded .visitor => true
  | poolArrived reply | blocksArrived reply | paramsArrived reply => reply.failed
  | minerArrived _ reply => reply.complaint?.isSome
  | _ => false

end Event

namespace Job

/-! The outside world that a job leaves. -/

def poolWorld (world : Backend) : Option (Reply PoolStats) → Backend
  | some reply => { world with stats := fun _ => reply }
  | none => world

def minerWorld (world : Backend) : Option (Reply MinerLookup) → Backend
  | some reply => { world with miner := fun _ _ => reply }
  | none => world

def world (world : Backend) : Job → Backend
  | refresh pool miner => minerWorld (poolWorld world pool) miner
  | blocks reply | params reply => poolWorld world (some reply)
  | pause _ => world

/-- A job without the requests that fail; none if nothing is left of it.  Without an address there
is no request for a miner. -/
def spare (address : String) : Job → Option Job
  | refresh pool miner =>
    some (refresh (pool.filter fun reply => !reply.failed)
      (miner.filter fun reply => Dashboard.isShort address || reply.complaint?.isNone))
  | blocks reply => if reply.failed then none else some (blocks reply)
  | params reply => if reply.failed then none else some (params reply)
  | pause ms => some (pause ms)

def complaint? (address : String) : Job → Option String
  | refresh _ (some reply) => if Dashboard.isShort address then none else reply.complaint?
  | _ => none

end Job

/-! ## What a job does -/

namespace Changes

open Dashboard

variable (d : Dashboard)

def poolHalf : Option (Reply PoolStats) → List Change
  | some reply => [.ask .stats, .enter (d.after reply.delay .awaited (.poolArrived reply))]
  | none => []

def minerHalf : Option (Reply MinerLookup) → List Change
  | some reply =>
    let address := d.session.address
    if isShort address then [.call (.applyAll MinerPanel.hide)]
    else
      [.ask (.miner address),
       .enter (d.after reply.delay .awaited (.minerArrived address reply))]
  | none => []

def poolTime (pool : Option (Reply PoolStats)) : Nat := (pool.map Reply.delay).getD 0

def minerTime (miner : Option (Reply MinerLookup)) : Nat :=
  if isShort d.session.address then 0 else (miner.map Reply.delay).getD 0

/-- What a job does, but for time that passes. -/
def job : Job → List Change
  | .refresh pool miner =>
    poolHalf d pool ++ minerHalf d miner ++
      [.enter (d.after (max (poolTime pool) (minerTime d miner)) .awaited (.refreshEnded .visitor))]
  | .blocks reply =>
    [.ask .stats, .enter (d.after reply.delay .scheduled (.blocksArrived reply))]
  | .params reply =>
    [.ask .stats, .enter (d.after reply.delay .scheduled (.paramsArrived reply))]
  | .pause _ => []

end Changes

namespace Dashboard

variable (d : Dashboard)

theorem makeAll_facing (backend : Backend) (cs : List Change) :
    (d.facing backend).makeAll cs = (d.makeAll cs).facing backend := by
  induction cs generalizing d with
  | nil => rfl
  | cons c cs ih =>
    have hmake : (d.facing backend).make c = (d.make c).facing backend := by cases c <;> rfl
    rw [makeAll_cons, makeAll_cons, hmake, ih]

theorem performPool_eq (pool : Option (Reply PoolStats)) :
    d.performPool pool =
      ((d.makeAll (Changes.poolHalf d pool)).facing (Job.poolWorld d.backend pool),
        Changes.poolTime pool) := by
  cases pool <;> rfl

theorem performMiner_eq (miner : Option (Reply MinerLookup)) :
    d.performMiner miner =
      ((d.makeAll (Changes.minerHalf d miner)).facing (Job.minerWorld d.backend miner),
        Changes.minerTime d miner) := by
  cases miner with
  | none => simp [performMiner, Changes.minerHalf, Changes.minerTime, facing, Job.minerWorld]
  | some reply =>
    have haddress : (d.answerMiner reply).session.address = d.session.address := rfl
    by_cases h : isShort d.session.address = true
    · simp only [performMiner, askMiner, Changes.minerHalf, Changes.minerTime, haddress, h, if_true]
      rfl
    · simp only [performMiner, askMiner, Changes.minerHalf, Changes.minerTime, haddress, h]
      rfl

/-- A job does its changes; what the outside world says plays no other part. -/
theorem perform_eq (job : Job) (hjob : ∀ ms, job ≠ .pause ms) :
    d.perform job = (d.makeAll (Changes.job d job)).facing (job.world d.backend) := by
  cases job with
  | pause ms => exact absurd rfl (hjob ms)
  | blocks reply => rfl
  | params reply => rfl
  | refresh pool miner =>
    have hhalf : Changes.minerHalf ((d.makeAll (Changes.poolHalf d pool)).facing
        (Job.poolWorld d.backend pool)) miner = Changes.minerHalf d miner := by
      cases pool <;> rfl
    have htime : Changes.minerTime ((d.makeAll (Changes.poolHalf d pool)).facing
        (Job.poolWorld d.backend pool)) miner = Changes.minerTime d miner := by
      cases pool <;> rfl
    simp only [perform, performPool_eq, performMiner_eq, hhalf, htime, makeAll_facing, Changes.job,
      makeAll_append, proceed_eq, after, appointment]
    simp only [facing, makeAll_now]
    rfl

/-- What holds when time has passed, and when a job has made its changes, holds after any job. -/
theorem perform_cases (holds : Dashboard → Prop) (job : Job)
    (hpause : ∀ ms, job = .pause ms → holds (d.advance ms))
    (hjob : holds ((d.makeAll (Changes.job d job)).facing (job.world d.backend))) :
    holds (d.perform job) := by
  cases job with
  | pause ms => exact hpause ms rfl
  | _ =>
    rw [perform_eq d _ (by simp)]
    exact hjob

/-- A refresh with both halves is the one that an address leads to. -/
theorem perform_refresh (pool : Reply PoolStats) (miner : Reply MinerLookup) :
    d.perform (.refresh (some pool) (some miner)) =
      ((d.answerStats pool).answerMiner miner).refresh .visitor := by
  have hchanges : Changes.refresh ((d.answerStats pool).answerMiner miner) .visitor =
      Changes.job d (.refresh (some pool) (some miner)) := by
    by_cases h : isShort d.session.address = true
    · have h' : isShort (((d.answerStats pool).answerMiner miner).ask .stats).session.address =
        true := h
      simp only [Changes.refresh, Changes.job, Changes.askMiner, Changes.minerHalf,
        Changes.minerDelay, Changes.minerTime, h, h', if_true]
      rfl
    · have h' : ¬ isShort (((d.answerStats pool).answerMiner miner).ask .stats).session.address =
        true := h
      simp only [Changes.refresh, Changes.job, Changes.askMiner, Changes.minerHalf,
        Changes.minerDelay, Changes.minerTime, h, h']
      rfl
  rw [perform_eq d _ (by simp), refresh_eq, hchanges]
  exact (makeAll_facing d _ _).symm

end Dashboard

/-! ## Fruits -/

/-- Whether more comes of a change than records, questions and alerts. -/
def Change.isFruitful : Change → Bool
  | enter a => !a.event.isFruitless
  | ask _ => false
  | _ => true

namespace Changes

open Dashboard

variable (d : Dashboard)

def fruits (job : Job) : List Change := (Changes.job d job).filter Change.isFruitful

theorem fruits_spare (job : Job) :
    ((job.spare d.session.address).map (fruits d)).getD [] = fruits d job := by
  cases job with
  | pause ms => rfl
  | blocks reply =>
    cases h : reply.failed <;>
      simp [Job.spare, h, fruits, Changes.job, Change.isFruitful, Event.isFruitless, after,
        appointment]
  | params reply =>
    cases h : reply.failed <;>
      simp [Job.spare, h, fruits, Changes.job, Change.isFruitful, Event.isFruitless, after,
        appointment]
  | refresh pool miner =>
    have hpool : (poolHalf d (pool.filter fun reply => !reply.failed)).filter Change.isFruitful =
        (poolHalf d pool).filter Change.isFruitful := by
      cases pool with
      | none => rfl
      | some reply =>
        cases h : reply.failed <;>
          simp [Option.filter, h, poolHalf, Change.isFruitful, Event.isFruitless, after,
            appointment]
    have hminer : (minerHalf d (miner.filter fun reply =>
        isShort d.session.address || reply.complaint?.isNone)).filter Change.isFruitful =
          (minerHalf d miner).filter Change.isFruitful := by
      cases miner with
      | none => rfl
      | some reply =>
        cases hshort : isShort d.session.address with
        | true => simp [Option.filter]
        | false =>
          cases h : reply.complaint? <;>
            simp [Option.filter, hshort, h, minerHalf, Change.isFruitful, Event.isFruitless, after,
              appointment]
    simp only [Job.spare, Option.map_some, Option.getD_some, fruits, Changes.job,
      List.filter_append, hpool, hminer]
    rfl

theorem isProper_job (job : Job) : ∀ c ∈ Changes.job d job, c.IsProper d.settings d.now := by
  cases job with
  | pause ms => exact isProper_nil d
  | blocks reply => exact isProper_cons d trivial (isProper_enter d (timely_wait rfl))
  | params reply => exact isProper_cons d trivial (isProper_enter d (timely_wait rfl))
  | refresh pool miner =>
    refine isProper_append d (isProper_append d ?_ ?_) (isProper_enter d (timely_wait rfl))
    · cases pool with
      | none => exact isProper_nil d
      | some reply => exact isProper_cons d trivial (isProper_enter d (timely_wait rfl))
    · cases miner with
      | none => exact isProper_nil d
      | some reply =>
        unfold minerHalf
        dsimp only
        split
        · exact isProper_cons d (isProper_show d _) (isProper_nil d)
        · exact isProper_cons d trivial (isProper_enter d (timely_wait rfl))

theorem not_asks_of_enter_mem_job {job : Job} {a : Appointment Event}
    (ha : .enter a ∈ Changes.job d job) : a.event.asks = false := by
  cases job with
  | pause ms => simp [Changes.job] at ha
  | blocks reply =>
    simp only [Changes.job, List.mem_cons, reduceCtorEq, Change.enter.injEq, List.not_mem_nil,
      or_false, false_or] at ha
    rw [ha]
    rfl
  | params reply =>
    simp only [Changes.job, List.mem_cons, reduceCtorEq, Change.enter.injEq, List.not_mem_nil,
      or_false, false_or] at ha
    rw [ha]
    rfl
  | refresh pool miner =>
    simp only [Changes.job, List.mem_append, List.mem_cons, Change.enter.injEq, List.not_mem_nil,
      or_false] at ha
    rcases ha with (hpool | hminer) | hend
    · cases pool with
      | none => simp [poolHalf] at hpool
      | some reply =>
        simp only [poolHalf, List.mem_cons, reduceCtorEq, Change.enter.injEq, List.not_mem_nil,
          or_false, false_or] at hpool
        rw [hpool]
        rfl
    · cases miner with
      | none => simp [minerHalf] at hminer
      | some reply =>
        unfold minerHalf at hminer
        dsimp only at hminer
        split at hminer
        · simp at hminer
        · simp only [List.mem_cons, reduceCtorEq, Change.enter.injEq, List.not_mem_nil, or_false,
            false_or] at hminer
          rw [hminer]
          rfl
    · rw [hend]
      rfl

/-- What a job does depends on the address and the time only. -/
theorem job_congr {d e : Dashboard} (hnow : d.now = e.now)
    (haddress : d.session.address = e.session.address) (job : Job) :
    Changes.job d job = Changes.job e job := by
  cases job with
  | refresh pool miner =>
    have hafter : d.after = e.after := by
      funext delay lane event
      rw [after, after, appointment, appointment, hnow]
    have hpool : poolHalf d pool = poolHalf e pool := by
      cases pool with
      | none => rfl
      | some reply => rw [poolHalf, poolHalf, hafter]
    have hminer : minerHalf d miner = minerHalf e miner := by
      cases miner with
      | none => rfl
      | some reply => rw [minerHalf, minerHalf, hafter, haddress]
    rw [Changes.job, Changes.job, minerTime, minerTime, hpool, hminer, hafter, haddress]
  | pause ms => rfl
  | _ => simp only [Changes.job, after, appointment, hnow]

end Changes

/-! ## The address

Only the visitor gives an address, and the store at a page load. -/

namespace Change

def keepsAddress : Change → Bool
  | remember (.address _) => false
  | _ => true

end Change

namespace Changes

variable (d : Dashboard)

theorem keepsAddress_happen (event : Event) : ∀ c ∈ happen d event, c.keepsAddress = true := by
  intro c hc
  cases c with
  | remember edit =>
    cases edit with
    | address value =>
      exfalso
      cases event with
      | refreshDue turn =>
        simp only [happen, refresh, askPool, askMiner] at hc
        split at hc <;> simp at hc
      | poolArrived reply =>
        cases h : reply.answer <;> simp [happen, receivePool, h] at hc
      | minerArrived address reply =>
        cases h : reply.answer with
        | error causes => simp [happen, receiveMiner, h] at hc
        | ok lookup =>
          simp only [happen, receiveMiner, h, settleChart] at hc
          split at hc <;> simp at hc
      | refreshEnded occurrence =>
        cases occurrence <;> simp [happen, endRefresh, renewTurn] at hc
      | blocksArrived reply =>
        cases h : reply.answer <;> simp [happen, receiveBlocks, h] at hc
      | paramsArrived reply =>
        cases h : reply.answer <;> simp [happen, receiveParams, computeProfit, h] at hc
      | fragmentArrived pageLoad hash reply =>
        simp only [happen, finishNavigation, finishLoad] at hc
        cases hmode : d.mode <;> cases pageLoad <;> simp [hmode] at hc
      | _ => simp [happen, askBlocks, askParams, computeProfit, renewTurn] at hc
    | _ => rfl
  | _ => rfl

theorem keepsAddress_job (job : Job) : ∀ c ∈ Changes.job d job, c.keepsAddress = true := by
  cases job with
  | refresh pool miner =>
    have hpool : ∀ c ∈ poolHalf d pool, c.keepsAddress = true := by
      cases pool <;> simp [poolHalf, Change.keepsAddress]
    have hminer : ∀ c ∈ minerHalf d miner, c.keepsAddress = true := by
      cases miner with
      | none => simp [minerHalf]
      | some reply =>
        unfold minerHalf
        dsimp only
        split <;> simp [Change.keepsAddress]
    refine List.forall_mem_append.mpr ⟨List.forall_mem_append.mpr ⟨hpool, hminer⟩, ?_⟩
    simp [Change.keepsAddress]
  | _ => simp [Changes.job, Change.keepsAddress]

end Changes

namespace Dashboard

variable {d : Dashboard}

theorem address_makeAll {cs : List Change} (hcs : ∀ c ∈ cs, c.keepsAddress = true)
    (d : Dashboard) : (d.makeAll cs).session.address = d.session.address := by
  induction cs generalizing d with
  | nil => rfl
  | cons c cs ih =>
    obtain ⟨hc, hrest⟩ := List.forall_mem_cons.mp hcs
    rw [makeAll_cons, ih hrest]
    cases c with
    | remember edit =>
      cases edit with
      | address value => cases hc
      | _ => rfl
    | _ => rfl

theorem address_advanceTo (hd : d.WellTimed) (horizon : Nat) :
    (d.advanceTo horizon).session.address = d.session.address := by
  obtain ⟨e, hsteps, -, heq⟩ := advanceTo_spec hd horizon
  rw [heq]
  refine (hsteps.invariant (fun e => e.session.address = d.session.address)
    (fun {x y} hx hstep haddress => ?_) hd rfl).2
  obtain ⟨a, rest, -, -, rfl⟩ := (step?_eq_some_iff hx).mp hstep
  rw [address_makeAll (Changes.keepsAddress_happen _ a.event)]
  exact haddress

theorem WellTimed.facing (hd : d.WellTimed) (backend : Backend) : (d.facing backend).WellTimed :=
  ⟨hd.isOrdered, hd.timely⟩

theorem WellTimed.perform (hd : d.WellTimed) (job : Job) : (d.perform job).WellTimed :=
  perform_cases d WellTimed job (fun _ _ => hd.advanceTo _)
    ((hd.makeAll (Changes.isProper_job d job)).facing _)

theorem address_perform (hd : d.WellTimed) (job : Job) :
    (d.perform job).session.address = d.session.address :=
  perform_cases d (fun e => e.session.address = d.session.address) job
    (fun _ _ => address_advanceTo hd _) (address_makeAll (Changes.keepsAddress_job d job) d)

end Dashboard
end PoolPage
