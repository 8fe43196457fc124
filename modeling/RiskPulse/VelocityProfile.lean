import Mathlib.Algebra.Order.Field.Rat
import Mathlib.Data.List.TakeWhile
import Mathlib.Tactic.Linarith
import RiskPulse.Enrichers
import RiskPulse.Library.Runs
import RiskPulse.ScoringPipeline

namespace RiskPulse

namespace CustomerVelocityProfile

structure TransactionRecord where
  timestamp : Rat
  amount : PyFloat
  merchantId : String

-- The deque of the profile; and everything it has been given: the transactions with the
-- timestamps they came with, all timestamps, and the records that have been evicted.
structure ProfileState where
  records : List TransactionRecord
  added : List TransactionRecord
  given : List Rat
  evicted : List TransactionRecord

-- The two calls with an explicit timestamp, and the clock of the machine.
inductive ProfileAction where
  | addTransaction (amount : PyFloat) (merchantId : String) (timestamp clock : Rat)
  | computeMetrics (currentTime clock : Rat)

def window1Min : Rat := 60
def window5Min : Rat := 300
def window1Hour : Rat := 3600
def window24Hour : Rat := 86400

-- timestamp or time.time()
def orNow (timestamp clock : Rat) : Rat := if timestamp = 0 then clock else timestamp

def expired (currentTime : Rat) (r : TransactionRecord) : Bool := decide (r.timestamp < currentTime - window24Hour)

def evictExpired (currentTime : Rat) (s : ProfileState) : ProfileState :=
  {s with records := s.records.dropWhile (expired currentTime), evicted := s.evicted ++ s.records.takeWhile (expired currentTime)}

def addTransaction (amount : PyFloat) (merchantId : String) (timestamp clock : Rat) (s : ProfileState) : ProfileState :=
  let ts := orNow timestamp clock
  evictExpired ts {s with
    records := s.records ++ [⟨ts,amount,merchantId⟩]
    added := s.added ++ [⟨timestamp,amount,merchantId⟩]
    given := s.given ++ [timestamp]}

-- max() keeps the first of several greatest items.
def maximum : List PyFloat → PyFloat
  | [] => .finite 0
  | first :: rest => rest.foldl (fun best item => if item.greater best then item else best) first

def amounts (records : List TransactionRecord) : List PyFloat := records.map TransactionRecord.amount

def merchants (records : List TransactionRecord) : List String :=
  ((records.map TransactionRecord.merchantId).filter fun id => decide (id ≠ "")).dedup

-- The metrics of the records of the four windows.
def metricsOf (f : FloatArithmetic) (records : Rat → List TransactionRecord) : VelocityMetrics where
  transactionCount1min := (records window1Min).length
  transactionCount5min := (records window5Min).length
  transactionCount1hour := (records window1Hour).length
  transactionCount24hour := (records window24Hour).length
  amountSum1min := f.sum (amounts (records window1Min))
  amountSum5min := f.sum (amounts (records window5Min))
  amountSum1hour := f.sum (amounts (records window1Hour))
  amountSum24hour := f.sum (amounts (records window24Hour))
  uniqueMerchants1hour := (merchants (records window1Hour)).length
  uniqueMerchants24hour := (merchants (records window24Hour)).length
  avgAmount1hour :=
    if records window1Hour = [] then .finite 0
    else f.divide (f.sum (amounts (records window1Hour))) (.finite (records window1Hour).length)
  maxAmount1hour := maximum (amounts (records window1Hour))

-- The records that are not older than the window.
def selected (now : Rat) (records : List TransactionRecord) (window : Rat) : List TransactionRecord :=
  records.filter fun r => decide (now - r.timestamp ≤ window)

def computeMetrics (f : FloatArithmetic) (currentTime clock : Rat) (s : ProfileState) : VelocityMetrics × ProfileState :=
  let now := orNow currentTime clock
  let s := evictExpired now s
  (metricsOf f (selected now s.records),{s with given := s.given ++ [currentTime]})

def step (f : FloatArithmetic) (s : ProfileState) : ProfileAction → ProfileState
  | .addTransaction amount merchantId timestamp clock => addTransaction amount merchantId timestamp clock s
  | .computeMetrics currentTime clock => (computeMetrics f currentTime clock s).2

def start : ProfileState := ⟨[],[],[],[]⟩

-- The transactions added whose timestamp lies in [now - window, now].
def lying (now : Rat) (added : List TransactionRecord) (window : Rat) : List TransactionRecord :=
  added.filter fun r => decide (now - window ≤ r.timestamp ∧ r.timestamp ≤ now)

-- The time asked for is at most a day before the newest timestamp given so far.
def Timely (s : ProfileState) (currentTime : Rat) : Prop := ∀ newest ∈ s.given, newest - window24Hour ≤ currentTime

def windows : List Rat := [window1Min,window5Min,window1Hour,window24Hour]

-- What a call reports is right.
def Reported (f : FloatArithmetic) (s : ProfileState) : ProfileAction → Prop
  | .addTransaction _ _ _ _ => True
  | .computeMetrics currentTime clock =>
    Timely s currentTime → (computeMetrics f currentTime clock s).1 = metricsOf f (lying currentTime s.added)

-- A timestamp is the one given, and the metrics are those of the transactions in the windows.
def Sees (s : ProfileState) : ProfileAction → Prop
  | .addTransaction _ _ timestamp clock => orNow timestamp clock = timestamp
  | .computeMetrics currentTime clock =>
    Timely s currentTime → orNow currentTime clock = currentTime ∧ ∀ window ∈ windows,
      selected currentTime (evictExpired currentTime s).records window = lying currentTime s.added window

-- No timestamp is zero; no record in the deque is later than the time asked for, and none
-- of the evicted ones lies in the day before it.
def Ordered (s : ProfileState) : ProfileAction → Prop
  | .addTransaction _ _ timestamp clock => timestamp ≠ 0 ∨ clock = 0
  | .computeMetrics currentTime clock =>
    Timely s currentTime → (currentTime ≠ 0 ∨ clock = 0) ∧ (∀ r ∈ s.records, r.timestamp ≤ currentTime) ∧
      ∀ r ∈ s.evicted, ¬(currentTime - window24Hour ≤ r.timestamp ∧ r.timestamp ≤ currentTime)

theorem orNow_given (timestamp clock : Rat) : orNow timestamp clock = timestamp ↔ timestamp ≠ 0 ∨ clock = 0 := by
  unfold orNow
  split
  · rename_i zero
    rw [zero]
    simp
  · rename_i other
    simp [other]

-- The deque and what was evicted from it are all the transactions, in their order.
def Filed (s : ProfileState) : Prop := s.added = s.evicted ++ s.records

theorem evictExpired_filed (filed : Filed s) (currentTime : Rat) : Filed (evictExpired currentTime s) := by
  unfold Filed evictExpired
  rw [List.append_assoc,List.takeWhile_append_dropWhile]
  exact filed

theorem step_filed (f : FloatArithmetic) (s : ProfileState) (action : ProfileAction) (filed : Filed s) (sees : Sees s action) :
    Filed (step f s action) := by
  cases action with
  | addTransaction amount merchantId timestamp clock =>
    apply evictExpired_filed
    have given : orNow timestamp clock = timestamp := sees
    unfold Filed at filed ⊢
    rw [given,filed,List.append_assoc]
  | computeMetrics currentTime clock => exact evictExpired_filed filed _

theorem window_bounds : ∀ window ∈ windows, 0 ≤ window ∧ window ≤ window24Hour := by decide +kernel

section Windows
variable {s : ProfileState} {now : Rat}

-- What an eviction at the time asked for takes away is in none of its windows.
theorem selected_evicted (s : ProfileState) (now : Rat) (window : Rat) (short : window ≤ window24Hour) :
    selected now (evictExpired now s).records window = selected now s.records window := by
  have gone : (s.records.takeWhile (expired now)).filter (fun r => decide (now - r.timestamp ≤ window)) = [] := by
    apply List.filter_eq_nil_iff.mpr
    intro r member recently
    have evicted : expired now r = true := List.mem_takeWhile_imp member
    have old := of_decide_eq_true evicted
    have fresh := of_decide_eq_true recently
    linarith
  have whole := congrArg (List.filter fun r => decide (now - r.timestamp ≤ window))
    (List.takeWhile_append_dropWhile (p := expired now) (l := s.records))
  rw [List.filter_append,gone,List.nil_append] at whole
  exact whole

theorem selected_lying (early : ∀ r ∈ s.records, r.timestamp ≤ now) (window : Rat) :
    selected now s.records window = lying now s.records window := by
  apply List.filter_congr
  intro r member
  have before := early r member
  apply decide_eq_decide.mpr
  constructor
  · intro recent
    exact ⟨by linarith,before⟩
  · intro inside
    linarith [inside.1]

theorem evicted_lying (outside : ∀ r ∈ s.evicted, ¬(now - window24Hour ≤ r.timestamp ∧ r.timestamp ≤ now)) (window : Rat)
    (short : window ≤ window24Hour) : lying now s.evicted window = [] := by
  apply List.filter_eq_nil_iff.mpr
  intro r member inside
  obtain ⟨after,before⟩ := of_decide_eq_true inside
  exact outside r member ⟨by linarith,before⟩

theorem ordered_sees (filed : Filed s) (early : ∀ r ∈ s.records, r.timestamp ≤ now)
    (outside : ∀ r ∈ s.evicted, ¬(now - window24Hour ≤ r.timestamp ∧ r.timestamp ≤ now)) (window : Rat)
    (short : window ≤ window24Hour) : selected now (evictExpired now s).records window = lying now s.added window := by
  rw [selected_evicted s now window short,selected_lying early,filed,lying,lying,List.filter_append]
  have none := evicted_lying outside window short
  rw [lying] at none
  rw [none,List.nil_append]

-- A later record would be counted, and an evicted one of the day before is missing.
theorem sees_ordered (filed : Filed s) (same : selected now (evictExpired now s).records window24Hour = lying now s.added window24Hour) :
    (∀ r ∈ s.records, r.timestamp ≤ now) ∧ ∀ r ∈ s.evicted, ¬(now - window24Hour ≤ r.timestamp ∧ r.timestamp ≤ now) := by
  rw [selected_evicted s now window24Hour le_rfl] at same
  have early : ∀ r ∈ s.records, r.timestamp ≤ now := by
    intro r member
    by_contra late
    have counted : r ∈ selected now s.records window24Hour := by
      apply List.mem_filter.mpr
      refine ⟨member,decide_eq_true ?_⟩
      have day := (window_bounds window24Hour (by decide +kernel)).1
      linarith [not_le.mp late]
    rw [same] at counted
    exact late (of_decide_eq_true (List.mem_filter.mp counted).2).2
  refine ⟨early,?_⟩
  rw [selected_lying early,filed,lying,lying,List.filter_append] at same
  have none := List.append_left_eq_self.mp same.symm
  intro r member inside
  exact List.filter_eq_nil_iff.mp none r member (decide_eq_true inside)

end Windows

theorem sees_iff (filed : Filed s) (action : ProfileAction) : Sees s action ↔ Ordered s action := by
  cases action with
  | addTransaction amount merchantId timestamp clock => exact orNow_given timestamp clock
  | computeMetrics currentTime clock =>
    apply forall_congr'
    intro _
    apply and_congr (orNow_given currentTime clock)
    constructor
    · intro sees
      exact sees_ordered filed (sees window24Hour (by decide +kernel))
    · rintro ⟨early,outside⟩ window member
      exact ordered_sees filed early outside window (window_bounds window member).2

theorem sees_reported (f : FloatArithmetic) (s : ProfileState) (action : ProfileAction) (sees : Sees s action) : Reported f s action := by
  cases action with
  | addTransaction amount merchantId timestamp clock => trivial
  | computeMetrics currentTime clock =>
    intro timely
    obtain ⟨given,same⟩ := sees timely
    simp only [windows,List.forall_mem_cons,List.not_mem_nil,IsEmpty.forall_iff,implies_true,and_true] at same
    obtain ⟨minute,five,hour,day⟩ := same
    simp only [computeMetrics,given,metricsOf,minute,five,hour,day]

-- In every run of calls that come in order the metrics are right; and every window holds
-- the right transactions in these runs only.
theorem profile_exact (f : FloatArithmetic) (actions : List ProfileAction) :
    (Runs.Along (step f) Ordered start actions → Runs.Along (step f) (Reported f) start actions) ∧
      (Runs.Along (step f) Sees start actions ↔ Runs.Along (step f) Ordered start actions) := by
  have same : Runs.Along (step f) Sees start actions ↔ Runs.Along (step f) Ordered start actions := by
    constructor
    · exact Runs.along_gives (fun s action filed sees => step_filed f s action filed sees)
        (fun s action filed => (sees_iff filed action).mp) rfl
    · exact Runs.along_gives (fun s action filed ordered => step_filed f s action filed ((sees_iff filed action).mpr ordered))
        (fun s action filed => (sees_iff filed action).mpr) rfl
  refine ⟨fun ordered => ?_,same⟩
  exact Runs.along_imp (sees_reported f) (same.mpr ordered)

-- A transaction of time 200 is counted in the minute before time 100.
theorem later_record_counted : ¬Runs.Along (step .exact) (Reported .exact) start
    [.addTransaction (.finite 5) "MERCH-1" 200 0,.computeMetrics 100 0] := by
  intro given
  obtain ⟨_,reported,_⟩ := given
  have timely : Timely (step .exact start (.addTransaction (.finite 5) "MERCH-1" 200 0)) 100 := by
    intro newest member
    cases List.mem_singleton.mp member
    decide +kernel
  have counts := congrArg VelocityMetrics.transactionCount1min (reported timely)
  exact absurd counts (by decide +kernel)

end CustomerVelocityProfile
end RiskPulse
