import Mathlib.Algebra.Order.Field.Rat
import Mathlib.Tactic.Linarith
import Mathlib.Tactic.Tauto
import RiskPulse.FraudRules
import RiskPulse.Library.FirstMaximum

namespace RiskPulse.FraudRuleEngine
variable (h : FraudRuleHost)

-- The host's arithmetic where it rounds nothing.
structure ExactArithmetic : Prop where
  times : ∀ a b : Rat, h.times (.finite a) (.finite b) = .finite (a * b)
  minus : ∀ a b : Rat, h.minus (.finite a) (.finite b) = .finite (a - b)

-- The parameters of the rule, as numbers.
structure BurstParameters (rule : FraudRule) (silenceHours windowMinutes : Rat) (burstCount : Int) : Prop where
  silence : rule.parameters.silenceHours.getD (.finite 48) = .finite silenceHours
  window : rule.parameters.burstWindowMinutes.getD (.finite 30) = .finite windowMinutes
  count : rule.parameters.burstCount.getD 5 = burstCount

-- The timestamps of the history.
def stamps (recent : List Record) : List AwareTime := recent.filterMap (timestampOf h)

-- Those in the burst window, which ends with the transaction, and those before it.
def inBurst (txnTs : AwareTime) (windowSeconds : Rat) (timestamps : List AwareTime) : List AwareTime :=
  timestamps.filter fun ts => decide (txnTs.totalSeconds ts ≤ windowSeconds)

def beforeBurst (txnTs : AwareTime) (windowSeconds : Rat) (timestamps : List AwareTime) : List AwareTime :=
  timestamps.filter fun ts => decide (windowSeconds < txnTs.totalSeconds ts)

-- The earliest transaction of the burst, and the latest before the window.
def burstStart (txnTs : AwareTime) (windowSeconds : Rat) (timestamps : List AwareTime) : Int :=
  ((inBurst txnTs windowSeconds timestamps).map AwareTime.instant).foldr min txnTs.instant

def lastBefore (txnTs : AwareTime) (windowSeconds : Rat) (timestamps : List AwareTime) : Option Int :=
  ((beforeBurst txnTs windowSeconds timestamps).map AwareTime.instant).max?

-- The seconds from one instant to another.
def secondsBetween (earlier later : Int) : Rat := (later - earlier : Int) / 1000000

section Latest
variable {timestamps : List AwareTime}

theorem latest_instant (timestamps : List AwareTime) : (latest timestamps).map AwareTime.instant = (timestamps.map AwareTime.instant).max? := by
  cases timestamps with
  | nil => rfl
  | cons first rest =>
    have folds : ∀ (rest : List AwareTime) (best : AwareTime),
        (rest.foldl (fun best ts => if best.instant < ts.instant then ts else best) best).instant =
          (rest.map AwareTime.instant).foldl max best.instant := by
      intro rest
      induction rest with
      | nil => exact fun _ => rfl
      | cons ts others ih =>
        intro best
        rw [List.foldl_cons,ih,List.map_cons,List.foldl_cons]
        congr 1
        split
        · rename_i less
          exact (max_eq_right (le_of_lt less)).symm
        · rename_i more
          exact (max_eq_left (not_lt.mp more)).symm
    exact congrArg some (folds rest first)

end Latest

section Burst
variable {h} {rule : FraudRule} {txn ctx : Record} {recent : List Record} {txnTs : AwareTime} {silenceHours windowMinutes : Rat}
  {burstCount last : Int}

-- The counting of the window, in the sorted timestamps or in the history's order.
theorem counted_burst (earlier : ∀ ts ∈ stamps h recent, ts.instant ≤ txnTs.instant) (windowSeconds : Rat) :
    ((stamps h recent).mergeSort fun a b => decide (a.instant ≤ b.instant)).countP
        (fun ts => (PyFloat.finite windowSeconds).ge (.finite |txnTs.totalSeconds ts|)) =
      (inBurst txnTs windowSeconds (stamps h recent)).length := by
  rw [(List.mergeSort_perm _ _).countP_eq,inBurst,← List.countP_eq_length_filter]
  apply List.countP_congr
  intro ts member
  have past : 0 ≤ txnTs.totalSeconds ts := by
    apply div_nonneg _ (by decide +kernel)
    exact_mod_cast sub_nonneg.mpr (earlier ts member)
  rw [PyFloat.ge_finite,abs_of_nonneg past,decide_eq_true_iff]

theorem latest_before (windowSeconds : Rat) (found : lastBefore txnTs windowSeconds (stamps h recent) = some last) :
    ∃ ts, latest (((stamps h recent).mergeSort fun a b => decide (a.instant ≤ b.instant)).filter
        fun ts => (PyFloat.finite (txnTs.totalSeconds ts)).greater (.finite windowSeconds)) = some ts ∧ ts.instant = last := by
  have same : (((stamps h recent).mergeSort fun a b => decide (a.instant ≤ b.instant)).filter
      fun ts => (PyFloat.finite (txnTs.totalSeconds ts)).greater (.finite windowSeconds)).Perm
        (beforeBurst txnTs windowSeconds (stamps h recent)) := (List.mergeSort_perm _ _).filter _
  rw [lastBefore,← FirstMaximum.max?_perm (same.map AwareTime.instant),← latest_instant] at found
  exact Option.map_eq_some_iff.mp found

-- The silence is measured up to the start of the window.
theorem silent_before (exact : ExactArithmetic h) (given : BurstParameters rule silenceHours windowMinutes burstCount)
    (found : lastBefore txnTs (windowMinutes * 60) (stamps h recent) = some last) :
    silent h rule txnTs ctx (.finite (windowMinutes * 60))
        (((stamps h recent).mergeSort fun a b => decide (a.instant ≤ b.instant)).filter
          fun ts => (PyFloat.finite (txnTs.totalSeconds ts)).greater (.finite (windowMinutes * 60))) =
      .ok (!decide (secondsBetween last txnTs.instant - windowMinutes * 60 < silenceHours * 3600)) := by
  obtain ⟨ts,latestTs,same⟩ := latest_before _ found
  rw [silent,latestTs,given.silence,exact.times,← same]
  simp only [exact.minus]
  rfl

theorem stamps_listed (seconds : Rat) (found : lastBefore txnTs seconds (stamps h recent) = some last) :
    recent ≠ [] ∧ ((stamps h recent).mergeSort fun a b => decide (a.instant ≤ b.instant)) ≠ [] := by
  have present : stamps h recent ≠ [] := by
    intro none
    rw [none] at found
    cases found
  constructor
  · intro none
    rw [none] at present
    exact present rfl
  · intro none
    exact present (List.Perm.eq_nil (none ▸ (List.mergeSort_perm _ _).symm))

-- When the rule fires, where the history has an entry before the window.
theorem burst_fires (exact : ExactArithmetic h) (given : BurstParameters rule silenceHours windowMinutes burstCount)
    (dated : timestampOf h txn = some txnTs) (earlier : ∀ ts ∈ stamps h recent, ts.instant ≤ txnTs.instant)
    (found : lastBefore txnTs (windowMinutes * 60) (stamps h recent) = some last) :
    (∃ fired, evalBurstAfterSilence h rule txn ctx recent = .ok (some fired)) ↔
      burstCount ≤ (inBurst txnTs (windowMinutes * 60) (stamps h recent)).length + 1 ∧
        silenceHours * 3600 ≤ secondsBetween last txnTs.instant - windowMinutes * 60 := by
  obtain ⟨listed,sorted⟩ := stamps_listed _ found
  unfold evalBurstAfterSilence
  rw [dated,given.window,given.count,exact.times]
  dsimp only
  rw [show recent.filterMap (timestampOf h) = stamps h recent from rfl,if_neg listed,if_neg sorted,counted_burst earlier]
  split
  · rename_i few
    constructor
    · intro ⟨_,fires⟩
      cases fires
    · intro ⟨many,_⟩
      omega
  · rename_i many
    simp only [silent_before exact given found,bind,Except.bind,pure,Except.pure]
    by_cases short : secondsBetween last txnTs.instant - windowMinutes * 60 < silenceHours * 3600
    · rw [decide_eq_true short]
      simp [not_le.mpr short]
    · rw [decide_eq_false short]
      exact ⟨fun _ => ⟨by omega,not_lt.mp short⟩,fun _ => ⟨_,rfl⟩⟩

-- No transaction of the burst is older than the window, so the window is no longer than
-- the burst is old: the rule never fires where it ought not.
theorem window_gap (positive : 0 ≤ windowMinutes) (last : Int) (timestamps : List AwareTime) :
    secondsBetween last txnTs.instant - windowMinutes * 60 ≤ secondsBetween last (burstStart txnTs (windowMinutes * 60) timestamps) := by
  have least : ∀ instants : List Int, (∀ n ∈ instants, ((txnTs.instant - n : Int) : Rat) / 1000000 ≤ windowMinutes * 60) →
      ((txnTs.instant - instants.foldr min txnTs.instant : Int) : Rat) / 1000000 ≤ windowMinutes * 60 := by
    intro instants
    induction instants with
    | nil =>
      intro _
      rw [List.foldr_nil,sub_self,Int.cast_zero,zero_div]
      exact mul_nonneg positive (by norm_num)
    | cons n rest ih =>
      intro within
      rw [List.foldr_cons]
      rcases min_choice n (rest.foldr min txnTs.instant) with own | other
      · rw [own]
        exact within n List.mem_cons_self
      · rw [other]
        exact ih fun m member => within m (List.mem_cons_of_mem _ member)
  have within := least ((inBurst txnTs (windowMinutes * 60) timestamps).map AwareTime.instant) (by
    intro n member
    obtain ⟨ts,inside,same⟩ := List.mem_map.mp member
    subst same
    exact of_decide_eq_true (List.mem_filter.mp inside).2)
  unfold secondsBetween burstStart
  push_cast at within ⊢
  linarith

-- The rule measures the silence up to the start of the window: it is right where that and
-- the silence up to the burst are both long enough, or neither.
theorem burst_after_silence (exact : ExactArithmetic h) (given : BurstParameters rule silenceHours windowMinutes burstCount)
    (dated : timestampOf h txn = some txnTs) (earlier : ∀ ts ∈ stamps h recent, ts.instant ≤ txnTs.instant)
    (found : lastBefore txnTs (windowMinutes * 60) (stamps h recent) = some last) :
    ((∃ fired, evalBurstAfterSilence h rule txn ctx recent = .ok (some fired)) ↔
      burstCount ≤ (inBurst txnTs (windowMinutes * 60) (stamps h recent)).length + 1 ∧
        silenceHours * 3600 ≤ secondsBetween last (burstStart txnTs (windowMinutes * 60) (stamps h recent))) ↔
    ((inBurst txnTs (windowMinutes * 60) (stamps h recent)).length + 1 < burstCount ∨
      silenceHours * 3600 ≤ min (secondsBetween last txnTs.instant - windowMinutes * 60)
        (secondsBetween last (burstStart txnTs (windowMinutes * 60) (stamps h recent))) ∨
      max (secondsBetween last txnTs.instant - windowMinutes * 60)
        (secondsBetween last (burstStart txnTs (windowMinutes * 60) (stamps h recent))) < silenceHours * 3600) := by
  rw [burst_fires exact given dated earlier found,le_min_iff,max_lt_iff,← not_le,← not_le,← not_le]
  tauto

end Burst

theorem exactHost_arithmetic : ExactArithmetic FraudRuleHost.exact := ⟨fun _ _ => rfl,fun _ _ => rfl⟩

def burstRule : FraudRule where
  id := "FRAUD-TMP-003"
  name := "Burst After Silence"
  category := "temporal"
  severity := "medium"
  confidence := .finite (65 / 100)
  parameters := ⟨none,none,none,none,none,none,none,none,some (.finite 48),some 5,some (.finite 30)⟩

theorem burstRule_parameters : BurstParameters burstRule 48 30 5 := ⟨rfl,rfl,rfl⟩

-- A transaction so many seconds after the epoch.
def momentAt (seconds : Int) : Record := .ofList [("transaction_timestamp",.datetime (seconds * 1000000) (some 0))]

-- Four transactions in the last minute, after a silence of 48 hours and nine minutes.
def lateBurst : List Record := [momentAt 0,momentAt 173340,momentAt 173340,momentAt 173340,momentAt 173340]

theorem lateBurst_last : lastBefore ⟨173400000000,0⟩ (30 * 60) (stamps FraudRuleHost.exact lateBurst) = some 0 := by decide +kernel

theorem lateBurst_earlier : ∀ ts ∈ stamps FraudRuleHost.exact lateBurst, ts.instant ≤ (⟨173400000000,0⟩ : AwareTime).instant := by
  decide +kernel

theorem burst_after_silence_late :
    ((∃ fired, evalBurstAfterSilence FraudRuleHost.exact burstRule (momentAt 173400) .empty lateBurst = .ok (some fired)) ↔
      (5 : Int) ≤ (inBurst ⟨173400000000,0⟩ (30 * 60) (stamps FraudRuleHost.exact lateBurst)).length + 1 ∧
        48 * 3600 ≤ secondsBetween 0 (burstStart ⟨173400000000,0⟩ (30 * 60) (stamps FraudRuleHost.exact lateBurst))) ↔
    ((inBurst ⟨173400000000,0⟩ (30 * 60) (stamps FraudRuleHost.exact lateBurst)).length + 1 < (5 : Int) ∨
      48 * 3600 ≤ min (secondsBetween 0 (⟨173400000000,0⟩ : AwareTime).instant - 30 * 60)
        (secondsBetween 0 (burstStart ⟨173400000000,0⟩ (30 * 60) (stamps FraudRuleHost.exact lateBurst))) ∨
      max (secondsBetween 0 (⟨173400000000,0⟩ : AwareTime).instant - 30 * 60)
        (secondsBetween 0 (burstStart ⟨173400000000,0⟩ (30 * 60) (stamps FraudRuleHost.exact lateBurst))) < 48 * 3600) :=
  burst_after_silence exactHost_arithmetic burstRule_parameters rfl lateBurst_earlier lateBurst_last

theorem late_burst_missed :
    ¬((∃ fired, evalBurstAfterSilence FraudRuleHost.exact burstRule (momentAt 173400) .empty lateBurst = .ok (some fired)) ↔
      (5 : Int) ≤ (inBurst ⟨173400000000,0⟩ (30 * 60) (stamps FraudRuleHost.exact lateBurst)).length + 1 ∧
        48 * 3600 ≤ secondsBetween 0 (burstStart ⟨173400000000,0⟩ (30 * 60) (stamps FraudRuleHost.exact lateBurst))) := by
  rw [burst_fires exactHost_arithmetic burstRule_parameters rfl lateBurst_earlier lateBurst_last]
  decide +kernel

end RiskPulse.FraudRuleEngine
