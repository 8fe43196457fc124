import Mathlib.Data.List.Forall2
import Mathlib.Tactic.Linarith
import Mathlib.Tactic.Positivity
import RiskPulse.VelocityCalculator
import RiskPulse.FloatLaws

namespace RiskPulse.VelocityCalculator

-- The same metric, at most as high.
def Under (metric other : String × PyFloat) : Prop := metric.1 = other.1 ∧ other.2.ge metric.2 = true

instance (metric other : String × PyFloat) : Decidable (Under metric other) := by
  unfold Under
  infer_instance

-- Each metric that has thresholds is at most as high as in the other metrics.
def Below (metrics others : VelocityMetrics) : Prop := List.Forall₂ Under (metricsMap metrics) (metricsMap others)

instance (metrics others : VelocityMetrics) : Decidable (Below metrics others) := by
  unfold Below
  infer_instance

def severityRank (b : ThresholdBreach) : Nat := if b.severity = "critical" then 1 else 0

section Breaches
variable {thresholds : VelocityThresholds} {metric other : String × PyFloat}

theorem checkMetric_name (found : checkMetric thresholds metric = some b) :
    b.metricName = metric.1 ∧ (b.severity = "critical" ∨ b.severity = "warning") := by
  unfold checkMetric at found
  split at found
  · cases found
  · dsimp only at found
    split at found
    · cases found
      exact ⟨rfl,.inl rfl⟩
    · cases found
      exact ⟨rfl,.inr rfl⟩
    · cases found

-- A metric that is higher breaches what the other breaches, or the threshold above it.
theorem checkMetric_raised (under : Under metric other)
    (found : checkMetric thresholds metric = some b) :
    ∃ c, checkMetric thresholds other = some c ∧ c.metricName = b.metricName ∧ severityRank b ≤ severityRank c := by
  obtain ⟨name,higher⟩ := under
  have reaches : ∀ threshold level : Option PyFloat, threshold.filter (fun t => metric.2.ge t) = level → level.isSome = true →
      threshold.filter (fun t => other.2.ge t) = level := by
    intro threshold level reached some
    obtain ⟨t,rfl⟩ := Option.isSome_iff_exists.mp some
    obtain ⟨given,above⟩ := Option.filter_eq_some_iff.mp reached
    exact Option.filter_eq_some_iff.mpr ⟨given,PyFloat.ge_trans above higher⟩
  unfold checkMetric at found ⊢
  rw [← name]
  cases configured : thresholds.get? metric.1 with
  | none =>
    rw [configured] at found
    cases found
  | some config =>
    simp only [configured] at found ⊢
    cases critical : (config.get? "critical").filter fun t => metric.2.ge t with
    | some level =>
      simp only [critical] at found
      cases found
      rw [reaches _ _ critical rfl]
      exact ⟨_,rfl,rfl,le_refl _⟩
    | none =>
      cases warning : (config.get? "warning").filter fun t => metric.2.ge t with
      | none =>
        simp only [critical,warning] at found
        cases found
      | some level =>
        simp only [critical,warning] at found
        cases found
        rw [reaches _ _ warning rfl]
        cases (config.get? "critical").filter fun t => other.2.ge t with
        | some _ => exact ⟨_,rfl,rfl,Nat.zero_le _⟩
        | none => exact ⟨_,rfl,rfl,le_refl _⟩

theorem breach_matched (below : List.Forall₂ Under metrics others)
    (breached : b ∈ metrics.filterMap (checkMetric thresholds)) :
    ∃ c ∈ others.filterMap (checkMetric thresholds), c.metricName = b.metricName ∧ severityRank b ≤ severityRank c := by
  induction below with
  | nil => cases breached
  | @cons metric other _ _ here _ ih =>
    obtain ⟨source,member,found⟩ := List.mem_filterMap.mp breached
    rcases List.mem_cons.mp member with rfl | later
    · obtain ⟨c,matched,same⟩ := checkMetric_raised here found
      exact ⟨c,List.mem_filterMap.mpr ⟨other,List.mem_cons_self,matched⟩,same⟩
    · obtain ⟨c,matched,same⟩ := ih (List.mem_filterMap.mpr ⟨source,later,found⟩)
      obtain ⟨from_,inside,reached⟩ := List.mem_filterMap.mp matched
      exact ⟨c,List.mem_filterMap.mpr ⟨from_,List.mem_cons_of_mem _ inside,reached⟩,same⟩

-- The breaches and the critical ones among them are both at least as many.
theorem breaches_counted (below : List.Forall₂ Under metrics others) :
    (metrics.filterMap (checkMetric thresholds)).length ≤ (others.filterMap (checkMetric thresholds)).length ∧
      severityCount "critical" (metrics.filterMap (checkMetric thresholds)) ≤
        severityCount "critical" (others.filterMap (checkMetric thresholds)) := by
  unfold severityCount
  induction below with
  | nil => exact ⟨le_refl _,le_refl _⟩
  | @cons metric other _ _ here _ ih =>
    cases found : checkMetric thresholds metric with
    | none =>
      rw [List.filterMap_cons_none found]
      cases matched : checkMetric thresholds other with
      | none =>
        rw [List.filterMap_cons_none matched]
        exact ih
      | some c =>
        rw [List.filterMap_cons_some matched,List.length_cons,List.countP_cons]
        exact ⟨Nat.le_succ_of_le ih.1,Nat.le_add_right_of_le ih.2⟩
    | some b =>
      obtain ⟨c,matched,_,rank⟩ := checkMetric_raised here found
      rw [List.filterMap_cons_some found,List.filterMap_cons_some matched,List.length_cons,List.length_cons,
        List.countP_cons,List.countP_cons]
      refine ⟨Nat.succ_le_succ ih.1,Nat.add_le_add ih.2 ?_⟩
      simpa [severityRank] using rank

-- A breach is critical or a warning, never both.
theorem warnings_counted (metrics : List (String × PyFloat)) :
    severityCount "critical" (metrics.filterMap (checkMetric thresholds)) + severityCount "warning" (metrics.filterMap (checkMetric thresholds)) =
      (metrics.filterMap (checkMetric thresholds)).length := by
  unfold severityCount
  rw [List.length_eq_countP_add_countP (fun b : ThresholdBreach => decide (b.severity = "critical"))]
  congr 1
  apply List.countP_congr
  intro b member
  obtain ⟨metric,_,found⟩ := List.mem_filterMap.mp member
  rcases (checkMetric_name found).2 with critical | warning
  · simp [critical]
  · simp [warning]

end Breaches

section Score
variable {f : FloatOperations} {thresholds : VelocityThresholds}

-- The score of so many breaches, before it is cut at one.
def scoreOf (f : FloatOperations) (critical warning : Nat) : PyFloat :=
  f.plus (f.times (.finite critical) (.finite (3 / 10))) (f.times (.finite warning) (.finite (1 / 10)))

theorem ranged_of (positive : x = 0 ∨ 1 / 20 ≤ x) (most : x ≤ 20) : FloatOperations.Ranged x := by
  rcases positive with zero | least
  · exact .inl zero
  · have far : (20 : Rat) ≤ 2 ^ 1000 :=
      le_trans (by norm_num : (20 : Rat) ≤ 2 ^ 5) (pow_le_pow_right₀ (by norm_num) (by norm_num))
    exact .inr ⟨le_trans (one_div_le_one_div_of_le (by norm_num) far) least,le_trans most far⟩

-- A count times its weight is zero, or far from it.
theorem weighed_near (rounded : f.Rounded) (n : Nat) (few : n ≤ 10) (w : Rat) (least : 1 / 10 ≤ w) (most : w ≤ 1) :
    ∃ p, f.times (.finite n) (.finite w) = .finite p ∧ |p - n * w| ≤ n * w / 2 ^ 50 ∧ (p = 0 ∨ 1 / 20 ≤ p) := by
  have count : (n : Rat) ≤ 10 := by exact_mod_cast few
  rcases Nat.eq_zero_or_pos n with rfl | one
  · obtain ⟨p,product,near⟩ := rounded.products (0 : Nat) w (Nat.cast_nonneg 0) (by linarith) (.inl (by rw [Nat.cast_zero,zero_mul]))
    refine ⟨p,product,near,.inl ?_⟩
    rw [Nat.cast_zero,zero_mul,sub_zero,zero_div] at near
    exact abs_nonpos_iff.mp near
  · have some : (1 : Rat) ≤ n := by exact_mod_cast one
    have low : 1 / 10 ≤ (n : Rat) * w := by
      calc (1 / 10 : Rat) ≤ w := least
        _ = 1 * w := (one_mul w).symm
        _ ≤ n * w := mul_le_mul_of_nonneg_right some (by linarith)
    have high : (n : Rat) * w ≤ 10 := by
      calc (n : Rat) * w ≤ n * 1 := mul_le_mul_of_nonneg_left most (by linarith)
        _ = n := mul_one _
        _ ≤ 10 := count
    obtain ⟨p,product,near⟩ := rounded.products n w (by linarith) (by linarith) (ranged_of (.inr (by linarith)) (by linarith))
    refine ⟨p,product,near,.inr ?_⟩
    have under := (abs_le.mp near).1
    linarith

-- It is near three tenths for each critical breach and one for each warning.
theorem scoreOf_near (rounded : f.Rounded) (few : critical + warning ≤ 10) :
    ∃ s, scoreOf f critical warning = .finite s ∧
      |s - (3 * critical + warning : Rat) / 10| ≤ (3 * critical + warning : Rat) / 10 / 2 ^ 48 := by
  obtain ⟨p,weighed,near,first⟩ := weighed_near rounded critical (by omega) (3 / 10) (by norm_num) (by norm_num)
  obtain ⟨q,added,close,second⟩ := weighed_near rounded warning (by omega) (1 / 10) (by norm_num) (by norm_num)
  have total : (critical : Rat) + warning ≤ 10 := by exact_mod_cast few
  have none : (0 : Rat) ≤ critical := Nat.cast_nonneg _
  have none' : (0 : Rat) ≤ warning := Nat.cast_nonneg _
  obtain ⟨least,most⟩ := abs_le.mp near
  obtain ⟨low,high⟩ := abs_le.mp close
  have positive : 0 ≤ p := first.elim (fun zero => zero.ge) (fun more => le_trans (by norm_num) more)
  have positive' : 0 ≤ q := second.elim (fun zero => zero.ge) (fun more => le_trans (by norm_num) more)
  have pieces : p + q = 0 ∨ 1 / 20 ≤ p + q := by
    rcases first with zero | more
    · rw [zero,zero_add]
      exact second
    · exact .inr (by linarith only [more,positive'])
  obtain ⟨s,summed,off⟩ := rounded.sums p q positive positive' (ranged_of pieces (by linarith))
  obtain ⟨under,above⟩ := abs_le.mp off
  refine ⟨s,by rw [scoreOf,weighed,added,summed],abs_le.mpr ⟨?_,?_⟩⟩
  · linarith only [under,least,most,low,high,none,none']
  · linarith only [above,least,most,low,high,none,none']

-- More breaches of which more are critical score at least as high.
theorem scoreOf_mono (rounded : f.Rounded) (more : c + w ≤ critical + warning) (worse : c ≤ critical) (few : critical + warning ≤ 10) :
    (scoreOf f critical warning).ge (scoreOf f c w) = true := by
  obtain ⟨s,same,near⟩ := scoreOf_near rounded (le_trans more few)
  obtain ⟨t,other,close⟩ := scoreOf_near rounded few
  by_cases equal : c = critical ∧ w = warning
  · rw [equal.1,equal.2,other]
    exact (PyFloat.ge_finite _ _).mpr (le_refl _)
  · rw [same,other]
    apply (PyFloat.ge_finite _ _).mpr
    obtain ⟨_,most⟩ := abs_le.mp near
    obtain ⟨least,_⟩ := abs_le.mp close
    have step : 3 * c + w + 1 ≤ 3 * critical + warning := by omega
    have apart : (3 * c + w + 1 : Rat) ≤ 3 * critical + warning := by exact_mod_cast step
    have bounded : (3 * critical + warning : Rat) ≤ 30 := by
      have cap : 3 * critical + warning ≤ 30 := by omega
      exact_mod_cast cap
    linarith

-- The score is what so many breaches of either kind give, cut at one.
theorem computeRiskScore_counts (breaches : List ThresholdBreach) :
    computeRiskScore f breaches = if breaches.isEmpty then .finite 0
      else PyFloat.min (.finite 1) (scoreOf f (severityCount "critical" breaches) (severityCount "warning" breaches)) := rfl

theorem severities_few (thresholds : VelocityThresholds) (metrics : VelocityMetrics) :
    severityCount "critical" (checkThresholds thresholds metrics) + severityCount "warning" (checkThresholds thresholds metrics) ≤ 10 := by
  rw [checkThresholds,warnings_counted]
  exact List.length_filterMap_le _ _

theorem score_unit (rounded : f.Rounded) (metrics : VelocityMetrics) :
    (computeRiskScore f (checkThresholds thresholds metrics)).ge (.finite 0) = true ∧
      (PyFloat.finite 1).ge (computeRiskScore f (checkThresholds thresholds metrics)) = true := by
  rw [computeRiskScore_counts]
  split
  · decide
  · obtain ⟨s,same,near⟩ := scoreOf_near rounded (severities_few thresholds metrics)
    have positive : (0 : Rat) ≤ (3 * (severityCount "critical" (checkThresholds thresholds metrics) : Nat) +
      (severityCount "warning" (checkThresholds thresholds metrics) : Nat)) / 10 := by positivity
    have least := (abs_le.mp near).1
    rw [same,PyFloat.min_finite]
    exact ⟨(PyFloat.ge_finite _ _).mpr (le_min zero_le_one (by linarith)),(PyFloat.ge_finite _ _).mpr (min_le_left _ _)⟩

theorem score_mono (rounded : f.Rounded) (below : Below metrics others) :
    (computeRiskScore f (checkThresholds thresholds others)).ge (computeRiskScore f (checkThresholds thresholds metrics)) = true := by
  obtain ⟨more,worse⟩ : _ ∧ severityCount "critical" (checkThresholds thresholds metrics) ≤
    severityCount "critical" (checkThresholds thresholds others) := breaches_counted below
  rw [← warnings_counted,← warnings_counted] at more
  have higher : (scoreOf f (severityCount "critical" (checkThresholds thresholds others)) (severityCount "warning" (checkThresholds thresholds others))).ge
      (scoreOf f (severityCount "critical" (checkThresholds thresholds metrics)) (severityCount "warning" (checkThresholds thresholds metrics))) = true :=
    scoreOf_mono rounded more worse (severities_few thresholds others)
  rw [computeRiskScore_counts (checkThresholds thresholds metrics)]
  split
  · exact (score_unit rounded others).1
  · rename_i breached
    have present : (checkThresholds thresholds others).isEmpty = false := by
      rw [List.isEmpty_eq_false_iff_exists_mem]
      obtain ⟨b,inside⟩ := List.isEmpty_eq_false_iff_exists_mem.mp (Bool.eq_false_iff.mpr breached)
      obtain ⟨c,matched,_⟩ := breach_matched below inside
      exact ⟨c,matched⟩
    obtain ⟨s,same,_⟩ := scoreOf_near rounded (severities_few thresholds metrics)
    obtain ⟨t,other,_⟩ := scoreOf_near rounded (severities_few thresholds others)
    rw [same,other] at higher
    rw [computeRiskScore_counts,present,if_neg (by decide),same,other,PyFloat.min_finite,PyFloat.min_finite]
    exact (PyFloat.ge_finite _ _).mpr (min_le_min_left 1 ((PyFloat.ge_finite _ _).mp higher))

end Score

-- Under metrics that are at least as high every breach is matched by one that is at least
-- as severe, and the score is at least as high and in the unit interval.
theorem thresholds_monotone (c : VelocityCalculator κ σ τ) (rounded : c.float.Rounded) (below : Below metrics others) :
    (∀ b ∈ (c.scored metrics).breaches, ∃ matched ∈ (c.scored others).breaches,
      matched.metricName = b.metricName ∧ severityRank b ≤ severityRank matched) ∧
    (c.scored others).velocityRiskScore.ge (c.scored metrics).velocityRiskScore = true ∧
    (c.scored metrics).velocityRiskScore.ge (.finite 0) = true ∧ (PyFloat.finite 1).ge (c.scored metrics).velocityRiskScore = true := by
  refine ⟨fun b breached => breach_matched below breached,?_,?_⟩
  · exact score_mono rounded below
  · exact score_unit rounded metrics

-- A few purchases in a minute, and the same with more of them in the day.
def quiet : VelocityMetrics := ⟨3,3,3,3,.finite 900,.finite 900,.finite 900,.finite 900,1,1,.finite 300,.finite 300⟩

def busy : VelocityMetrics := ⟨6,6,6,250,.finite 5200,.finite 5200,.finite 5200,.finite 60000,2,4,.finite 300,.finite 700⟩

def plain : VelocityCalculator String CustomerVelocityProfile.ProfileState ProfiledTransaction :=
  ofProfiles FloatOperations.unrounded (fun _ => none) (fun _ => .error "") none 1

theorem thresholds_monotone_busy : plain.float.Rounded ∧ Below quiet busy ∧
    (plain.scored busy).velocityRiskScore.ge (plain.scored quiet).velocityRiskScore = true ∧
    (plain.scored quiet).breaches.length = 1 := by
  have below : Below quiet busy := by decide +kernel
  exact ⟨FloatOperations.unrounded_rounded,below,
    (thresholds_monotone plain FloatOperations.unrounded_rounded below).2.1,by decide +kernel⟩

end RiskPulse.VelocityCalculator
