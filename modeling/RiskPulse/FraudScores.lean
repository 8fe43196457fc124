import Mathlib.Algebra.Order.Floor.Ring
import Mathlib.Data.List.Dedup
import RiskPulse.FraudRules
import RiskPulse.Library.Combination

namespace RiskPulse

-- The tier of a severity; a text that names none is of the lowest.
def severityOrder (severity : String) : Nat :=
  match severity with
  | "medium" => 1
  | "high" => 2
  | "critical" => 3
  | _ => 0

def severityByIndex (index : Int) : String :=
  match index with
  | 1 => "medium"
  | 2 => "high"
  | 3 => "critical"
  | _ => "low"

-- severity_escalation of the rules' configuration
structure SeverityEscalation where
  enabled : Bool
  rulesPerTier : Option Rat

namespace FraudRuleEngine

-- max(_SEVERITY_ORDER.get(m.severity, 0) for m in matches), where there are matches
def maxSeverity (ms : List RuleMatch) : Nat := (ms.map fun m => severityOrder m.severity).foldr max 0

def computeCombinedSeverity (escalation : SeverityEscalation) (ms : List RuleMatch) : Except String String :=
  if ms.isEmpty then .ok "low"
  else if escalation.enabled ∧ 1 < ms.length then
    let rulesPerTier := escalation.rulesPerTier.getD 2
    if rulesPerTier = 0 then .error "integer division or modulo by zero"
    else
      let extraTiers := ⌊((ms.length - 1 : Nat) : Rat) / rulesPerTier⌋
      .ok (severityByIndex (min (maxSeverity ms + extraTiers) 3))
  else .ok (severityByIndex (maxSeverity ms))

def computeCombinedConfidence (h : FloatOperations) (ms : List RuleMatch) : PyFloat :=
  if ms.isEmpty then .finite 0
  else
    let combined := ms.foldl (fun combined m => h.times combined (h.minus (.finite 1) m.confidence)) (.finite 1)
    h.round (h.minus (.finite 1) combined) 4

def computeRuleScore (h : FloatOperations) (ms : List RuleMatch) : PyFloat :=
  if ms.isEmpty then .finite 0
  else
    let combinedConf := computeCombinedConfidence h ms
    let severityWeight := h.divide (.finite (maxSeverity ms)) (.finite 3)
    let categoryDiversity := h.divide (.finite (ms.map RuleMatch.category).dedup.length) (.finite 5)
    let score := h.plus (h.plus (h.times (.finite (1 / 2)) combinedConf) (h.times (.finite (3 / 10)) severityWeight))
      (h.times (.finite (1 / 5)) (PyFloat.min categoryDiversity (.finite 1)))
    h.round (PyFloat.min score (.finite 1)) 4

end FraudRuleEngine

-- Rounding to so many digits that keeps the order, and the ends of the unit interval.
structure DecimalRounding where
  round : Rat → Nat → Rat
  ordered : ∀ a b digits, a ≤ b → round a digits ≤ round b digits
  zero : ∀ digits, round 0 digits = 0
  one : ∀ digits, round 1 digits = 1

def DecimalRounding.rounded (r : DecimalRounding) (x : PyFloat) (digits : Nat) : PyFloat :=
  match x with
  | .finite q => .finite (r.round q digits)
  | other => other

theorem DecimalRounding.rounded_greater (r : DecimalRounding) (a b : PyFloat) (digits : Nat)
    (up : (r.rounded a digits).greater (r.rounded b digits) = true) : a.greater b = true := by
  cases a <;> cases b <;> try exact up
  rename_i p q
  have more := of_decide_eq_true up
  exact decide_eq_true (lt_of_not_ge fun less => absurd (r.ordered p q digits less) (not_le.mpr more))

-- Exact arithmetic with that rounding.
def DecimalRounding.operations (r : DecimalRounding) : FloatOperations :=
  { FloatOperations.exact with
    round := r.rounded
    ordered := r.rounded_greater
    zero := fun digits => congrArg PyFloat.finite (r.zero digits) }

namespace FraudRuleEngine

-- The confidence as a number, where it is one.
def confidenceOf (m : RuleMatch) : Rat :=
  match m.confidence with
  | .finite c => c
  | _ => 0

def Confident (m : RuleMatch) : Prop := m.confidence = .finite (confidenceOf m) ∧ NoisyOr.Chance (confidenceOf m)

-- The index of the combined severity.
def severityIndex (escalation : SeverityEscalation) (ms : List RuleMatch) : Int :=
  if escalation.enabled ∧ 1 < ms.length then min (maxSeverity ms + ⌊((ms.length - 1 : Nat) : Rat) / escalation.rulesPerTier.getD 2⌋) 3
  else maxSeverity ms

def confidence (r : DecimalRounding) (ms : List RuleMatch) : Rat := r.round (NoisyOr.combine (ms.map confidenceOf)) 4

def diversity (ms : List RuleMatch) : Rat := ((ms.map RuleMatch.category).dedup.length : Rat) / 5

def score (r : DecimalRounding) (ms : List RuleMatch) : Rat :=
  r.round (min (1 / 2 * confidence r ms + 3 / 10 * ((maxSeverity ms : Rat) / 3) + 1 / 5 * min (diversity ms) 1) 1) 4

theorem severityOrder_le (severity : String) : severityOrder severity ≤ 3 := by
  unfold severityOrder
  split <;> decide

theorem maxSeverity_le (ms : List RuleMatch) : maxSeverity ms ≤ 3 := by
  induction ms with
  | nil => decide
  | cons m rest ih => exact max_le (severityOrder_le m.severity) ih

theorem maxSeverity_perm (same : ms.Perm others) : maxSeverity ms = maxSeverity others := (same.map _).foldr_eq 0

section Severity
variable {escalation : SeverityEscalation} (tiers : ∀ rules, escalation.rulesPerTier = some rules → 1 ≤ rules)
include tiers

theorem tiers_positive : 0 < escalation.rulesPerTier.getD 2 := by
  cases given : escalation.rulesPerTier with
  | none => norm_num
  | some rules => exact lt_of_lt_of_le zero_lt_one (tiers rules given)

theorem extra_nonneg (n : Nat) : 0 ≤ ⌊(n : Rat) / escalation.rulesPerTier.getD 2⌋ :=
  Int.floor_nonneg.mpr (div_nonneg (Nat.cast_nonneg n) (le_of_lt (tiers_positive tiers)))

theorem severityIndex_range (ms : List RuleMatch) : 0 ≤ severityIndex escalation ms ∧ severityIndex escalation ms ≤ 3 := by
  have most := maxSeverity_le ms
  have extra := extra_nonneg tiers (ms.length - 1)
  unfold severityIndex
  split <;> omega

theorem combinedSeverity_index (ms : List RuleMatch) :
    computeCombinedSeverity escalation ms = .ok (severityByIndex (severityIndex escalation ms)) := by
  unfold computeCombinedSeverity severityIndex
  cases ms with
  | nil => simp [maxSeverity,severityByIndex]
  | cons m rest =>
    rw [if_neg (by simp)]
    split
    · exact if_neg (ne_of_gt (tiers_positive tiers))
    · rfl

-- Another match raises the greatest severity or leaves it, and the extra tiers too.
theorem severityIndex_more (m : RuleMatch) (ms : List RuleMatch) : severityIndex escalation ms ≤ severityIndex escalation (m :: ms) := by
  have more : maxSeverity ms ≤ maxSeverity (m :: ms) := le_max_right _ _
  have most := maxSeverity_le (m :: ms)
  have extra := extra_nonneg tiers ((m :: ms).length - 1)
  have further : ⌊((ms.length - 1 : Nat) : Rat) / escalation.rulesPerTier.getD 2⌋ ≤
      ⌊(((m :: ms).length - 1 : Nat) : Rat) / escalation.rulesPerTier.getD 2⌋ := by
    apply Int.floor_mono
    apply div_le_div_of_nonneg_right _ (le_of_lt (tiers_positive tiers))
    exact_mod_cast Nat.sub_le_sub_right (Nat.le_succ ms.length) 1
  unfold severityIndex
  split
  · rename_i before
    rw [if_pos ⟨before.1,Nat.lt_succ_of_lt before.2⟩]
    omega
  · split <;> omega

end Severity

theorem severityIndex_perm (escalation : SeverityEscalation) (same : ms.Perm others) :
    severityIndex escalation ms = severityIndex escalation others := by
  rw [severityIndex,severityIndex,maxSeverity_perm same,same.length_eq]

theorem severityByIndex_order (index : Int) (low : 0 ≤ index) (high : index ≤ 3) : (severityOrder (severityByIndex index) : Int) = index := by
  have cases : index = 0 ∨ index = 1 ∨ index = 2 ∨ index = 3 := by omega
  obtain same | same | same | same := cases <;> subst same <;> rfl

theorem combinedSeverity_more (tiers : ∀ rules, escalation.rulesPerTier = some rules → 1 ≤ rules) (m : RuleMatch) (first later : List RuleMatch) :
    ∃ before after, computeCombinedSeverity escalation (first ++ later) = .ok before ∧
      computeCombinedSeverity escalation (first ++ m :: later) = .ok after ∧ severityOrder before ≤ severityOrder after := by
  have least := severityIndex_range tiers (first ++ later)
  have raised := severityIndex_range tiers (m :: (first ++ later))
  have more := severityIndex_more tiers m (first ++ later)
  refine ⟨_,_,combinedSeverity_index tiers _,combinedSeverity_index tiers _,?_⟩
  rw [severityIndex_perm escalation (List.perm_middle : (first ++ m :: later).Perm (m :: (first ++ later)))]
  have before := severityByIndex_order _ least.1 least.2
  have after := severityByIndex_order _ raised.1 raised.2
  omega

section Confidence
variable (r : DecimalRounding) {ms others : List RuleMatch}

theorem combined_none (confident : ∀ m ∈ ms, Confident m) (start : Rat) :
    ms.foldl (fun combined m => r.operations.times combined (r.operations.minus (.finite 1) m.confidence)) (.finite start) =
      .finite (start * NoisyOr.none (ms.map confidenceOf)) := by
  induction ms generalizing start with
  | nil =>
    rw [List.map_nil,NoisyOr.none,List.map_nil,List.prod_nil,mul_one]
    rfl
  | cons m rest ih =>
    rw [List.foldl_cons,(confident m List.mem_cons_self).1,List.map_cons,NoisyOr.none_cons,← mul_assoc]
    exact ih (fun other member => confident other (List.mem_cons_of_mem _ member)) _

theorem combinedConfidence_exact (confident : ∀ m ∈ ms, Confident m) :
    computeCombinedConfidence r.operations ms = .finite (confidence r ms) := by
  cases ms with
  | nil => exact congrArg PyFloat.finite (by simp [confidence,NoisyOr.combine,NoisyOr.none,r.zero])
  | cons m rest =>
    unfold computeCombinedConfidence
    rw [if_neg (by simp),combined_none r confident 1,one_mul]
    rfl

theorem ruleScore_exact (confident : ∀ m ∈ ms, Confident m) : computeRuleScore r.operations ms = .finite (score r ms) := by
  cases empty : ms with
  | nil =>
    have nothing : diversity [] = 0 := by simp [diversity]
    exact congrArg PyFloat.finite (by simp [score,confidence,nothing,maxSeverity,NoisyOr.combine,NoisyOr.none,r.zero])
  | cons m rest =>
    rw [← empty]
    unfold computeRuleScore
    rw [if_neg (by simp [empty]),combinedConfidence_exact r confident]
    change r.rounded (PyFloat.min (r.operations.plus _ (r.operations.times _ (PyFloat.min (.finite (diversity ms)) _))) _) 4 = _
    rw [PyFloat.min_finite]
    change r.rounded (PyFloat.min (.finite _) _) 4 = _
    rw [PyFloat.min_finite]
    rfl

theorem chances (confident : ∀ m ∈ ms, Confident m) : ∀ p ∈ ms.map confidenceOf, NoisyOr.Chance p := by
  intro p member
  obtain ⟨m,present,same⟩ := List.mem_map.mp member
  exact same ▸ (confident m present).2

theorem confidence_range (confident : ∀ m ∈ ms, Confident m) : NoisyOr.Chance (confidence r ms) := by
  obtain ⟨low,high⟩ := NoisyOr.combine_chance _ (chances confident)
  have least := r.ordered _ _ 4 low
  have most := r.ordered _ _ 4 high
  rw [r.zero] at least
  rw [r.one] at most
  exact ⟨least,most⟩

theorem confidence_perm (same : ms.Perm others) : confidence r ms = confidence r others := by
  rw [confidence,confidence,NoisyOr.combine_perm (same.map _)]

theorem confidence_more (m : RuleMatch) (own : Confident m) (confident : ∀ m ∈ ms, Confident m) :
    confidence r ms ≤ confidence r (m :: ms) :=
  r.ordered _ _ 4 (NoisyOr.combine_more _ _ own.2 (chances confident))

theorem diversity_more (m : RuleMatch) (ms : List RuleMatch) : diversity ms ≤ diversity (m :: ms) := by
  apply div_le_div_of_nonneg_right _ (by norm_num)
  have fewer : (ms.map RuleMatch.category).dedup.length ≤ ((m :: ms).map RuleMatch.category).dedup.length := by
    rw [List.map_cons,List.dedup_cons]
    split
    · exact le_refl _
    · exact Nat.le_succ _
  exact_mod_cast fewer

theorem score_range (confident : ∀ m ∈ ms, Confident m) : NoisyOr.Chance (score r ms) := by
  have severity : (0 : Rat) ≤ (maxSeverity ms : Rat) / 3 := div_nonneg (Nat.cast_nonneg _) (by norm_num)
  have several : (0 : Rat) ≤ min (diversity ms) 1 := le_min (div_nonneg (Nat.cast_nonneg _) (by norm_num)) zero_le_one
  have whole := (confidence_range r confident).1
  have least := r.ordered 0 (min (1 / 2 * confidence r ms + 3 / 10 * ((maxSeverity ms : Rat) / 3) + 1 / 5 * min (diversity ms) 1) 1) 4
    (le_min (by linarith) zero_le_one)
  have most := r.ordered (min (1 / 2 * confidence r ms + 3 / 10 * ((maxSeverity ms : Rat) / 3) + 1 / 5 * min (diversity ms) 1) 1) 1 4
    (min_le_right _ _)
  rw [r.zero] at least
  rw [r.one] at most
  exact ⟨least,most⟩

theorem score_perm (same : ms.Perm others) : score r ms = score r others := by
  have several : diversity ms = diversity others := by rw [diversity,diversity,(same.map _).dedup.length_eq]
  rw [score,score,confidence_perm r same,maxSeverity_perm same,several]

theorem score_more (m : RuleMatch) (own : Confident m) (confident : ∀ m ∈ ms, Confident m) : score r ms ≤ score r (m :: ms) := by
  have sure := confidence_more r m own confident
  have severe : (maxSeverity ms : Rat) / 3 ≤ (maxSeverity (m :: ms) : Rat) / 3 := by
    apply div_le_div_of_nonneg_right _ (by norm_num)
    exact_mod_cast le_max_right (severityOrder m.severity) (maxSeverity ms)
  have several : min (diversity ms) 1 ≤ min (diversity (m :: ms)) 1 := min_le_min_right _ (diversity_more m ms)
  exact r.ordered _ _ 4 (min_le_min_right _ (by linarith))

end Confidence

-- The laws of the three scores of a list of matches.
theorem score_laws (r : DecimalRounding) (escalation : SeverityEscalation)
    (tiers : ∀ rules, escalation.rulesPerTier = some rules → 1 ≤ rules) (ms : List RuleMatch) (confident : ∀ m ∈ ms, Confident m) :
    (∃ c s, computeCombinedConfidence r.operations ms = .finite c ∧ computeRuleScore r.operations ms = .finite s ∧
      (0 ≤ c ∧ c ≤ 1) ∧ 0 ≤ s ∧ s ≤ 1) ∧
    (∀ others, ms.Perm others → computeCombinedSeverity escalation others = computeCombinedSeverity escalation ms ∧
      computeCombinedConfidence r.operations others = computeCombinedConfidence r.operations ms ∧
      computeRuleScore r.operations others = computeRuleScore r.operations ms) ∧
    ∀ first later m, ms = first ++ later → Confident m → ∃ before after,
      computeCombinedSeverity escalation ms = .ok before ∧ computeCombinedSeverity escalation (first ++ m :: later) = .ok after ∧
      severityOrder before ≤ severityOrder after ∧
      (computeCombinedConfidence r.operations (first ++ m :: later)).ge (computeCombinedConfidence r.operations ms) = true ∧
      (computeRuleScore r.operations (first ++ m :: later)).ge (computeRuleScore r.operations ms) = true := by
  refine ⟨?_,?_,?_⟩
  · exact ⟨_,_,combinedConfidence_exact r confident,ruleScore_exact r confident,confidence_range r confident,score_range r confident⟩
  · intro others same
    have sure : ∀ m ∈ others, Confident m := fun m member => confident m (same.mem_iff.mpr member)
    rw [combinedSeverity_index tiers,combinedSeverity_index tiers,severityIndex_perm escalation same,combinedConfidence_exact r sure,
      combinedConfidence_exact r confident,confidence_perm r same,ruleScore_exact r sure,ruleScore_exact r confident,score_perm r same]
    exact ⟨rfl,rfl,rfl⟩
  · intro first later m split own
    subst split
    have moved : (first ++ m :: later).Perm (m :: (first ++ later)) := List.perm_middle
    have sure : ∀ other ∈ first ++ m :: later, Confident other := by
      intro other member
      rcases List.mem_cons.mp (moved.mem_iff.mp member) with same | old
      · exact same ▸ own
      · exact confident other old
    obtain ⟨before,after,made,remade,raised⟩ := combinedSeverity_more tiers m first later
    refine ⟨before,after,made,remade,raised,?_,?_⟩
    · rw [combinedConfidence_exact r sure,combinedConfidence_exact r confident,confidence_perm r moved]
      exact (PyFloat.ge_finite _ _).mpr (confidence_more r m own confident)
    · rw [ruleScore_exact r sure,ruleScore_exact r confident,score_perm r moved]
      exact (PyFloat.ge_finite _ _).mpr (score_more r m own confident)

-- Rounding down to so many digits.
def roundedDown : DecimalRounding where
  round q digits := ⌊q * 10 ^ digits⌋ / 10 ^ digits
  ordered a b digits less := by
    apply div_le_div_of_nonneg_right _ (by positivity)
    exact_mod_cast Int.floor_mono (mul_le_mul_of_nonneg_right less (by positivity))
  zero digits := by simp
  one digits := by
    have whole : ⌊(1 : Rat) * 10 ^ digits⌋ = 10 ^ digits := by
      rw [one_mul]
      exact_mod_cast Int.floor_intCast (R:=Rat) (10 ^ digits)
    rw [whole]
    push_cast
    exact div_self (by positivity)

def structuringMatch : RuleMatch := ⟨"FRAUD-AMT-002","Structuring","amount","high",.finite (1 / 2),.empty⟩

def travelMatch : RuleMatch := ⟨"FRAUD-GEO-001","Impossible Travel","geo","critical",.finite (9 / 10),.empty⟩

theorem score_laws_two : ∃ before after,
    computeCombinedSeverity ⟨true,some 2⟩ [structuringMatch] = .ok before ∧
    computeCombinedSeverity ⟨true,some 2⟩ [travelMatch,structuringMatch] = .ok after ∧ severityOrder before ≤ severityOrder after ∧
    (computeCombinedConfidence roundedDown.operations [travelMatch,structuringMatch]).ge
      (computeCombinedConfidence roundedDown.operations [structuringMatch]) = true ∧
    (computeRuleScore roundedDown.operations [travelMatch,structuringMatch]).ge
      (computeRuleScore roundedDown.operations [structuringMatch]) = true := by
  have half : Confident structuringMatch := ⟨rfl,by norm_num [NoisyOr.Chance,confidenceOf,structuringMatch]⟩
  have nine : Confident travelMatch := ⟨rfl,by norm_num [NoisyOr.Chance,confidenceOf,travelMatch]⟩
  have laws := score_laws roundedDown ⟨true,some 2⟩ (by simp) [structuringMatch] (by simpa using half)
  exact laws.2.2 [] [structuringMatch] travelMatch rfl nine

end FraudRuleEngine
end RiskPulse
