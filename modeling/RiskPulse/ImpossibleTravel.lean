import Mathlib.Algebra.Order.Field.Rat
import Mathlib.Tactic.Positivity
import RiskPulse.FraudRules

namespace RiskPulse

-- A rule with the entries of its parameters that the travel rule reads.
structure TravelRule extends FraudRule where
  maxSpeedMph : Option PyFloat
  minDistanceMiles : Option PyFloat

-- Further, the distance of two points, each a latitude and a longitude.
structure TravelHost extends FraudRuleHost where
  arithmetic : FloatArithmetic
  haversineMiles : PyFloat → PyFloat → PyFloat → PyFloat → Except String PyFloat

namespace FraudRuleEngine
variable (h : TravelHost)

-- What an if makes of a float.
def nonzero (x : PyFloat) : Bool := decide (x ≠ .finite 0)

def evalImpossibleTravel (rule : TravelRule) (txn : Record) (lastTransaction : Option Record) : Except String (Option RuleMatch) :=
  let maxSpeed := rule.maxSpeedMph.getD (.finite 500)
  let minDist := rule.minDistanceMiles.getD (.finite 100)
  match lastTransaction with
  | none => .ok none
  | some lastTxn =>
    if lastTxn.entries.isEmpty then .ok none
    else do
      let lat1 ← safeFloat h.toFraudRuleHost (lastTxn.value "geo_latitude")
      let lon1 ← safeFloat h.toFraudRuleHost (lastTxn.value "geo_longitude")
      let lat2 ← safeFloat h.toFraudRuleHost (txn.value "geo_latitude")
      let lon2 ← safeFloat h.toFraudRuleHost (txn.value "geo_longitude")
      if !([lat1,lon1,lat2,lon2].all nonzero) then pure none
      else do
        let distance ← h.haversineMiles lat1 lon1 lat2 lon2
        if minDist.greater distance then pure none
        else
          match timestampOf h.toFraudRuleHost lastTxn,timestampOf h.toFraudRuleHost txn with
          | some ts1,some ts2 =>
            let hours := |ts2.totalSeconds ts1| / 3600
            if hours ≤ 0 then pure none
            else
              let speed := h.arithmetic.divide distance (.finite hours)
              if speed.greater maxSpeed then
                pure (matched rule.toFraudRule [("speed_mph",.float (h.arithmetic.round speed 1)),
                  ("distance_miles",.float (h.arithmetic.round distance 1))])
              else pure none
          | _,_ => pure none

-- The hours between two moments.
def hoursBetween (a b : AwareTime) : Rat := |b.totalSeconds a| / 3600

-- Two transactions with their coordinates, timestamps and distance.
structure Located (lastTxn txn : Record) (lat1 lon1 lat2 lon2 : PyFloat) (distance : Rat) (ts1 ts2 : AwareTime) : Prop where
  lastLatitude : h.float (lastTxn.value "geo_latitude") = .ok lat1
  lastLongitude : h.float (lastTxn.value "geo_longitude") = .ok lon1
  latitude : h.float (txn.value "geo_latitude") = .ok lat2
  longitude : h.float (txn.value "geo_longitude") = .ok lon2
  apart : h.haversineMiles lat1 lon1 lat2 lon2 = .ok (.finite distance)
  lastDated : timestampOf h.toFraudRuleHost lastTxn = some ts1
  dated : timestampOf h.toFraudRuleHost txn = some ts2

-- The limits of the rule, as numbers.
structure TravelLimits (rule : TravelRule) (maxSpeed minDistance : Rat) : Prop where
  speed : rule.maxSpeedMph.getD (.finite 500) = .finite maxSpeed
  distance : rule.minDistanceMiles.getD (.finite 100) = .finite minDistance
  speedPositive : 0 < maxSpeed
  distancePositive : 0 < minDistance

-- The division of the host where it is exact.
def DividesExactly : Prop := ∀ a b : Rat, b ≠ 0 → h.arithmetic.divide (.finite a) (.finite b) = .finite (a / b)

variable {h} {rule : TravelRule} {lastTxn txn : Record} {lat1 lon1 lat2 lon2 : PyFloat} {distance maxSpeed minDistance : Rat}
  {ts1 ts2 : AwareTime}

theorem hours_nonneg (a b : AwareTime) : 0 ≤ hoursBetween a b := div_nonneg (abs_nonneg _) (by norm_num)

theorem hours_zero (a b : AwareTime) : hoursBetween a b ≤ 0 ↔ a.instant = b.instant := by
  have least := hours_nonneg a b
  have zero : hoursBetween a b ≤ 0 ↔ hoursBetween a b = 0 := ⟨fun most => le_antisymm most least,le_of_eq⟩
  rw [zero,hoursBetween,div_eq_zero_iff,abs_eq_zero,AwareTime.totalSeconds,div_eq_zero_iff]
  norm_num
  exact_mod_cast sub_eq_zero.trans eq_comm

theorem safeFloat_read {g : FraudRuleHost} (read : g.float v = .ok x) : safeFloat g v = .ok x := by
  rw [safeFloat,read]

theorem dated_entries {g : FraudRuleHost} {record : Record} (dated : timestampOf g record = some t) : record.entries.isEmpty = false := by
  apply Record.entries_nonempty record "transaction_timestamp"
  intro nothing
  rw [timestampOf,nothing] at dated
  cases dated

-- What the rule makes of two such transactions.
theorem travel_read (given : Located h lastTxn txn lat1 lon1 lat2 lon2 distance ts1 ts2) : evalImpossibleTravel h rule txn (some lastTxn) =
    if !([lat1,lon1,lat2,lon2].all nonzero) then .ok none
    else if (rule.minDistanceMiles.getD (.finite 100)).greater (.finite distance) then .ok none
    else if hoursBetween ts1 ts2 ≤ 0 then .ok none
    else if (h.arithmetic.divide (.finite distance) (.finite (hoursBetween ts1 ts2))).greater (rule.maxSpeedMph.getD (.finite 500)) then
      .ok (matched rule.toFraudRule [
        ("speed_mph",.float (h.arithmetic.round (h.arithmetic.divide (.finite distance) (.finite (hoursBetween ts1 ts2))) 1)),
        ("distance_miles",.float (h.arithmetic.round (.finite distance) 1))])
    else .ok none := by
  unfold evalImpossibleTravel
  simp only [dated_entries given.lastDated,safeFloat_read given.lastLatitude,safeFloat_read given.lastLongitude,
    safeFloat_read given.latitude,safeFloat_read given.longitude,given.lastDated,given.dated,bind,Except.bind,pure,Except.pure]
  rw [given.apart]
  rfl

-- The rule fires where no coordinate is zero, the two are not simultaneous, and the
-- comparisons hold.
theorem travel_fires (limits : TravelLimits rule maxSpeed minDistance) (given : Located h lastTxn txn lat1 lon1 lat2 lon2 distance ts1 ts2)
    (exact : DividesExactly h) : (∃ fired, evalImpossibleTravel h rule txn (some lastTxn) = .ok (some fired)) ↔
      ([lat1,lon1,lat2,lon2].all nonzero = true ∧ ts1.instant ≠ ts2.instant) ∧ minDistance ≤ distance ∧
        maxSpeed * hoursBetween ts1 ts2 < distance := by
  rw [travel_read given,limits.speed,limits.distance]
  by_cases zero : [lat1,lon1,lat2,lon2].all nonzero = true
  · rw [if_neg (by simp [zero])]
    have close : (PyFloat.finite minDistance).greater (.finite distance) = true ↔ distance < minDistance := decide_eq_true_iff
    by_cases near : distance < minDistance
    · rw [if_pos (close.mpr near)]
      simp [not_le.mpr near]
    · rw [if_neg (mt close.mp near)]
      by_cases together : hoursBetween ts1 ts2 ≤ 0
      · rw [if_pos together]
        simp [(hours_zero ts1 ts2).mp together]
      · have apart : ts1.instant ≠ ts2.instant := mt (hours_zero ts1 ts2).mpr together
        have positive : 0 < hoursBetween ts1 ts2 := not_le.mp together
        have fast : (PyFloat.finite (distance / hoursBetween ts1 ts2)).greater (.finite maxSpeed) = true ↔
            maxSpeed * hoursBetween ts1 ts2 < distance := decide_eq_true_iff.trans (lt_div_iff₀ positive)
        rw [if_neg together,exact _ _ (ne_of_gt positive)]
        by_cases fires : maxSpeed * hoursBetween ts1 ts2 < distance
        · rw [if_pos (fast.mpr fires)]
          exact ⟨fun _ => ⟨⟨zero,apart⟩,not_lt.mp near,fires⟩,fun _ => ⟨_,rfl⟩⟩
        · rw [if_neg (mt fast.mp fires)]
          simp [fires]
  · rw [if_pos (by rw [Bool.not_eq_true] at zero; rw [zero]; rfl)]
    simp [zero]

-- The rule is exact but on the equator, on the prime meridian and for simultaneous pairs
-- that it ought to fire for.
theorem impossible_travel (limits : TravelLimits rule maxSpeed minDistance)
    (given : Located h lastTxn txn lat1 lon1 lat2 lon2 distance ts1 ts2) (exact : DividesExactly h) :
    ((∃ fired, evalImpossibleTravel h rule txn (some lastTxn) = .ok (some fired)) ↔
      minDistance ≤ distance ∧ maxSpeed * hoursBetween ts1 ts2 < distance) ↔
    (distance < minDistance ∨ distance ≤ maxSpeed * hoursBetween ts1 ts2 ∨
      ((∀ x ∈ [lat1,lon1,lat2,lon2], x ≠ .finite 0) ∧ ts1.instant ≠ ts2.instant)) := by
  have coordinates : [lat1,lon1,lat2,lon2].all nonzero = true ↔ ∀ x ∈ [lat1,lon1,lat2,lon2], x ≠ .finite 0 := by
    rw [List.all_eq_true]
    exact forall₂_congr fun x _ => decide_eq_true_iff
  rw [travel_fires limits given exact,coordinates,← not_le,← not_lt]
  tauto

-- Divisions are exact, and the distances are those of the pairs below.
def exampleTravelHost : TravelHost where
  toFraudRuleHost := .exact
  arithmetic := .exact
  haversineMiles lat1 _ _ _ := .ok (.finite (if lat1 = .finite 0 then 20728228328385453 / 10000000000000 else 21136304946094156 / 10000000000000))

def impossibleTravelRule : TravelRule where
  id := "FRAUD-GEO-001"
  name := "Impossible Travel"
  category := "geo"
  severity := "critical"
  confidence := .finite (9 / 10)
  parameters := ⟨none,none,none,none,none,none,none,none,none,none,none⟩
  maxSpeedMph := some (.finite 500)
  minDistanceMiles := some (.finite 100)

-- A purchase at a latitude and a longitude, so many seconds after the epoch.
def purchaseAt (latitude longitude : Rat) (seconds : Int) : Record :=
  .ofList [("geo_latitude",.float (.finite latitude)),("geo_longitude",.float (.finite longitude)),("transaction_timestamp",.datetime (seconds * 1000000) (some 0))]

theorem exampleLimits : TravelLimits impossibleTravelRule 500 100 := ⟨rfl,rfl,by norm_num,by norm_num⟩

theorem exampleDivides : DividesExactly exampleTravelHost := fun _ _ _ => rfl

theorem impossible_travel_generic :
    ((∃ fired, evalImpossibleTravel exampleTravelHost impossibleTravelRule (purchaseAt 20 40 3600) (some (purchaseAt 10 10 0)) =
        .ok (some fired)) ↔
      (100 : Rat) ≤ 21136304946094156 / 10000000000000 ∧
        500 * hoursBetween ⟨0,0⟩ ⟨3600000000,0⟩ < 21136304946094156 / 10000000000000) ↔
    ((21136304946094156 / 10000000000000 : Rat) < 100 ∨
      (21136304946094156 / 10000000000000 : Rat) ≤ 500 * hoursBetween ⟨0,0⟩ ⟨3600000000,0⟩ ∨
      ((∀ x ∈ [PyFloat.finite 10,.finite 10,.finite 20,.finite 40], x ≠ .finite 0) ∧
        (⟨0,0⟩ : AwareTime).instant ≠ (⟨3600000000,0⟩ : AwareTime).instant)) :=
  impossible_travel exampleLimits ⟨rfl,rfl,rfl,rfl,rfl,rfl,rfl⟩ exampleDivides

-- An hour along the equator at two thousand miles, and two purchases at one moment.
theorem equator_and_simultaneous_missed :
    ¬((∃ fired, evalImpossibleTravel exampleTravelHost impossibleTravelRule (purchaseAt 0 40 3600) (some (purchaseAt 0 10 0)) =
        .ok (some fired)) ↔
      (100 : Rat) ≤ 20728228328385453 / 10000000000000 ∧
        500 * hoursBetween ⟨0,0⟩ ⟨3600000000,0⟩ < 20728228328385453 / 10000000000000) ∧
    ¬((∃ fired, evalImpossibleTravel exampleTravelHost impossibleTravelRule (purchaseAt 20 40 0) (some (purchaseAt 10 10 0)) =
        .ok (some fired)) ↔
      (100 : Rat) ≤ 21136304946094156 / 10000000000000 ∧
        500 * hoursBetween ⟨0,0⟩ ⟨0,0⟩ < 21136304946094156 / 10000000000000) := by
  have hour : hoursBetween ⟨0,0⟩ ⟨3600000000,0⟩ = 1 := by norm_num [hoursBetween,AwareTime.totalSeconds,AwareTime.instant]
  have moment : hoursBetween ⟨0,0⟩ ⟨0,0⟩ = 0 := by norm_num [hoursBetween,AwareTime.totalSeconds,AwareTime.instant]
  have equator : Located exampleTravelHost (purchaseAt 0 10 0) (purchaseAt 0 40 3600) (.finite 0) (.finite 10) (.finite 0) (.finite 40)
      (20728228328385453 / 10000000000000) ⟨0,0⟩ ⟨3600000000,0⟩ := ⟨rfl,rfl,rfl,rfl,rfl,rfl,rfl⟩
  have simultaneous : Located exampleTravelHost (purchaseAt 10 10 0) (purchaseAt 20 40 0) (.finite 10) (.finite 10) (.finite 20) (.finite 40)
      (21136304946094156 / 10000000000000) ⟨0,0⟩ ⟨0,0⟩ := ⟨rfl,rfl,rfl,rfl,rfl,rfl,rfl⟩
  constructor
  · rw [travel_fires exampleLimits equator exampleDivides,hour]
    norm_num [nonzero]
  · rw [travel_fires exampleLimits simultaneous exampleDivides,moment]
    norm_num

end FraudRuleEngine
end RiskPulse
