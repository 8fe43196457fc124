import Mathlib.Tactic.Linarith
import RiskPulse.ThrottleBounds

namespace RiskPulse.ThrottleEngine
open SlidingWindow Runs

-- The calls a run makes before a time while no storm is active.
def calmCalls (e : ThrottleEngine) (limit : Rat) : ThrottleTrace → List ThrottleAction → Nat
  | _,[] => 0
  | t,.passes elapsed :: rest => calmCalls e limit (step e t (.passes elapsed)) rest
  | t,.call accountId ruleId :: rest =>
    (if t.now < limit ∧ ¬Storming t.engine t.now then 1 else 0) + calmCalls e limit (called e t accountId ruleId) rest

-- A call before the time meets a condition in the state it is made in.
def SomeCall (e : ThrottleEngine) (limit : Rat) (meets : ThrottleTrace → Value → Value → Prop) (t : ThrottleTrace)
    (actions : List ThrottleAction) : Prop :=
  ∃ mid accountId ruleId rest, actions = mid ++ .call accountId ruleId :: rest ∧
    (run (step e) t mid).now < limit ∧ meets (run (step e) t mid) accountId ruleId

-- A minute of the run, from any moment on, in which the threshold is reached.
structure Burst (e : ThrottleEngine) (before after : List ThrottleAction) : Prop where
  spans : (run (step e) .start before).now + 60 ≤ (run (step e) .start (before ++ after)).now
  calls : e.stormThreshold ≤ calmCalls e ((run (step e) .start before).now + 60) (run (step e) .start before) after

-- A storm is declared within every such minute, and it lasts.
structure StormDetected (e : ThrottleEngine) (actions : List ThrottleAction) : Prop where
  declared : ∀ before after, actions = before ++ after → Burst e before after →
    SomeCall e ((run (step e) .start before).now + 60) (fun t accountId ruleId => verdict e t accountId ruleId = triggered)
      (run (step e) .start before) after
  denied : ∀ before accountId ruleId mid accountId' ruleId' after,
    actions = before ++ .call accountId ruleId :: mid ++ .call accountId' ruleId' :: after →
    verdict e (run (step e) .start before) accountId ruleId = triggered →
    (run (step e) .start (before ++ .call accountId ruleId :: mid)).now <
      (run (step e) .start before).now + 300 →
    (verdict e (run (step e) .start (before ++ .call accountId ruleId :: mid)) accountId' ruleId').denies = true

-- The times of the calls made while no storm was active and under the hourly limits
-- of their account and rule.
def eligible (e : ThrottleEngine) (t : ThrottleTrace) : ThrottleAction → List Rat
  | .passes _ => []
  | .call accountId ruleId =>
    if ¬Storming t.engine t.now ∧ Eligible e accountId ruleId t.now t.engine then [t.now] else []

def eligibleTimes (e : ThrottleEngine) : ThrottleTrace → List ThrottleAction → List Rat
  | _,[] => []
  | t,action :: rest => eligible e t action ++ eligibleTimes e (step e t action) rest

-- A storm can be told apart from a full minute.
def Detects (e : ThrottleEngine) : Prop := e.stormThreshold < e.maxTotalPerMinute ∧ 0 < e.maxTotalPerMinute

-- In every such minute some call comes, with no storm active, when as many calls as
-- the threshold have passed the hourly limits in the minute before it.
def SeesStorm (e : ThrottleEngine) (actions : List ThrottleAction) : Prop :=
  ∀ before after, actions = before ++ after → Burst e before after → Detects e ∧
    ∃ mid accountId ruleId rest, after = mid ++ .call accountId ruleId :: rest ∧
      (run (step e) .start (before ++ mid)).now < (run (step e) .start before).now + 60 ∧
      ¬Storming (run (step e) .start (before ++ mid)).engine (run (step e) .start (before ++ mid)).now ∧
      e.stormThreshold ≤ (recent 60 (run (step e) .start (before ++ mid)).now
        (eligibleTimes e .start (before ++ mid))).length

-- The call that declares a storm, read off the state it is made in.
theorem declares_exact (e : ThrottleEngine) (t : ThrottleTrace) (accountId ruleId : Value) :
    verdict e t accountId ruleId = triggered ↔ ¬Storming t.engine t.now ∧
      e.stormThreshold ≤ (recent 60 t.now t.engine.totalTimestamps).length ∧
      (recent 60 t.now t.engine.totalTimestamps).length < e.maxTotalPerMinute := by
  have decided := called_decided e t accountId ruleId
  generalize (called e t accountId ruleId).engine = s at decided
  generalize verdict e t accountId ruleId = v at decided ⊢
  cases decided with
  | refused pruned quiet refuses reason =>
    constructor
    · intro same
      exact absurd same quiet
    · intro ⟨calm,reached,room⟩
      rcases reason with storming | full | ⟨below,_⟩
      · exact absurd storming calm
      · omega
      · omega
  | storm calm room reached => exact ⟨fun _ => ⟨calm,reached,room⟩,fun _ => rfl⟩
  | admitted calm room below eligible left =>
    constructor
    · intro same
      cases same
    · intro ⟨_,reached,_⟩
      omega

section Clock

theorem step_clock (e : ThrottleEngine) (t : ThrottleTrace) (action : ThrottleAction) : t.now ≤ (step e t action).now := by
  cases action with
  | passes elapsed => exact le_add_of_nonneg_right elapsed.2
  | call accountId ruleId => exact le_rfl

theorem run_clock (e : ThrottleEngine) (t : ThrottleTrace) (actions : List ThrottleAction) :
    t.now ≤ (run (step e) t actions).now := by
  induction actions generalizing t with
  | nil => exact le_rfl
  | cons action rest ih => exact (step_clock e t action).trans (ih _)

end Clock

section Lasting

-- A storm that will end at the limit: calls before it change neither flag.
def Lasts (limit : Rat) (s : ThrottleState) : Prop := s.stormActive = true ∧ s.stormCooldownUntil = limit

theorem called_lasts (lasts : Lasts limit t.engine) (inside : t.now < limit) (accountId ruleId : Value) :
    Lasts limit (called e t accountId ruleId).engine := by
  have storming : Storming t.engine t.now := ⟨lasts.1,by rw [lasts.2]; exact inside⟩
  have decided := called_decided e t accountId ruleId
  generalize (called e t accountId ruleId).engine = s at decided ⊢
  generalize verdict e t accountId ruleId = v at decided
  cases decided with
  | refused pruned => exact ⟨pruned.stormActive.trans lasts.1,pruned.stormCooldownUntil.trans lasts.2⟩
  | storm calm => exact absurd storming calm
  | admitted calm => exact absurd storming calm

-- By induction on the run: the clock never goes back, so every state on the way is
-- before the limit as well.
theorem run_lasts (lasts : Lasts limit t.engine) (inside : (run (step e) t actions).now < limit) :
    Lasts limit (run (step e) t actions).engine := by
  induction actions generalizing t with
  | nil => exact lasts
  | cons action rest ih =>
    apply ih _ inside
    cases action with
    | passes elapsed => exact lasts
    | call accountId ruleId =>
      have before : t.now < limit := lt_of_le_of_lt ((step_clock e t _).trans (run_clock e _ rest)) inside
      exact called_lasts lasts before accountId ruleId

theorem storming_denies (e : ThrottleEngine) (t : ThrottleTrace) (storming : Storming t.engine t.now)
    (accountId ruleId : Value) : (verdict e t accountId ruleId).denies = true := by
  unfold verdict shouldThrottle
  rw [if_pos (by exact storming)]
  rfl

theorem declared_lasts (declares : verdict e t accountId ruleId = triggered) :
    Lasts (t.now + 300) (called e t accountId ruleId).engine := by
  have decided := called_decided e t accountId ruleId
  generalize (called e t accountId ruleId).engine = s at decided ⊢
  generalize verdict e t accountId ruleId = v at decided declares
  cases decided with
  | refused pruned quiet => exact absurd declares quiet
  | storm => exact ⟨rfl,rfl⟩
  | admitted => cases declares

theorem storm_denies (e : ThrottleEngine) (t : ThrottleTrace) (declares : verdict e t accountId ruleId = triggered)
    (inside : (run (step e) t (.call accountId ruleId :: mid)).now < t.now + 300) (accountId' ruleId' : Value) :
    (verdict e (run (step e) t (.call accountId ruleId :: mid)) accountId' ruleId').denies = true := by
  have lasts : Lasts (t.now + 300) (run (step e) (called e t accountId ruleId) mid).engine :=
    run_lasts (declared_lasts declares) inside
  exact storming_denies e _ ⟨lasts.1,by rw [lasts.2]; exact inside⟩ _ _

end Lasting

section Counting
variable {e : ThrottleEngine}

-- Where a storm can be told apart, the engine's minute holds exactly the eligible
-- calls whenever no storm is active, and always has room.
structure Counts (e : ThrottleEngine) (t : ThrottleTrace) (log : List Rat) : Prop where
  agrees : ∀ later, t.now ≤ later → ¬Storming t.engine later →
    recent 60 later t.engine.totalTimestamps = recent 60 later log
  room : (recent 60 t.now t.engine.totalTimestamps).length < e.maxTotalPerMinute
  totals : ∀ time ∈ t.engine.totalTimestamps, time ≤ t.now
  ordered : ∀ time ∈ log, time ≤ t.now

theorem start_counts (detects : Detects e) : Counts e .start [] :=
  ⟨fun _ _ _ => rfl,detects.2,by simp [ThrottleTrace.start,ThrottleState.start],by simp⟩

theorem passes_counts (counts : Counts e t log) (elapsed : {q : Rat // 0 ≤ q}) :
    Counts e (step e t (.passes elapsed)) log := by
  have after : t.now ≤ t.now + elapsed.1 := le_add_of_nonneg_right elapsed.2
  refine ⟨fun later beyond => counts.agrees later (after.trans beyond),?_,
    fun time member => (counts.totals time member).trans after,
    fun time member => (counts.ordered time member).trans after⟩
  have fewer := recent_shrinks 60 after t.engine.totalTimestamps
  have spare := counts.room
  show ((recent 60 (t.now + elapsed.1) t.engine.totalTimestamps).length : Int) < e.maxTotalPerMinute
  omega

theorem pruned_counted (pruned : Pruned t.now t.engine s) (counts : Counts e t log) :
    Counts e ⟨t.now,s,admitted⟩ log := by
  have kept : Tracks 60 t.now s.totalTimestamps t.engine.totalTimestamps := pruned.alike.totals
  refine ⟨?agrees,?room,?totals,counts.ordered⟩
  case agrees =>
    intro later beyond calm
    rw [show recent 60 later s.totalTimestamps = _ from kept later beyond]
    apply counts.agrees later beyond
    intro storming
    exact calm ⟨pruned.stormActive.trans storming.1,pruned.stormCooldownUntil ▸ storming.2⟩
  case room =>
    show ((recent 60 t.now s.totalTimestamps).length : Int) < e.maxTotalPerMinute
    rw [kept t.now le_rfl]
    exact counts.room
  case totals =>
    intro time member
    have member : time ∈ s.totalTimestamps := member
    rcases pruned.totals with same | same
    · exact counts.totals time (same ▸ member)
    · rw [same] at member
      exact counts.totals time ((mem_recent _ _ _ _).mp member).1

-- The storm outlasts the minute: when it is over, neither list has a time in it.
theorem storm_counted (counts : Counts e t log) (grown : longer = log ∨ longer = log ++ [t.now]) :
    Counts e ⟨t.now,startStorm t.now (pruneTotal t.now t.engine),admitted⟩ longer := by
  have ordered : ∀ time ∈ longer, time ≤ t.now := by
    intro time member
    rcases grown with rfl | rfl
    · exact counts.ordered time member
    · rcases List.mem_append.mp member with old | new
      · exact counts.ordered time old
      · exact le_of_eq (List.mem_singleton.mp new)
  have totals : ∀ time ∈ recent 60 t.now t.engine.totalTimestamps, time ≤ t.now := by
    intro time member
    exact counts.totals time ((mem_recent _ _ _ _).mp member).1
  refine ⟨?agrees,?room,totals,ordered⟩
  case agrees =>
    intro later beyond calm
    have cooled : t.now + 300 ≤ later := by
      by_contra early
      exact calm ⟨rfl,lt_of_not_ge early⟩
    have minute : t.now + 60 ≤ later := by linarith
    rw [recent_expired fun time member => (add_le_add_left (ordered time member) 60).trans minute]
    exact recent_expired fun time member => (add_le_add_left (totals time member) 60).trans minute
  case room =>
    show ((recent 60 t.now (recent 60 t.now t.engine.totalTimestamps)).length : Int) < e.maxTotalPerMinute
    rw [recent_recent 60 le_rfl]
    exact counts.room

theorem admitted_counted (detects : Detects e) (counts : Counts e t log)
    (left : Admitted accountId ruleId t.now t.engine s)
    (below : (recent 60 t.now t.engine.totalTimestamps).length < e.stormThreshold) :
    Counts e ⟨t.now,s,admitted⟩ (log ++ [t.now]) := by
  refine ⟨?agrees,?room,?totals,?ordered⟩
  case agrees =>
    intro later beyond calm
    have quiet : ¬Storming t.engine later := fun storming =>
      calm ⟨left.stormActive.trans storming.1,left.stormCooldownUntil ▸ storming.2⟩
    show recent 60 later s.totalTimestamps = _
    rw [left.totals,recent_append,recent_append,recent_recent 60 beyond,counts.agrees later beyond quiet]
  case room =>
    show ((recent 60 t.now s.totalTimestamps).length : Int) < e.maxTotalPerMinute
    have most := List.length_filter_le (fun time => decide (t.now - 60 < time)) s.totalTimestamps
    have one : s.totalTimestamps.length = (recent 60 t.now t.engine.totalTimestamps).length + 1 := by
      rw [left.totals,List.length_append,List.length_singleton]
    have above := detects.1
    rw [recent]
    omega
  case totals =>
    intro time member
    have member : time ∈ s.totalTimestamps := member
    rw [left.totals] at member
    rcases List.mem_append.mp member with old | new
    · exact counts.totals time ((mem_recent _ _ _ _).mp old).1
    · exact le_of_eq (List.mem_singleton.mp new)
  case ordered =>
    intro time member
    rcases List.mem_append.mp member with old | new
    · exact counts.ordered time old
    · exact le_of_eq (List.mem_singleton.mp new)

theorem called_counts (detects : Detects e) (counts : Counts e t log) (accountId ruleId : Value) :
    Counts e (called e t accountId ruleId) (log ++ eligible e t (.call accountId ruleId)) := by
  have decided := called_decided e t accountId ruleId
  unfold called at decided ⊢
  dsimp only at decided ⊢
  generalize (shouldThrottle e accountId ruleId t.now t.engine).2 = s at decided ⊢
  generalize verdict e t accountId ruleId = v at decided ⊢
  cases decided with
  | refused pruned quiet refuses reason =>
    have passed : eligible e t (.call accountId ruleId) = [] := by
      apply if_neg
      intro ⟨calm,fits⟩
      rcases reason with storming | full | ⟨_,unfit⟩
      · exact calm storming
      · exact absurd counts.room (not_lt.mpr full)
      · exact unfit fits
    rw [passed,List.append_nil]
    exact pruned_counted pruned counts
  | storm calm room reached =>
    apply storm_counted counts
    by_cases fits : ¬Storming t.engine t.now ∧ Eligible e accountId ruleId t.now t.engine
    · have passed : eligible e t (.call accountId ruleId) = [t.now] := if_pos fits
      rw [passed]
      exact .inr rfl
    · have passed : eligible e t (.call accountId ruleId) = [] := if_neg fits
      rw [passed]
      exact .inl (List.append_nil _)
  | admitted calm room below fits left =>
    have passed : eligible e t (.call accountId ruleId) = [t.now] := if_pos ⟨calm,fits⟩
    rw [passed]
    exact admitted_counted detects counts left below

theorem run_counts (detects : Detects e) (counts : Counts e t log) (actions : List ThrottleAction) :
    Counts e (run (step e) t actions) (log ++ eligibleTimes e t actions) := by
  induction actions generalizing t log with
  | nil => simpa [eligibleTimes,run] using counts
  | cons action rest ih =>
    rw [eligibleTimes,← List.append_assoc]
    apply ih
    cases action with
    | passes elapsed => simpa [eligible] using passes_counts counts elapsed
    | call accountId ruleId => exact called_counts detects counts accountId ruleId

end Counting

-- Storms are detected in exactly the runs where the limits let them be seen.
theorem storm_detection_exact (e : ThrottleEngine) (actions : List ThrottleAction) :
    StormDetected e actions ↔ SeesStorm e actions := by
  constructor
  · intro detected before after split burst
    obtain ⟨mid,accountId,ruleId,rest,parts,early,declares⟩ := detected.declared before after split burst
    obtain ⟨calm,reached,room⟩ := (declares_exact _ _ _ _).mp declares
    have detects : Detects e := ⟨by omega,by omega⟩
    rw [← run_append] at early calm reached
    have counts := run_counts detects (start_counts detects) (before ++ mid)
    refine ⟨detects,mid,accountId,ruleId,rest,parts,early,calm,?_⟩
    rw [← List.nil_append (eligibleTimes e .start (before ++ mid)),← counts.agrees _ le_rfl calm]
    exact reached
  · intro sees
    refine ⟨?_,?_⟩
    · intro before after split burst
      obtain ⟨detects,mid,accountId,ruleId,rest,parts,early,calm,reached⟩ := sees before after split burst
      have counts := run_counts detects (start_counts detects) (before ++ mid)
      rw [← List.nil_append (eligibleTimes e .start (before ++ mid)),← counts.agrees _ le_rfl calm] at reached
      refine ⟨mid,accountId,ruleId,rest,parts,?_,?_⟩
      · rw [← run_append]
        exact early
      · rw [← run_append]
        exact (declares_exact _ _ _ _).mpr ⟨calm,reached,counts.room⟩
    · intro before accountId ruleId mid accountId' ruleId' after split declares inside
      rw [run_append] at inside ⊢
      exact storm_denies e _ declares inside accountId' ruleId'

section ShippedLimits

def callsOf (pairs : List (Value × Value)) : List ThrottleAction := pairs.map fun pair => .call pair.1 pair.2

theorem calls_clock (e : ThrottleEngine) (t : ThrottleTrace) (pairs : List (Value × Value)) :
    (run (step e) t (callsOf pairs)).now = t.now := by
  induction pairs generalizing t with
  | nil => rfl
  | cons pair rest ih => exact ih (called e t pair.1 pair.2)

-- With a total at or below the threshold no call ever declares a storm.
theorem blind_quiet (blind : e.maxTotalPerMinute ≤ e.stormThreshold) (quiet : t.engine.stormActive = false)
    (accountId ruleId : Value) : (called e t accountId ruleId).engine.stormActive = false := by
  have decided := called_decided e t accountId ruleId
  generalize (called e t accountId ruleId).engine = s at decided ⊢
  generalize verdict e t accountId ruleId = v at decided
  cases decided with
  | refused pruned => exact pruned.stormActive.trans quiet
  | storm calm room reached => omega
  | admitted calm room below fits left => exact left.stormActive.trans quiet

theorem blind_calm (blind : e.maxTotalPerMinute ≤ e.stormThreshold) (quiet : t.engine.stormActive = false)
    (early : t.now < limit) (pairs : List (Value × Value)) (rest : List ThrottleAction) :
    pairs.length ≤ calmCalls e limit t (callsOf pairs ++ rest) := by
  induction pairs generalizing t with
  | nil => exact Nat.zero_le _
  | cons pair others ih =>
    have calm : ¬Storming t.engine t.now := by
      intro storming
      exact absurd (quiet.symm.trans storming.1) (by decide)
    have more := ih (t:=called e t pair.1 pair.2) (blind_quiet blind quiet _ _) early
    have unfolded : calmCalls e limit t (callsOf (pair :: others) ++ rest) =
        (if t.now < limit ∧ ¬Storming t.engine t.now then 1 else 0) +
          calmCalls e limit (called e t pair.1 pair.2) (callsOf others ++ rest) := rfl
    rw [unfolded,if_pos ⟨early,calm⟩,List.length_cons]
    omega

def shipped : ThrottleEngine := ⟨5,50,100,200,fun _ => ""⟩

-- Two hundred accounts alert at once.
def twoHundred : List (Value × Value) := (List.range 200).map fun n => (.str ("ACC-" ++ toString n),.none)

theorem shipped_storm_undetected : ¬StormDetected shipped (callsOf twoHundred ++ [.passes ⟨60,by decide⟩]) := by
  intro detected
  have burst : Burst shipped [] (callsOf twoHundred ++ [.passes ⟨60,by decide⟩]) := by
    refine ⟨?_,?_⟩
    · rw [List.nil_append,run_append]
      show (0 : Rat) + 60 ≤ (run (step shipped) .start (callsOf twoHundred)).now + 60
      rw [calls_clock]
      exact le_rfl
    · have calls := blind_calm (e:=shipped) (t:=.start) (by decide) rfl (show (0 : Rat) < 0 + 60 by norm_num) twoHundred
        [.passes ⟨60,by decide⟩]
      have count : twoHundred.length = 200 := by simp [twoHundred]
      rw [count] at calls
      exact Int.ofNat_le.mpr calls
  obtain ⟨mid,accountId,ruleId,rest,_,_,declares⟩ := detected.declared [] _ rfl burst
  obtain ⟨_,reached,room⟩ := (declares_exact _ _ _ _).mp declares
  have above : (200 : Int) < 100 := lt_of_le_of_lt reached room
  exact absurd above (by decide)

end ShippedLimits

end RiskPulse.ThrottleEngine
