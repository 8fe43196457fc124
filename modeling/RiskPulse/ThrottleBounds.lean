import RiskPulse.AlertEngines
import RiskPulse.Library.Runs

namespace RiskPulse.ThrottleEngine
open SlidingWindow

abbrev Verdict := Except String (Bool × String)

def Verdict.admits : Verdict → Bool
  | .ok (throttled,_) => !throttled
  | .error _ => false

def Verdict.denies : Verdict → Bool
  | .ok (throttled,_) => throttled
  | .error _ => false

-- The verdict of the call that declares a storm.
def triggered : Verdict := .ok (true,"alert_storm_triggered")

def Storming (s : ThrottleState) (now : Rat) : Prop := s.stormActive = true ∧ now < s.stormCooldownUntil

instance (s : ThrottleState) (now : Rat) : Decidable (Storming s now) := inferInstanceAs (Decidable (_ ∧ _))

-- The account's and the rule's hourly limits both have room for the alert.
def Eligible (e : ThrottleEngine) (accountId ruleId : Value) (now : Rat) (s : ThrottleState) : Prop :=
  accountId.hashable = true ∧ ((recent 3600 now (s.accountCounts accountId)).length : Int) < e.maxPerAccountPerHour ∧
    (ruleId.truthy = true → ruleId.hashable = true ∧
      ((recent 3600 now (s.ruleCounts ruleId)).length : Int) < e.maxPerRulePerHour)

instance (e : ThrottleEngine) (accountId ruleId : Value) (now : Rat) (s : ThrottleState) :
    Decidable (Eligible e accountId ruleId now s) := inferInstanceAs (Decidable (_ ∧ _ ∧ _))

-- What a call that records nothing does to the state: some lists are pruned.
structure Pruned (now : Rat) (s t : ThrottleState) : Prop where
  totals : t.totalTimestamps = s.totalTimestamps ∨ t.totalTimestamps = recent 60 now s.totalTimestamps
  accounts : ∀ a, t.accountCounts a = s.accountCounts a ∨ t.accountCounts a = recent 3600 now (s.accountCounts a)
  rules : ∀ r, t.ruleCounts r = s.ruleCounts r ∨ t.ruleCounts r = recent 3600 now (s.ruleCounts r)
  stormActive : t.stormActive = s.stormActive
  stormCooldownUntil : t.stormCooldownUntil = s.stormCooldownUntil

-- What a recorded alert leaves: its time at the end of each list it counts in.
structure Admitted (accountId ruleId : Value) (now : Rat) (s t : ThrottleState) : Prop where
  totals : t.totalTimestamps = recent 60 now s.totalTimestamps ++ [now]
  account : t.accountCounts accountId = recent 3600 now (s.accountCounts accountId) ++ [now]
  accounts : ∀ a, a ≠ accountId → t.accountCounts a = s.accountCounts a
  rule : ruleId.truthy = true → t.ruleCounts ruleId = recent 3600 now (s.ruleCounts ruleId) ++ [now]
  rules : ∀ r, (ruleId.truthy = true → r ≠ ruleId) → t.ruleCounts r = s.ruleCounts r
  stormActive : t.stormActive = s.stormActive
  stormCooldownUntil : t.stormCooldownUntil = s.stormCooldownUntil

-- Everything a call can do.
inductive Decided (e : ThrottleEngine) (accountId ruleId : Value) (now : Rat) (s : ThrottleState) :
    Verdict → ThrottleState → Prop where
  | refused {verdict : Verdict} {t : ThrottleState} (pruned : Pruned now s t) (quiet : verdict ≠ triggered)
      (refuses : verdict.admits = false)
      (reason : Storming s now ∨ e.maxTotalPerMinute ≤ (recent 60 now s.totalTimestamps).length ∨
        ((recent 60 now s.totalTimestamps).length < e.stormThreshold ∧ ¬Eligible e accountId ruleId now s)) :
      Decided e accountId ruleId now s verdict t
  | storm (calm : ¬Storming s now) (room : (recent 60 now s.totalTimestamps).length < e.maxTotalPerMinute)
      (reached : e.stormThreshold ≤ (recent 60 now s.totalTimestamps).length) :
      Decided e accountId ruleId now s triggered (startStorm now (pruneTotal now s))
  | admitted {t : ThrottleState} (calm : ¬Storming s now)
      (room : (recent 60 now s.totalTimestamps).length < e.maxTotalPerMinute)
      (below : (recent 60 now s.totalTimestamps).length < e.stormThreshold)
      (eligible : Eligible e accountId ruleId now s) (left : Admitted accountId ruleId now s t) :
      Decided e accountId ruleId now s (.ok (false,"")) t

theorem pruned_self (now : Rat) (s : ThrottleState) : Pruned now s s :=
  ⟨.inl rfl,fun _ => .inl rfl,fun _ => .inl rfl,rfl,rfl⟩

theorem pruned_total (now : Rat) (s : ThrottleState) : Pruned now s (pruneTotal now s) :=
  ⟨.inr rfl,fun _ => .inl rfl,fun _ => .inl rfl,rfl,rfl⟩

theorem pruned_counts (counts : Value → List Rat) (key : Value) (now : Rat) (other : Value) :
    Function.update counts key (recent 3600 now (counts key)) other = counts other ∨
      Function.update counts key (recent 3600 now (counts key)) other = recent 3600 now (counts other) := by
  by_cases same : other = key
  · subst same
    exact .inr (Function.update_self ..)
  · exact .inl (Function.update_of_ne same ..)

theorem pruned_account (now : Rat) (accountId : Value) (s : ThrottleState) :
    Pruned now s (pruneAccount now accountId (pruneTotal now s)) :=
  ⟨.inr rfl,pruned_counts _ _ _,fun _ => .inl rfl,rfl,rfl⟩

theorem pruned_rule (now : Rat) (accountId ruleId : Value) (s : ThrottleState) :
    Pruned now s (pruneRule now ruleId (pruneAccount now accountId (pruneTotal now s))) :=
  ⟨.inr rfl,pruned_counts _ _ _,pruned_counts _ _ _,rfl,rfl⟩

theorem account_count (now : Rat) (accountId : Value) (s : ThrottleState) :
    (pruneAccount now accountId (pruneTotal now s)).accountCounts accountId =
      recent 3600 now (s.accountCounts accountId) := Function.update_self ..

theorem rule_count (now : Rat) (accountId ruleId : Value) (s : ThrottleState) :
    (pruneRule now ruleId (pruneAccount now accountId (pruneTotal now s))).ruleCounts ruleId =
      recent 3600 now (s.ruleCounts ruleId) := Function.update_self ..

theorem admitted_unruled (now : Rat) (accountId ruleId : Value) (s : ThrottleState) (unruled : ruleId.truthy = false) :
    Admitted accountId ruleId now s (recordAlert now accountId (pruneAccount now accountId (pruneTotal now s))) := by
  refine ⟨rfl,?_,?_,?_,fun _ _ => rfl,rfl,rfl⟩
  · simp [recordAlert,pruneAccount,pruneTotal]
  · intro a other
    simp [recordAlert,pruneAccount,pruneTotal,other]
  · intro ruled
    rw [unruled] at ruled
    cases ruled

theorem admitted_ruled (now : Rat) (accountId ruleId : Value) (s : ThrottleState) (ruled : ruleId.truthy = true) :
    Admitted accountId ruleId now s (recordRule now ruleId (recordAlert now accountId
      (pruneRule now ruleId (pruneAccount now accountId (pruneTotal now s))))) := by
  refine ⟨rfl,?_,?_,fun _ => ?_,?_,rfl,rfl⟩
  · simp [recordRule,recordAlert,pruneRule,pruneAccount,pruneTotal]
  · intro a other
    simp [recordRule,recordAlert,pruneRule,pruneAccount,pruneTotal,other]
  · simp [recordRule,recordAlert,pruneRule,pruneAccount,pruneTotal]
  · intro r other
    simp [recordRule,recordAlert,pruneRule,pruneAccount,pruneTotal,other ruled]

theorem quiet_reason {text : String} (other : text ≠ "alert_storm_triggered") : (.ok (true,text) : Verdict) ≠ triggered := by
  intro same
  exact other (congrArg Prod.snd (Except.ok.inj same))

theorem account_reason (text : String) : "account_rate_exceeded:" ++ text ≠ "alert_storm_triggered" := by
  intro same
  have starts := congrArg (fun t => t.toList.take 2) same
  simp at starts

theorem rule_reason (text : String) : "rule_rate_exceeded:" ++ text ≠ "alert_storm_triggered" := by
  intro same
  have starts := congrArg (fun t => t.toList.take 1) same
  simp at starts

theorem shouldThrottle_decided (e : ThrottleEngine) (accountId ruleId : Value) (now : Rat) (s : ThrottleState) :
    Decided e accountId ruleId now s (shouldThrottle e accountId ruleId now s).1
      (shouldThrottle e accountId ruleId now s).2 := by
  unfold shouldThrottle
  by_cases storming : s.stormActive = true ∧ now < s.stormCooldownUntil
  · rw [if_pos storming]
    exact .refused (pruned_self now s) (quiet_reason (by decide)) rfl (.inl storming)
  rw [if_neg storming]
  by_cases full : e.maxTotalPerMinute ≤ (recent 60 now s.totalTimestamps).length
  · rw [if_pos (by exact full)]
    exact .refused (pruned_total now s) (quiet_reason (by decide)) rfl (.inr (.inl full))
  rw [if_neg (by exact full)]
  by_cases reached : e.stormThreshold ≤ (recent 60 now s.totalTimestamps).length
  · rw [if_pos (by exact reached)]
    exact .storm storming (by omega) reached
  rw [if_neg (by exact reached)]
  have below : ((recent 60 now s.totalTimestamps).length : Int) < e.stormThreshold := by omega
  by_cases keyed : accountId.hashable = false
  · rw [if_pos keyed]
    refine .refused (pruned_total now s) (by simp [triggered]) rfl (.inr (.inr ⟨below,?_⟩))
    intro eligible
    exact absurd (eligible.1.symm.trans keyed) (by decide)
  rw [if_neg keyed]
  by_cases often : e.maxPerAccountPerHour ≤
      ((pruneAccount now accountId (pruneTotal now s)).accountCounts accountId).length
  · rw [if_pos often]
    refine .refused (pruned_account now accountId s) (quiet_reason (account_reason _)) rfl (.inr (.inr ⟨below,?_⟩))
    intro eligible
    have room := eligible.2.1
    rw [account_count] at often
    omega
  rw [if_neg often]
  rw [account_count] at often
  by_cases unruled : ruleId.truthy = false
  · rw [if_pos unruled]
    refine .admitted storming (by omega) below ⟨by simpa using keyed,by omega,?_⟩ (admitted_unruled now accountId ruleId s unruled)
    intro ruled
    exact absurd (ruled.symm.trans unruled) (by decide)
  rw [if_neg unruled]
  have ruled : ruleId.truthy = true := by simpa using unruled
  by_cases named : ruleId.hashable = false
  · rw [if_pos named]
    refine .refused (pruned_account now accountId s) (by simp [triggered]) rfl (.inr (.inr ⟨below,?_⟩))
    intro eligible
    exact absurd ((eligible.2.2 ruled).1.symm.trans named) (by decide)
  rw [if_neg named]
  by_cases worn : e.maxPerRulePerHour ≤
      ((pruneRule now ruleId (pruneAccount now accountId (pruneTotal now s))).ruleCounts ruleId).length
  · rw [if_pos worn]
    refine .refused (pruned_rule now accountId ruleId s) (quiet_reason (rule_reason _)) rfl (.inr (.inr ⟨below,?_⟩))
    intro eligible
    have room := (eligible.2.2 ruled).2
    rw [rule_count] at worn
    omega
  rw [if_neg worn]
  rw [rule_count] at worn
  exact .admitted storming (by omega) below ⟨by simpa using keyed,by omega,fun _ => ⟨by simpa using named,by omega⟩⟩
    (admitted_ruled now accountId ruleId s ruled)

-- A sequence of calls: time goes by between them, and the clock never goes back.
inductive ThrottleAction where
  | passes (elapsed : {q : Rat // 0 ≤ q})
  | call (accountId ruleId : Value)

structure Admission where
  time : Rat
  accountId : Value
  ruleId : Value

-- The engine along a run, with the clock and the calls admitted so far.
structure ThrottleTrace where
  now : Rat
  engine : ThrottleState
  admitted : List Admission

def ThrottleTrace.start : ThrottleTrace := ⟨0,.start,[]⟩

namespace ThrottleTrace

def times (t : ThrottleTrace) : List Rat := t.admitted.map Admission.time

def accountTimes (t : ThrottleTrace) (accountId : Value) : List Rat :=
  (t.admitted.filter fun a => decide (a.accountId = accountId)).map Admission.time

def ruleTimes (t : ThrottleTrace) (ruleId : Value) : List Rat :=
  (t.admitted.filter fun a => decide (a.ruleId = ruleId)).map Admission.time

end ThrottleTrace

def verdict (e : ThrottleEngine) (t : ThrottleTrace) (accountId ruleId : Value) : Verdict :=
  (shouldThrottle e accountId ruleId t.now t.engine).1

def called (e : ThrottleEngine) (t : ThrottleTrace) (accountId ruleId : Value) : ThrottleTrace where
  now := t.now
  engine := (shouldThrottle e accountId ruleId t.now t.engine).2
  admitted := if (verdict e t accountId ruleId).admits then t.admitted ++ [⟨t.now,accountId,ruleId⟩] else t.admitted

def step (e : ThrottleEngine) (t : ThrottleTrace) : ThrottleAction → ThrottleTrace
  | .passes elapsed => {t with now := t.now + elapsed.1}
  | .call accountId ruleId => called e t accountId ruleId

structure Bounded (e : ThrottleEngine) (t : ThrottleTrace) : Prop where
  total : Limited 60 e.maxTotalPerMinute.toNat t.now t.engine.totalTimestamps t.times
  account : ∀ a, Limited 3600 e.maxPerAccountPerHour.toNat t.now (t.engine.accountCounts a) (t.accountTimes a)
  rule : ∀ r, r.truthy = true → Limited 3600 e.maxPerRulePerHour.toNat t.now (t.engine.ruleCounts r) (t.ruleTimes r)

theorem start_bounded (e : ThrottleEngine) : Bounded e .start :=
  ⟨Limited.start _ _,fun _ => Limited.start _ _,fun _ _ => Limited.start _ _⟩

theorem passes_bounded (bounded : Bounded e t) (elapsed : {q : Rat // 0 ≤ q}) :
    Bounded e (step e t (.passes elapsed)) := by
  have after : t.now ≤ t.now + elapsed.1 := le_add_of_nonneg_right elapsed.2
  exact ⟨bounded.total.later after,fun a => (bounded.account a).later after,
    fun r ruled => (bounded.rule r ruled).later after⟩

theorem called_decided (e : ThrottleEngine) (t : ThrottleTrace) (accountId ruleId : Value) :
    Decided e accountId ruleId t.now t.engine (verdict e t accountId ruleId) (called e t accountId ruleId).engine :=
  shouldThrottle_decided e accountId ruleId t.now t.engine

theorem bounded_refused (bounded : Bounded e t) (pruned : Pruned t.now t.engine s) :
    Bounded e ⟨t.now,s,t.admitted⟩ :=
  ⟨bounded.total.pruned pruned.totals,fun a => (bounded.account a).pruned (pruned.accounts a),
    fun r ruled => (bounded.rule r ruled).pruned (pruned.rules r)⟩

theorem bounded_storm (bounded : Bounded e t) :
    Bounded e ⟨t.now,startStorm t.now (pruneTotal t.now t.engine),t.admitted⟩ :=
  ⟨bounded.total.pruned (.inr rfl),bounded.account,bounded.rule⟩

theorem bounded_admitted (bounded : Bounded e t) (left : Admitted accountId ruleId t.now t.engine s)
    (room : (recent 60 t.now t.engine.totalTimestamps).length < e.maxTotalPerMinute)
    (eligible : Eligible e accountId ruleId t.now t.engine) :
    Bounded e ⟨t.now,s,t.admitted ++ [⟨t.now,accountId,ruleId⟩]⟩ := by
  refine ⟨?total,?account,?rule⟩
  case total =>
    have grown := bounded.total.add (by omega)
    rw [← left.totals] at grown
    simpa [ThrottleTrace.times] using grown
  case account =>
    intro a
    by_cases same : a = accountId
    · subst same
      have spare := eligible.2.1
      have grown := (bounded.account a).add (by omega)
      rw [← left.account] at grown
      simpa [ThrottleTrace.accountTimes,List.filter_append] using grown
    · have other : accountId ≠ a := fun swapped => same swapped.symm
      have kept := bounded.account a
      rw [← left.accounts a same] at kept
      simpa [ThrottleTrace.accountTimes,List.filter_append,other] using kept
  case rule =>
    intro r ruled
    by_cases same : r = ruleId
    · subst same
      have spare := (eligible.2.2 ruled).2
      have grown := (bounded.rule r ruled).add (by omega)
      rw [← left.rule ruled] at grown
      simpa [ThrottleTrace.ruleTimes,List.filter_append] using grown
    · have other : ruleId ≠ r := fun swapped => same swapped.symm
      have kept := bounded.rule r ruled
      rw [← left.rules r fun _ => same] at kept
      simpa [ThrottleTrace.ruleTimes,List.filter_append,other] using kept

theorem called_bounded (bounded : Bounded e t) (accountId ruleId : Value) :
    Bounded e (called e t accountId ruleId) := by
  have decided := called_decided e t accountId ruleId
  unfold called at decided ⊢
  dsimp only at decided ⊢
  generalize (shouldThrottle e accountId ruleId t.now t.engine).2 = s at decided ⊢
  generalize verdict e t accountId ruleId = v at decided ⊢
  cases decided with
  | refused pruned quiet refuses reason =>
    rw [refuses]
    exact bounded_refused bounded pruned
  | storm calm room reached => exact bounded_storm bounded
  | admitted calm room below eligible left => exact bounded_admitted bounded left room eligible

theorem step_bounded (e : ThrottleEngine) (t : ThrottleTrace) (action : ThrottleAction) (bounded : Bounded e t) :
    Bounded e (step e t action) := by
  cases action with
  | passes elapsed => exact passes_bounded bounded elapsed
  | call accountId ruleId => exact called_bounded bounded accountId ruleId

theorem run_bounded (e : ThrottleEngine) (actions : List ThrottleAction) :
    Bounded e (Runs.run (step e) .start actions) :=
  Runs.run_keeps (step e) (step_bounded e) (start_bounded e) actions

section WithoutDenial

-- Two states no later call can tell apart: the lists agree in every window to come.
structure Alike (now : Rat) (s t : ThrottleState) : Prop where
  totals : Tracks 60 now s.totalTimestamps t.totalTimestamps
  accounts : ∀ a, Tracks 3600 now (s.accountCounts a) (t.accountCounts a)
  rules : ∀ r, Tracks 3600 now (s.ruleCounts r) (t.ruleCounts r)
  stormActive : s.stormActive = t.stormActive
  stormCooldownUntil : s.stormCooldownUntil = t.stormCooldownUntil

theorem Alike.later (alike : Alike now s t) (after : now ≤ moved) : Alike moved s t :=
  ⟨alike.totals.later after,fun a => (alike.accounts a).later after,fun r => (alike.rules r).later after,
    alike.stormActive,alike.stormCooldownUntil⟩

theorem tracks_pruned (span now : Rat) {kept log : List Rat} (same : kept = log ∨ kept = recent span now log) :
    Tracks span now kept log := by
  rcases same with rfl | rfl
  · exact tracks_self _ _ _
  · exact (tracks_self _ _ _).prune

theorem Pruned.alike (pruned : Pruned now s t) : Alike now t s :=
  ⟨tracks_pruned _ _ pruned.totals,fun a => tracks_pruned _ _ (pruned.accounts a),
    fun r => tracks_pruned _ _ (pruned.rules r),pruned.stormActive,pruned.stormCooldownUntil⟩

theorem Alike.symm (alike : Alike now s t) : Alike now t s :=
  ⟨fun later after => (alike.totals later after).symm,fun a later after => (alike.accounts a later after).symm,
    fun r later after => (alike.rules r later after).symm,alike.stormActive.symm,alike.stormCooldownUntil.symm⟩

theorem Alike.trans (first : Alike now s t) (second : Alike now t u) : Alike now s u :=
  ⟨fun later after => (first.totals later after).trans (second.totals later after),
    fun a later after => (first.accounts a later after).trans (second.accounts a later after),
    fun r later after => (first.rules r later after).trans (second.rules r later after),
    first.stormActive.trans second.stormActive,first.stormCooldownUntil.trans second.stormCooldownUntil⟩

theorem verdict_alike (e : ThrottleEngine) (accountId ruleId : Value) (alike : Alike now s t) :
    (shouldThrottle e accountId ruleId now s).1 = (shouldThrottle e accountId ruleId now t).1 := by
  have totals := alike.totals now le_rfl
  have account := alike.accounts accountId now le_rfl
  have rule := alike.rules ruleId now le_rfl
  simp only [shouldThrottle,pruneTotal,pruneAccount,pruneRule,apply_ite Prod.fst,Function.update_self,
    alike.stormActive,alike.stormCooldownUntil,totals,account,rule]

theorem storm_alike (alike : Alike now s t) :
    Alike now (startStorm now (pruneTotal now s)) (startStorm now (pruneTotal now t)) := by
  refine ⟨?_,alike.accounts,alike.rules,rfl,rfl⟩
  show Tracks 60 now (recent 60 now s.totalTimestamps) (recent 60 now t.totalTimestamps)
  rw [alike.totals now le_rfl]
  exact tracks_self _ _ _

theorem admitted_alike (alike : Alike now s t) (first : Admitted accountId ruleId now s u)
    (second : Admitted accountId ruleId now t v) : Alike now u v := by
  refine ⟨?_,?_,?_,?_,?_⟩
  · rw [first.totals,second.totals,alike.totals now le_rfl]
    exact tracks_self _ _ _
  · intro a
    by_cases same : a = accountId
    · subst same
      rw [first.account,second.account,alike.accounts a now le_rfl]
      exact tracks_self _ _ _
    · rw [first.accounts a same,second.accounts a same]
      exact alike.accounts a
  · intro r
    by_cases ruled : ruleId.truthy = true ∧ r = ruleId
    · obtain ⟨truthy,rfl⟩ := ruled
      rw [first.rule truthy,second.rule truthy,alike.rules r now le_rfl]
      exact tracks_self _ _ _
    · have other : ruleId.truthy = true → r ≠ ruleId := fun truthy same => ruled ⟨truthy,same⟩
      rw [first.rules r other,second.rules r other]
      exact alike.rules r
  · rw [first.stormActive,second.stormActive,alike.stormActive]
  · rw [first.stormCooldownUntil,second.stormCooldownUntil,alike.stormCooldownUntil]

theorem decided_alike (alike : Alike now s t) (first : Decided e accountId ruleId now s v u)
    (second : Decided e accountId ruleId now t w x) (same : v = w) : Alike now u x := by
  cases first with
  | refused pruned quiet refuses reason =>
    cases second with
    | refused pruned' => exact (pruned.alike.trans alike).trans pruned'.alike.symm
    | storm => exact absurd same quiet
    | admitted => rw [same] at refuses; cases refuses
  | storm calm room reached =>
    cases second with
    | refused _ quiet => exact absurd same.symm quiet
    | storm => exact storm_alike alike
    | admitted => cases same
  | admitted calm room below eligible left =>
    cases second with
    | refused _ _ refuses => rw [← same] at refuses; cases refuses
    | storm => cases same
    | admitted _ _ _ _ left' => exact admitted_alike alike left left'

-- The verdicts of the calls of a run, in order.
def verdicts (e : ThrottleEngine) : ThrottleTrace → List ThrottleAction → List Verdict
  | _,[] => []
  | t,.passes elapsed :: rest => verdicts e (step e t (.passes elapsed)) rest
  | t,.call accountId ruleId :: rest => verdict e t accountId ruleId :: verdicts e (called e t accountId ruleId) rest

-- By induction on the calls still to come.
theorem verdicts_alike (e : ThrottleEngine) (actions : List ThrottleAction) (clock : s.now = t.now)
    (alike : Alike s.now s.engine t.engine) : verdicts e s actions = verdicts e t actions := by
  induction actions generalizing s t with
  | nil => rfl
  | cons action rest ih =>
    cases action with
    | passes elapsed =>
      have after : s.now ≤ s.now + elapsed.1 := le_add_of_nonneg_right elapsed.2
      apply ih
      · show s.now + elapsed.1 = t.now + elapsed.1
        rw [clock]
      · exact alike.later after
    | call accountId ruleId =>
      have agree : verdict e s accountId ruleId = verdict e t accountId ruleId := by
        unfold verdict
        rw [← clock]
        exact verdict_alike e accountId ruleId alike
      rw [verdicts,verdicts,agree]
      congr 1
      apply ih
      · exact clock
      · have second := called_decided e t accountId ruleId
        rw [← clock] at second
        exact decided_alike alike (called_decided e s accountId ruleId) second agree

-- A denied call that declares no storm changes no later verdict.
theorem denial_free (e : ThrottleEngine) (t : ThrottleTrace) (accountId ruleId : Value)
    (denied : (verdict e t accountId ruleId).denies = true) (quiet : verdict e t accountId ruleId ≠ triggered)
    (later : List ThrottleAction) : verdicts e (called e t accountId ruleId) later = verdicts e t later := by
  have decided := called_decided e t accountId ruleId
  refine verdicts_alike e later (show (called e t accountId ruleId).now = t.now from rfl) ?_
  show Alike t.now (called e t accountId ruleId).engine t.engine
  generalize (called e t accountId ruleId).engine = s at decided ⊢
  generalize verdict e t accountId ruleId = v at decided denied quiet
  cases decided with
  | refused pruned => exact pruned.alike
  | storm => exact absurd rfl quiet
  | admitted => cases denied

end WithoutDenial

def Positive (e : ThrottleEngine) : Prop :=
  0 < e.maxTotalPerMinute ∧ 0 < e.maxPerAccountPerHour ∧ 0 < e.maxPerRulePerHour

instance (e : ThrottleEngine) : Decidable (Positive e) := inferInstanceAs (Decidable (_ ∧ _ ∧ _))

theorem throttle_bounds (e : ThrottleEngine) (positive : Positive e) (actions : List ThrottleAction) :
    let t := Runs.run (step e) .start actions
    (∀ position, ((within 60 position t.times).length : Int) ≤ e.maxTotalPerMinute) ∧
    (∀ accountId position, ((within 3600 position (t.accountTimes accountId)).length : Int) ≤ e.maxPerAccountPerHour) ∧
    (∀ ruleId position, ruleId.truthy = true →
      ((within 3600 position (t.ruleTimes ruleId)).length : Int) ≤ e.maxPerRulePerHour) ∧
    (∀ accountId ruleId later, (verdict e t accountId ruleId).denies = true →
      verdict e t accountId ruleId ≠ triggered →
      verdicts e (step e t (.call accountId ruleId)) later = verdicts e t later) := by
  intro t
  have bounded : Bounded e t := run_bounded e actions
  obtain ⟨someTotal,someAccount,someRule⟩ := positive
  refine ⟨?total,?account,?rule,?free⟩
  case total =>
    intro position
    have few := bounded.total.paced.bounded position
    omega
  case account =>
    intro accountId position
    have few := (bounded.account accountId).paced.bounded position
    omega
  case rule =>
    intro ruleId position ruled
    have few := (bounded.rule ruleId ruled).paced.bounded position
    omega
  case free =>
    intro accountId ruleId later denied quiet
    exact denial_free e t accountId ruleId denied quiet later

section EmptyRule

def oneEach : ThrottleEngine := ⟨1,1,5,200,fun _ => ""⟩

theorem one_each_bounds :
    ((within 60 0 (Runs.run (step oneEach) .start [.call (.str "ACC-1") (.str "R001")]).times).length : Int) ≤ 5 :=
  (throttle_bounds oneEach (by decide) [.call (.str "ACC-1") (.str "R001")]).1 0

-- An empty rule id counts against no rule: two accounts alert for it at once.
theorem empty_rule_unbounded :
    ¬∀ (e : ThrottleEngine) (actions : List ThrottleAction), Positive e → ∀ ruleId position,
      ((within 3600 position ((Runs.run (step e) .start actions).ruleTimes ruleId)).length : Int) ≤
        e.maxPerRulePerHour := by
  intro bounds
  have two := bounds oneEach [.call (.str "ACC-1") (.str ""),.call (.str "ACC-2") (.str "")] (by decide) (.str "") 0
  revert two
  decide +kernel

end EmptyRule

end RiskPulse.ThrottleEngine
