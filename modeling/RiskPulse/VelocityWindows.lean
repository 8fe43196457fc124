import RiskPulse.CacheHandler
import RiskPulse.Library.Bursts
import RiskPulse.Library.Runs

namespace RiskPulse

inductive VelocityAction where
  | increment (customerId windowKey : RedisText) (ttl : Int) (outcome : RedisOutcome)
  | get (customerId windowKey : RedisText) (outcome : RedisOutcome)
  | elapse (time : {q : Rat // 0 ≤ q})

-- An increment that Redis has executed.
structure Arrival where
  customerId : RedisText
  windowKey : RedisText
  ttl : Int
  time : Rat

-- The counters, the increments so far and the customers and windows of the calls so far.
structure VelocityRun where
  store : VelocityStore
  arrivals : List Arrival
  called : List (RedisText × RedisText)

namespace VelocityRun
open CacheHandler SlidingWindow Bursts

def ofPair (r : VelocityRun) (customerId windowKey : RedisText) : List Arrival :=
  r.arrivals.filter fun a => decide (a.customerId = customerId ∧ a.windowKey = windowKey)

def times (r : VelocityRun) (customerId windowKey : RedisText) : List Rat := (r.ofPair customerId windowKey).map Arrival.time

def step (r : VelocityRun) : VelocityAction → VelocityRun
  | .increment customerId windowKey ttl outcome =>
    {r with
      store := (incrementVelocityCounter customerId windowKey ttl outcome r.store).2
      arrivals := if outcome.executed then r.arrivals ++ [⟨customerId,windowKey,ttl,r.store.now⟩] else r.arrivals
      called := r.called ++ [(customerId,windowKey)]}
  | .get customerId windowKey outcome =>
    {r with
      store := (getVelocityCount customerId windowKey outcome r.store).2
      called := r.called ++ [(customerId,windowKey)]}
  | .elapse time => {r with store := {r.store with now := r.store.now + time.val}}

def start : VelocityRun := ⟨⟨0,fun _ => none,0⟩,[],[]⟩

-- What a call reports is the number of increments in the last ttl seconds or in the fixed
-- window that is on, and no more than a rate that the increments keep to.
structure Reported (ttl : Int) (now : Rat) (log : List Rat) (value : Nat) : Prop where
  window : value = (recent (ttl : Rat) now log).length ∨ value = inWindow (ttl : Rat) now log
  rate : ∀ r, (∀ t, (within (ttl : Rat) t log).length ≤ r) → value ≤ r

-- The time to live of the last increment.
def lastTtl (r : VelocityRun) (customerId windowKey : RedisText) : Int :=
  ((r.ofPair customerId windowKey).getLast?.map Arrival.ttl).getD 0

-- No other customer and window of the run has the key.
def OwnKey (r : VelocityRun) (customerId windowKey : RedisText) : Prop :=
  ∀ c w, (c,w) ∈ r.called → velocityKey c w = velocityKey customerId windowKey → c = customerId ∧ w = windowKey

def Windowed (r : VelocityRun) : VelocityAction → Prop
  | .increment customerId windowKey ttl outcome =>
    Reported ttl r.store.now (r.times customerId windowKey ++ [r.store.now]) (incrementVelocityCounter customerId windowKey ttl outcome r.store).1 ∧
      OwnKey r customerId windowKey
  | .get customerId windowKey outcome =>
    Reported (lastTtl r customerId windowKey) r.store.now (r.times customerId windowKey) (getVelocityCount customerId windowKey outcome r.store).1 ∧
      OwnKey r customerId windowKey
  | .elapse _ => True

-- A customer goes on with a colon where the other ends, and takes from the window what the
-- other leaves to it.
def Extends (customerId windowKey other otherWindow : RedisText) : Prop :=
  ∃ more, customerId = other ++ utf8 ":" ++ more ∧ otherWindow = more ++ utf8 ":" ++ windowKey

def Apart (r : VelocityRun) (customerId windowKey : RedisText) : Prop :=
  ∀ c w, (c,w) ∈ r.called → ¬Extends customerId windowKey c w ∧ ¬Extends c w customerId windowKey

-- Redis answers; the increments of the customer and window have one time to live, which is
-- positive; the call comes within it of the first increment of a burst that is still on; and
-- no identifier before runs into this one.
def Calm (r : VelocityRun) : VelocityAction → Prop
  | .increment customerId windowKey ttl outcome =>
    outcome = .answered ∧ 0 < ttl ∧ (∀ a ∈ r.ofPair customerId windowKey, a.ttl = ttl) ∧
      Prompt (ttl : Rat) r.store.now (bursts (ttl : Rat) (r.times customerId windowKey)) ∧ Apart r customerId windowKey
  | .get customerId windowKey outcome =>
    outcome = .answered ∧
      Prompt (lastTtl r customerId windowKey : Rat) r.store.now (bursts (lastTtl r customerId windowKey : Rat) (r.times customerId windowKey)) ∧
      Apart r customerId windowKey
  | .elapse _ => True

theorem velocityKey_same (c w customerId windowKey : RedisText) :
    velocityKey c w = velocityKey customerId windowKey ↔
      (c = customerId ∧ w = windowKey) ∨ Extends c w customerId windowKey ∨ Extends customerId windowKey c w := by
  have colon : utf8 ":" = [58] := rfl
  have shape : ∀ a b, velocityKey a b = prefixVelocity ++ (a ++ 58 :: b) := by
    intro a b
    rw [velocityKey,colon]
    simp
  constructor
  · intro same
    rw [shape,shape,List.append_cancel_left_eq] at same
    rcases List.append_eq_append_iff.mp same with ⟨more,whole,rest⟩ | ⟨more,whole,rest⟩
    · cases more with
      | nil =>
        cases rest
        exact .inl ⟨(List.append_nil c ▸ whole).symm,rfl⟩
      | cons first more =>
        cases rest
        refine .inr (.inr ⟨more,?_,?_⟩)
        · rw [whole,colon]
          simp
        · rw [colon]
          simp
    · cases more with
      | nil =>
        cases rest
        exact .inl ⟨List.append_nil customerId ▸ whole,rfl⟩
      | cons first more =>
        cases rest
        refine .inr (.inl ⟨more,?_,?_⟩)
        · rw [whole,colon]
          simp
        · rw [colon]
          simp
  · intro either
    rcases either with ⟨rfl,rfl⟩ | ⟨more,rfl,rfl⟩ | ⟨more,rfl,rfl⟩
    · rfl
    · rw [shape,shape,colon]
      simp
    · rw [shape,shape,colon]
      simp

theorem apart_own (apart : Apart r customerId windowKey) : OwnKey r customerId windowKey := by
  intro c w member same
  obtain ⟨one,two⟩ := apart c w member
  rcases (velocityKey_same c w customerId windowKey).mp same with equal | onward | onward
  · exact equal
  · exact absurd onward two
  · exact absurd onward one

-- What a calm run keeps: the counter of a customer and window is that of its bursts.
structure Kept (r : VelocityRun) : Prop where
  counters : ∀ c w (ttl : Int), OwnKey r c w → (∀ a ∈ r.ofPair c w, a.ttl = ttl) →
    r.store.counters (velocityKey c w) = (bursts (ttl : Rat) (r.times c w)).map fun b => (b.count,b.last + (ttl : Rat))
  uniform : ∀ c w, ∀ a ∈ r.ofPair c w, a.ttl = lastTtl r c w
  sorted : (r.arrivals.map Arrival.time).Pairwise (· ≤ ·)
  past : ∀ a ∈ r.arrivals, a.time ≤ r.store.now

theorem start_kept : Kept start := by
  refine ⟨fun _ _ _ _ _ => rfl,?_,List.Pairwise.nil,?_⟩
  · intro c w a member
    cases member
  · intro a member
    cases member

section Kept
variable {r : VelocityRun} {c w : RedisText}

theorem Kept.times_sorted (kept : Kept r) (c w : RedisText) : (r.times c w).Pairwise (· ≤ ·) :=
  List.pairwise_map.mpr ((List.pairwise_map.mp kept.sorted).filter _)

theorem Kept.times_past (kept : Kept r) (c w : RedisText) : ∀ t ∈ r.times c w, t ≤ r.store.now := by
  intro t member
  obtain ⟨a,inside,rfl⟩ := List.mem_map.mp member
  exact kept.past a (List.mem_of_mem_filter inside)

theorem Kept.reads (kept : Kept r) (own : OwnKey r c w) (same : ∀ a ∈ r.ofPair c w, a.ttl = ttl) :
    counter r.store (velocityKey c w) = reading (ttl : Rat) r.store.now (bursts (ttl : Rat) (r.times c w)) := by
  unfold counter
  rw [kept.counters c w ttl own same]
  cases bursts (ttl : Rat) (r.times c w) with
  | none => rfl
  | some b => rfl

theorem reported_recent {ttl : Int} {now : Rat} {log : List Rat} (past : ∀ t ∈ log, t ≤ now) (value : reported = (recent (ttl : Rat) now log).length) :
    Reported ttl now log reported := by
  refine ⟨.inl value,?_⟩
  intro r bounded
  have same : recent (ttl : Rat) now log = within (ttl : Rat) now log := by
    apply List.filter_congr
    intro t member
    simp [past t member]
  rw [value,same]
  exact bounded now

theorem ownKey_earlier {action : VelocityAction} (own : OwnKey (step r action) c w) : OwnKey r c w := by
  intro c' w' member
  apply own c' w'
  cases action with
  | increment _ _ _ _ => exact List.mem_append_left _ member
  | get _ _ _ => exact List.mem_append_left _ member
  | elapse _ => exact member

-- The increments of a customer and window after one more.
theorem ofPair_increment (customerId windowKey : RedisText) (ttl : Int) :
    ofPair (step r (.increment customerId windowKey ttl .answered)) c w =
      if c = customerId ∧ w = windowKey then r.ofPair c w ++ [⟨customerId,windowKey,ttl,r.store.now⟩] else r.ofPair c w := by
  have longer : (step r (.increment customerId windowKey ttl .answered)).arrivals = r.arrivals ++ [⟨customerId,windowKey,ttl,r.store.now⟩] := rfl
  unfold ofPair
  rw [longer,List.filter_append]
  by_cases same : c = customerId ∧ w = windowKey
  · obtain ⟨rfl,rfl⟩ := same
    simp
  · have other : ¬(customerId = c ∧ windowKey = w) := fun equal => same ⟨equal.1.symm,equal.2.symm⟩
    simp [same,other]

-- The counter of the customer and window that an increment is for.
theorem incremented (kept : Kept r) (positive : 0 < ttl) (same : ∀ a ∈ r.ofPair c w, a.ttl = ttl) (own : OwnKey r c w) :
    (incrAndExpire (velocityKey c w) ttl r.store).counters (velocityKey c w) =
      (bursts (ttl : Rat) (r.times c w ++ [r.store.now])).map fun b => (b.count,b.last + (ttl : Rat)) := by
  obtain ⟨first,arrived⟩ := arrive_counts (ttl : Rat) r.store.now (bursts (ttl : Rat) (r.times c w))
  have counted : (incrAndExpire (velocityKey c w) ttl r.store).counters (velocityKey c w) =
      some (counter r.store (velocityKey c w) + 1,r.store.now + ttl) := by
    rw [incrAndExpire,if_pos positive]
    exact Function.update_self _ _ _
  rw [counted,kept.reads own same,bursts_append]
  change _ = Option.map _ (arrive (ttl : Rat) (bursts (ttl : Rat) (r.times c w)) r.store.now)
  rw [arrived]
  rfl

theorem increment_kept (kept : Kept r) (positive : 0 < ttl) (same : ∀ a ∈ r.ofPair customerId windowKey, a.ttl = ttl)
    (own : OwnKey r customerId windowKey) : Kept (step r (.increment customerId windowKey ttl .answered)) := by
  refine ⟨?_,?_,?_,?_⟩
  · intro c w ttl' owned all
    rw [ofPair_increment] at all
    have store : (step r (.increment customerId windowKey ttl .answered)).store = incrAndExpire (velocityKey customerId windowKey) ttl r.store := rfl
    rw [store,times,ofPair_increment]
    by_cases equal : c = customerId ∧ w = windowKey
    · rw [if_pos equal] at all ⊢
      obtain ⟨rfl,rfl⟩ := equal
      have this := all ⟨c,w,ttl,r.store.now⟩ (List.mem_append_right _ (List.mem_singleton_self _))
      change ttl = ttl' at this
      subst this
      rw [incremented kept positive same own,List.map_append,List.map_singleton]
      rfl
    · rw [if_neg equal] at all ⊢
      have apart : velocityKey c w ≠ velocityKey customerId windowKey := by
        intro shared
        have called := owned customerId windowKey (List.mem_append_right _ (List.mem_singleton_self _)) shared.symm
        exact equal ⟨called.1.symm,called.2.symm⟩
      have untouched : (incrAndExpire (velocityKey customerId windowKey) ttl r.store).counters (velocityKey c w) =
          r.store.counters (velocityKey c w) := Function.update_of_ne apart _ _
      rw [untouched]
      exact kept.counters c w ttl' (ownKey_earlier owned) all
  · intro c w a member
    unfold lastTtl
    rw [ofPair_increment] at member ⊢
    by_cases equal : c = customerId ∧ w = windowKey
    · rw [if_pos equal] at member ⊢
      obtain ⟨rfl,rfl⟩ := equal
      rw [List.getLast?_concat]
      rcases mem_snoc member with old | rfl
      · exact same a old
      · rfl
    · rw [if_neg equal] at member ⊢
      exact kept.uniform c w a member
  · change ((r.arrivals ++ [(⟨customerId,windowKey,ttl,r.store.now⟩ : Arrival)]).map Arrival.time).Pairwise (· ≤ ·)
    rw [List.map_append]
    refine List.pairwise_append.mpr ⟨kept.sorted,List.pairwise_singleton _ _,?_⟩
    intro t member last now
    obtain ⟨a,inside,rfl⟩ := List.mem_map.mp member
    cases List.mem_singleton.mp now
    exact kept.past a inside
  · intro a member
    have either : a ∈ r.arrivals ∨ a = ⟨customerId,windowKey,ttl,r.store.now⟩ := mem_snoc member
    rcases either with old | rfl
    · exact kept.past a old
    · exact le_refl _

theorem get_kept (kept : Kept r) (customerId windowKey : RedisText) : Kept (step r (.get customerId windowKey .answered)) :=
  ⟨fun c w ttl own => kept.counters c w ttl (ownKey_earlier own),kept.uniform,kept.sorted,kept.past⟩

theorem elapse_kept (kept : Kept r) (time : {q : Rat // 0 ≤ q}) : Kept (step r (.elapse time)) := by
  refine ⟨kept.counters,kept.uniform,kept.sorted,?_⟩
  intro a member
  exact (kept.past a member).trans (le_add_of_nonneg_right time.property)

theorem step_kept (r : VelocityRun) (action : VelocityAction) (kept : Kept r) (calm : Calm r action) : Kept (step r action) := by
  cases action with
  | increment customerId windowKey ttl outcome =>
    obtain ⟨rfl,positive,same,_,apart⟩ := calm
    exact increment_kept kept positive same (apart_own apart)
  | get customerId windowKey outcome =>
    obtain ⟨rfl,_,_⟩ := calm
    exact get_kept kept customerId windowKey
  | elapse time => exact elapse_kept kept time

theorem step_windowed (r : VelocityRun) (action : VelocityAction) (kept : Kept r) (calm : Calm r action) : Windowed r action := by
  cases action with
  | increment customerId windowKey ttl outcome =>
    obtain ⟨rfl,positive,same,prompt,apart⟩ := calm
    refine ⟨reported_recent ?_ ?_,apart_own apart⟩
    · intro t member
      rcases mem_snoc member with old | rfl
      · exact kept.times_past _ _ t old
      · exact le_refl _
    · change counter r.store (velocityKey customerId windowKey) + 1 = _
      rw [kept.reads (apart_own apart) same]
      exact arrive_recent (by exact_mod_cast positive) (kept.times_sorted _ _) (kept.times_past _ _) prompt
  | get customerId windowKey outcome =>
    obtain ⟨rfl,prompt,apart⟩ := calm
    refine ⟨reported_recent (kept.times_past _ _) ?_,apart_own apart⟩
    change counter r.store (velocityKey customerId windowKey) = _
    rw [kept.reads (apart_own apart) (kept.uniform _ _)]
    exact reading_recent (kept.times_sorted _ _) (kept.times_past _ _) prompt
  | elapse time => trivial

end Kept

theorem velocity_windowed (actions : List VelocityAction) (calm : Runs.Along step Calm start actions) :
    Runs.Along step Windowed start actions :=
  Runs.along_gives step_kept step_windowed start_kept calm

theorem extends_self (customerId windowKey : RedisText) : ¬Extends customerId windowKey customerId windowKey := by
  intro onward
  obtain ⟨more,longer,_⟩ := onward
  have length := congrArg List.length longer
  have colon : (utf8 ":").length = 1 := rfl
  rw [List.length_append,List.length_append,colon] at length
  omega

theorem apart_alone (alone : ∀ c w, (c,w) ∈ r.called → c = customerId ∧ w = windowKey) : Apart r customerId windowKey := by
  intro c w member
  obtain ⟨rfl,rfl⟩ := alone c w member
  exact ⟨extends_self c w,extends_self c w⟩

-- Two transactions nine minutes apart, counted over ten minutes and read eleven minutes later.
def twoOfOne : List VelocityAction :=
  [.increment (utf8 "CUST-001") (utf8 "10min") 600 .answered,.elapse ⟨540,by decide⟩,
    .increment (utf8 "CUST-001") (utf8 "10min") 600 .answered,.elapse ⟨660,by decide⟩,.get (utf8 "CUST-001") (utf8 "10min") .answered]

theorem two_windowed : Runs.Along step Windowed start twoOfOne := by
  apply velocity_windowed
  refine ⟨⟨rfl,by decide,?_,by decide +kernel,apart_alone ?_⟩,trivial,⟨rfl,by decide,by decide +kernel,by decide +kernel,apart_alone ?_⟩,trivial,
    ⟨rfl,by decide +kernel,apart_alone ?_⟩,trivial⟩
  · intro a member
    cases member
  · intro c w member
    cases member
  · intro c w member
    cases List.mem_singleton.mp member
    exact ⟨rfl,rfl⟩
  · intro c w member
    rcases List.mem_cons.mp member with first | second
    · cases first
      exact ⟨rfl,rfl⟩
    · cases List.mem_singleton.mp second
      exact ⟨rfl,rfl⟩

-- Three transactions nine minutes apart, counted over ten minutes.
def nineMinutesApart : List VelocityAction :=
  [.increment (utf8 "CUST-001") (utf8 "10min") 600 .answered,.elapse ⟨540,by decide⟩,
    .increment (utf8 "CUST-001") (utf8 "10min") 600 .answered,.elapse ⟨540,by decide⟩]

theorem third_counts_three :
    (incrementVelocityCounter (utf8 "CUST-001") (utf8 "10min") 600 .answered (Runs.run step start nineMinutesApart).store).1 = 3 ∧
      ¬Runs.Along step Windowed start (nineMinutesApart ++ [.increment (utf8 "CUST-001") (utf8 "10min") 600 .answered]) := by
  have three : (incrementVelocityCounter (utf8 "CUST-001") (utf8 "10min") 600 .answered (Runs.run step start nineMinutesApart).store).1 = 3 := by
    decide +kernel
  refine ⟨three,fun along => ?_⟩
  obtain ⟨⟨_,rate⟩,_⟩ := Runs.along_at along
  have log : times (Runs.run step start nineMinutesApart) (utf8 "CUST-001") (utf8 "10min") ++ [(Runs.run step start nineMinutesApart).store.now] =
      [0,540,1080] := by decide +kernel
  have paced : Paced (600 : Rat) 2 [0,540,1080] := by
    have first : Paced (600 : Rat) 2 ([] ++ [0]) := .add .nil (by decide) (by decide +kernel)
    have second : Paced (600 : Rat) 2 (([] ++ [0]) ++ [540]) := .add first (by decide +kernel) (by decide +kernel)
    exact .add second (by decide +kernel) (by decide +kernel)
  have two : 3 ≤ 2 := by
    rw [← three]
    apply rate
    intro t
    rw [log]
    exact paced.bounded t
  exact absurd two (by decide)

end VelocityRun
end RiskPulse
