import Mathlib.Algebra.Order.Field.Rat
import Mathlib.Data.Rat.Floor
import RiskPulse.Library.OrderedDict
import RiskPulse.Library.Runs
import RiskPulse.Library.TokenLevel

namespace RiskPulse

-- The numbers are exact.
structure TokenBucket where
  capacity : Int
  refillRate : Rat
  tokens : Rat
  lastRefill : Rat

namespace TokenBucket

def new (capacity : Int) (refillRate now : Rat) : TokenBucket := ⟨capacity,refillRate,capacity,now⟩

def filled (now : Rat) (b : TokenBucket) : Rat := min b.capacity (b.tokens + (now - b.lastRefill) * b.refillRate)

def consume (tokens : Int) (now : Rat) (b : TokenBucket) : Bool × TokenBucket :=
  let refilled := {b with tokens := b.filled now, lastRefill := now}
  if (tokens : Rat) ≤ refilled.tokens then (true,{refilled with tokens := refilled.tokens - tokens}) else (false,refilled)

-- int() of a number truncates.
def truncated (q : Rat) : Int := q.num.tdiv q.den

def remaining (now : Rat) (b : TokenBucket) : Int := truncated (b.filled now)

end TokenBucket

structure InMemoryRateLimiter where
  defaultRate : Int
  burstSize : Int
  buckets : OrderedDict String TokenBucket

-- A call, with what the clock says when a bucket is made, when a token is taken and when
-- the rest is counted.
structure LimiterCall where
  key : String
  customRate : Option Int
  created : Rat
  consumed : Rat
  read : Rat

namespace InMemoryRateLimiter

-- custom_rate or self._default_rate
def rate (l : InMemoryRateLimiter) (customRate : Option Int) : Int :=
  match customRate with
  | some rate => if rate = 0 then l.defaultRate else rate
  | none => l.defaultRate

def getBucket (l : InMemoryRateLimiter) (call : LimiterCall) : TokenBucket :=
  match l.buckets.get? call.key with
  | some bucket => bucket
  | none => .new (l.burstSize + l.rate call.customRate) (l.rate call.customRate / 60) call.created

-- Whether the call is allowed, what remains, and when to come again.
def isAllowed (l : InMemoryRateLimiter) (call : LimiterCall) : Except String (Bool × Int × Int) × InMemoryRateLimiter :=
  let (allowed,bucket) := (l.getBucket call).consume 1 call.consumed
  let remaining := bucket.remaining call.read
  let kept := {l with buckets := l.buckets.set call.key bucket}
  if allowed = true then (.ok (true,remaining,0),kept)
  else if bucket.refillRate = 0 then (.error "float division by zero",kept)
  else (.ok (false,remaining,TokenBucket.truncated (1 / bucket.refillRate) + 1),kept)

def step (l : InMemoryRateLimiter) (call : LimiterCall) : InMemoryRateLimiter := (l.isAllowed call).2

def admits : Except String (Bool × Int × Int) → Bool
  | .ok (allowed,_) => allowed
  | .error _ => false

-- When the calls of a key were admitted.
def admittedTimes (key : String) (l : InMemoryRateLimiter) : List LimiterCall → List Rat
  | [] => []
  | call :: rest =>
    if call.key = key ∧ admits (l.isAllowed call).1 = true then call.consumed :: admittedTimes key (l.step call) rest
    else admittedTimes key (l.step call) rest

def readings (call : LimiterCall) : List Rat := [call.created,call.consumed,call.read]

def callTimes (key : String) (calls : List LimiterCall) : List Rat :=
  (calls.filter fun call => decide (call.key = key)).map LimiterCall.consumed

end InMemoryRateLimiter

namespace TokenBucket

def level (b : TokenBucket) : TokenLevel.Level Rat := ⟨b.capacity,b.refillRate,b.tokens,b.lastRefill⟩

-- Taking one token is a request.
theorem consume_level (now : Rat) (b : TokenBucket) :
    (b.consume 1 now).1 = (b.level.request now).1 ∧ (b.consume 1 now).2.level = (b.level.request now).2 := by
  have same : (b.level.refilled now).tokens = b.filled now := rfl
  unfold consume
  rcases b.level.request_cases now with ⟨ran,enough⟩ | ⟨ran,short⟩
  · rw [same] at enough
    rw [ran]
    simp only [Int.cast_one,if_pos enough]
    exact ⟨trivial,rfl⟩
  · rw [same] at short
    rw [ran]
    simp only [Int.cast_one,if_neg (not_le.mpr short)]
    exact ⟨trivial,rfl⟩

theorem new_sound (capacity : Int) (refillRate now : Rat) (room : 1 ≤ capacity) (positive : 0 < refillRate) :
    (new capacity refillRate now).level.Sound :=
  ⟨positive.le,by change (0 : Rat) ≤ capacity; exact_mod_cast zero_le_one.trans room,le_rfl⟩

-- The time to come again is more than a token takes.
theorem truncated_wait (refillRate : Rat) (positive : 0 < refillRate) : 1 ≤ ((truncated (1 / refillRate) + 1 : Int) : Rat) * refillRate := by
  have whole : truncated (1 / refillRate) = ⌊1 / refillRate⌋ := by
    have nonneg : 0 ≤ (1 / refillRate).num := Rat.num_nonneg.mpr (by positivity)
    rw [truncated,Int.tdiv_eq_ediv_of_nonneg nonneg,Rat.floor_def']
  have more := Int.lt_floor_add_one (1 / refillRate)
  rw [whole,Int.cast_add,Int.cast_one]
  have scaled := mul_le_mul_of_nonneg_right more.le positive.le
  rw [div_mul_cancel₀ _ positive.ne'] at scaled
  exact scaled

end TokenBucket

namespace InMemoryRateLimiter
variable {l : InMemoryRateLimiter} {key : String} {call : LimiterCall}

-- What a call does: it takes a token from the bucket of its key.
theorem isAllowed_exact (l : InMemoryRateLimiter) (call : LimiterCall) :
    admits (l.isAllowed call).1 = ((l.getBucket call).level.request call.consumed).1 ∧
      (l.step call).buckets = l.buckets.set call.key ((l.getBucket call).consume 1 call.consumed).2 ∧
      (l.step call).burstSize = l.burstSize ∧ (l.step call).defaultRate = l.defaultRate := by
  rw [← ((l.getBucket call).consume_level call.consumed).1]
  unfold step isAllowed
  simp only
  split
  · rename_i allowed
    exact ⟨allowed.symm,rfl,rfl,rfl⟩
  · rename_i denied
    rw [eq_false_of_ne_true denied]
    split
    · exact ⟨rfl,rfl,rfl,rfl⟩
    · exact ⟨rfl,rfl,rfl,rfl⟩

theorem step_other (other : call.key ≠ key) : (l.step call).buckets.get? key = l.buckets.get? key := by
  rw [(l.isAllowed_exact call).2.1,OrderedDict.get?_set,if_neg (Ne.symm other)]

-- A call of the key leaves the bucket as the request does.
theorem step_own (b : TokenBucket) (own : call.key = key) (held : l.getBucket call = b) :
    ∃ next, (l.step call).buckets.get? key = some next ∧ next.level = (b.level.request call.consumed).2 ∧
      admits (l.isAllowed call).1 = (b.level.request call.consumed).1 := by
  obtain ⟨admitted,buckets,_⟩ := l.isAllowed_exact call
  refine ⟨_,?_,(b.consume_level call.consumed).2,?_⟩
  · rw [buckets,OrderedDict.get?_set,if_pos own.symm,held]
  · rw [admitted,held]

theorem getBucket_held (own : call.key = key) (held : l.buckets.get? key = some b) : l.getBucket call = b := by
  rw [getBucket,own,held]

theorem callTimes_cons (key : String) (call : LimiterCall) (rest : List LimiterCall) :
    callTimes key (call :: rest) = if call.key = key then call.consumed :: callTimes key rest else callTimes key rest := by
  unfold callTimes
  by_cases own : call.key = key
  · rw [List.filter_cons_of_pos (by simpa using own),List.map_cons,if_pos own]
  · rw [List.filter_cons_of_neg (by simpa using own),if_neg own]

-- While the bucket is there, the calls of the key are requests to it.
theorem run_held (b : TokenBucket) (held : l.buckets.get? key = some b) (calls : List LimiterCall) :
    (∃ last, (Runs.run step l calls).buckets.get? key = some last ∧ last.level = b.level.after (callTimes key calls)) ∧
      admittedTimes key l calls = b.level.admitted (callTimes key calls) := by
  induction calls generalizing l b with
  | nil => exact ⟨⟨b,held,rfl⟩,rfl⟩
  | cons call rest ih =>
    rw [callTimes_cons,admittedTimes]
    by_cases own : call.key = key
    · obtain ⟨next,found,level,admitted⟩ := step_own b own (getBucket_held own held)
      obtain ⟨ends,times⟩ := ih next found
      rw [if_pos own,TokenLevel.Level.admitted,admitted,times,level]
      rw [level] at ends
      refine ⟨ends,?_⟩
      simp only [own,true_and]
    · rw [if_neg own,if_neg fun both => own both.1]
      exact ih b ((step_other own).trans held)

-- The bucket of the key is a new one, or it is not made yet and its rate is constant.
def Opens (l : InMemoryRateLimiter) (key : String) (capacity : Int) (refillRate : Rat) (calls : List LimiterCall) : Prop :=
  (l.buckets.get? key = none ∧ ∀ call ∈ calls, call.key = key →
    l.burstSize + l.rate call.customRate = capacity ∧ (l.rate call.customRate : Rat) / 60 = refillRate) ∨
  ∃ created, l.buckets.get? key = some (.new capacity refillRate created) ∧ ∀ call ∈ calls, created ≤ call.consumed

theorem getBucket_same {m : InMemoryRateLimiter} (bucket : m.buckets.get? call.key = l.buckets.get? call.key)
    (size : m.burstSize = l.burstSize) (rate_ : m.defaultRate = l.defaultRate) : m.getBucket call = l.getBucket call := by
  unfold getBucket rate
  rw [bucket,size,rate_]

-- The bucket that stands for the key is sound, and so is the one each call to come finds.
structure Ready (l : InMemoryRateLimiter) (key : String) (capacity : Int) (refillRate : Rat) (calls : List LimiterCall) : Prop where
  held : ∀ b, l.buckets.get? key = some b → b.level.Sound ∧ b.capacity = capacity ∧ b.refillRate = refillRate
  found : ∀ call ∈ calls, call.key = key → (l.getBucket call).level.Sound ∧ (l.getBucket call).capacity = capacity ∧
    (l.getBucket call).refillRate = refillRate ∧ (l.getBucket call).lastRefill ≤ call.consumed

section Ready
variable {capacity : Int} {refillRate : Rat} {calls rest : List LimiterCall}

theorem consumed_ordered (chronological : (calls.flatMap readings).Pairwise (· ≤ ·)) :
    (calls.map LimiterCall.consumed).Pairwise (· ≤ ·) ∧ ∀ call ∈ calls, call.created ≤ call.consumed := by
  induction calls with
  | nil => exact ⟨.nil,fun _ member => by cases member⟩
  | cons call rest ih =>
    rw [List.flatMap_cons] at chronological
    obtain ⟨own,later,across⟩ := List.pairwise_append.mp chronological
    obtain ⟨others,made⟩ := ih later
    have first : call.created ≤ call.consumed := (List.pairwise_cons.mp own).1 _ (by simp)
    refine ⟨List.pairwise_cons.mpr ⟨fun time member => ?_,others⟩,fun other member => ?_⟩
    · obtain ⟨other,inside,rfl⟩ := List.mem_map.mp member
      exact across _ (by simp [readings]) _ (List.mem_flatMap.mpr ⟨other,inside,by simp [readings]⟩)
    · rcases List.mem_cons.mp member with rfl | further
      · exact first
      · exact made other further

theorem opens_ready (room : 1 ≤ capacity) (positive : 0 < refillRate) (opens : Opens l key capacity refillRate calls)
    (made : ∀ call ∈ calls, call.created ≤ call.consumed) : Ready l key capacity refillRate calls := by
  rcases opens with ⟨none,constant⟩ | ⟨created,held,later⟩
  · refine ⟨fun b found => ?_,fun call member own => ?_⟩
    · rw [none] at found
      cases found
    · obtain ⟨size,rate⟩ := constant call member own
      have bucket : l.getBucket call = .new capacity refillRate call.created := by
        rw [getBucket,own,none,← size,← rate]
      rw [bucket]
      exact ⟨TokenBucket.new_sound _ _ _ room positive,rfl,rfl,made call member⟩
  · refine ⟨fun b found => ?_,fun call member own => ?_⟩
    · rw [held] at found
      cases found
      exact ⟨TokenBucket.new_sound _ _ _ room positive,rfl,rfl⟩
    · rw [getBucket_held own held]
      exact ⟨TokenBucket.new_sound _ _ _ room positive,rfl,rfl,later call member⟩

theorem step_ready (ready : Ready l key capacity refillRate (call :: rest))
    (ordered : ((call :: rest).map LimiterCall.consumed).Pairwise (· ≤ ·)) : Ready (l.step call) key capacity refillRate rest := by
  by_cases own : call.key = key
  · obtain ⟨sound,size,rate,since⟩ := ready.found call List.mem_cons_self own
    obtain ⟨next,held,level,_⟩ := step_own _ own (rfl : l.getBucket call = l.getBucket call)
    obtain ⟨now,whole,filling⟩ := (l.getBucket call).level.request_since call.consumed
    have kept := TokenLevel.Level.request_sound sound since
    rw [← level] at kept now whole filling
    have facts : next.level.Sound ∧ next.capacity = capacity ∧ next.refillRate = refillRate := by
      refine ⟨kept,?_,?_⟩
      · have same : (next.capacity : Rat) = ((l.getBucket call).capacity : Int) := whole
        rw [← size]
        exact_mod_cast same
      · rw [← rate]
        exact filling
    refine ⟨fun b found => ?_,fun other member mine => ?_⟩
    · rw [held] at found
      cases found
      exact facts
    · rw [getBucket_held mine held]
      refine ⟨facts.1,facts.2.1,facts.2.2,?_⟩
      have last : next.lastRefill = call.consumed := now
      rw [last]
      exact (List.pairwise_cons.mp ordered).1 _ (List.mem_map_of_mem member)
  · obtain ⟨_,_,size,rate⟩ := l.isAllowed_exact call
    refine ⟨fun b found => ready.held b (by rw [← found,step_other own]),fun other member mine => ?_⟩
    rw [getBucket_same (by rw [mine,step_other own]) size rate]
    exact ready.found other (List.mem_cons_of_mem _ member) mine

theorem run_ready (ready : Ready l key capacity refillRate (calls ++ rest))
    (ordered : ((calls ++ rest).map LimiterCall.consumed).Pairwise (· ≤ ·)) :
    Ready (Runs.run step l calls) key capacity refillRate rest := by
  induction calls generalizing l with
  | nil => exact ready
  | cons call later ih =>
    exact ih (step_ready ready ordered) (List.pairwise_cons.mp ordered).2

theorem admitted_own (own : call.key = key) :
    admittedTimes key l (call :: rest) = (l.getBucket call).level.admitted (callTimes key (call :: rest)) := by
  obtain ⟨next,held,level,admitted⟩ := step_own _ own (rfl : l.getBucket call = l.getBucket call)
  rw [admittedTimes,callTimes_cons,if_pos own,TokenLevel.Level.admitted,admitted,(run_held next held rest).2,level]
  simp only [own,true_and]

theorem window_bounded (ready : Ready l key capacity refillRate calls) (ordered : (calls.map LimiterCall.consumed).Pairwise (· ≤ ·))
    (start duration : Rat) (some : 0 ≤ duration) (never : 0 ≤ (capacity : Rat) + refillRate * duration) :
    (((admittedTimes key l calls).filter fun t => decide (start ≤ t ∧ t ≤ start + duration)).length : Rat) ≤
      capacity + refillRate * duration := by
  induction calls generalizing l with
  | nil =>
    rw [admittedTimes,List.filter_nil,List.length_nil,Nat.cast_zero]
    exact never
  | cons call rest ih =>
    by_cases own : call.key = key
    · obtain ⟨sound,size,rate,since⟩ := ready.found call List.mem_cons_self own
      rw [admitted_own own]
      have times : ((l.getBucket call).level.since :: callTimes key (call :: rest)).Pairwise (· ≤ ·) := by
        have sorted : (callTimes key (call :: rest)).Pairwise (· ≤ ·) := ordered.sublist (List.filter_sublist.map _)
        refine List.pairwise_cons.mpr ⟨fun t member => since.trans ?_,sorted⟩
        rw [callTimes_cons,if_pos own] at member sorted
        rcases List.mem_cons.mp member with rfl | later
        · exact le_rfl
        · exact (List.pairwise_cons.mp sorted).1 t later
      have bound := TokenLevel.Level.admitted_window sound _ times start duration some
      have whole : (l.getBucket call).level.capacity = capacity := congrArg (fun size : Int => (size : Rat)) size
      have filling : (l.getBucket call).level.rate = refillRate := rate
      rw [whole,filling] at bound
      exact bound
    · rw [admittedTimes,if_neg fun both => own both.1]
      exact ih (step_ready ready ordered) (List.pairwise_cons.mp ordered).2

-- A denied call has taken nothing, and says when the next one is admitted.
theorem denied_exact (positive : 0 < (l.getBucket call).refillRate) (denied : (l.isAllowed call).1 = .ok (false,remaining,retryAfter)) :
    retryAfter = TokenBucket.truncated (1 / (l.getBucket call).refillRate) + 1 := by
  have rate : ((l.getBucket call).consume 1 call.consumed).2.refillRate = (l.getBucket call).refillRate := by
    unfold TokenBucket.consume
    simp only
    split <;> rfl
  unfold isAllowed at denied
  simp only at denied
  split at denied
  · cases denied
  · rw [rate,if_neg positive.ne'] at denied
    cases denied
    rfl

theorem others_held (others : ∀ call ∈ calls, call.key ≠ key) : (Runs.run step l calls).buckets.get? key = l.buckets.get? key := by
  induction calls generalizing l with
  | nil => rfl
  | cons call rest ih =>
    change (Runs.run step (l.step call) rest).buckets.get? key = _
    rw [ih fun other member => others other (List.mem_cons_of_mem _ member),step_other (others call List.mem_cons_self)]

theorem retry_admitted (ready : Ready l key capacity refillRate (call :: rest)) (room : 1 ≤ capacity) (positive : 0 < refillRate)
    (own : call.key = key) (denied : (l.isAllowed call).1 = .ok (false,remaining,retryAfter)) (between : List LimiterCall)
    (others : ∀ other ∈ between, other.key ≠ key) (next : LimiterCall) (again : next.key = key)
    (waited : call.consumed + retryAfter ≤ next.consumed) :
    admits ((Runs.run step (l.step call) between).isAllowed next).1 = true := by
  obtain ⟨sound,size,rate,since⟩ := ready.found call List.mem_cons_self own
  have wait := denied_exact (by rw [rate]; exact positive) denied
  obtain ⟨bucket,held,level,_⟩ := step_own _ own (rfl : l.getBucket call = l.getBucket call)
  have found : (Runs.run step (l.step call) between).getBucket next = bucket := getBucket_held again ((others_held others).trans held)
  rw [((Runs.run step (l.step call) between).isAllowed_exact next).1,found,level]
  obtain ⟨now,whole,filling⟩ := (l.getBucket call).level.request_since call.consumed
  apply TokenLevel.Level.waited_admitted (TokenLevel.Level.request_sound sound since) _ retryAfter
  · rw [filling]
    change 1 ≤ (retryAfter : Rat) * (l.getBucket call).refillRate
    rw [wait,rate]
    exact TokenBucket.truncated_wait refillRate positive
  · rw [now]
    exact waited
  · rw [whole]
    change (1 : Rat) ≤ ((l.getBucket call).capacity : Int)
    rw [size]
    exact_mod_cast room

end Ready

-- For every capacity of at least one and every positive rate, and calls of any keys in the
-- order of the clock: the level stays within the capacity, no interval admits more than
-- fits and flows in, and who waits as told is admitted.
theorem token_bucket_bounds (l : InMemoryRateLimiter) (key : String) (capacity : Int) (refillRate : Rat) (room : 1 ≤ capacity)
    (positive : 0 < refillRate) (calls : List LimiterCall) (opens : Opens l key capacity refillRate calls)
    (chronological : (calls.flatMap readings).Pairwise (· ≤ ·)) :
    (∀ before after, calls = before ++ after → ∀ bucket, (Runs.run step l before).buckets.get? key = some bucket →
      0 ≤ bucket.tokens ∧ bucket.tokens ≤ capacity) ∧
    (∀ start duration, 0 ≤ duration →
      (((admittedTimes key l calls).filter fun t => decide (start ≤ t ∧ t ≤ start + duration)).length : Rat) ≤
        capacity + refillRate * duration) ∧
    (∀ before denied between next after, calls = before ++ denied :: (between ++ next :: after) → denied.key = key → next.key = key →
      (∀ other ∈ between, other.key ≠ key) → ∀ remaining retryAfter : Int,
      ((Runs.run step l before).isAllowed denied).1 = .ok (false,remaining,retryAfter) → denied.consumed + retryAfter ≤ next.consumed →
      admits ((Runs.run step l (before ++ denied :: between)).isAllowed next).1 = true) := by
  obtain ⟨ordered,made⟩ := consumed_ordered chronological
  have ready := opens_ready room positive opens made
  refine ⟨?_,?_,?_⟩
  · intro before after whole bucket held
    subst whole
    obtain ⟨sound,size,_⟩ := (run_ready ready ordered).held bucket held
    refine ⟨sound.low,?_⟩
    rw [← size]
    exact sound.high
  · intro start duration some
    apply window_bounded ready ordered start duration some
    have fits : (1 : Rat) ≤ capacity := by exact_mod_cast room
    positivity
  · intro before denied between next after whole own again others remaining retryAfter refused waited
    subst whole
    rw [Runs.run_append]
    exact retry_admitted (run_ready ready ordered) room positive own refused between others next again waited

-- Two requests a minute and no burst: the third one waits for 31 seconds.
def twoPerMinute : InMemoryRateLimiter := ⟨2,0,.empty⟩

def clientCall (now : Rat) : LimiterCall := ⟨"client",none,now,now,now⟩

theorem token_bucket_bounds_client : 1 ≤ (2 : Int) ∧ (0 : Rat) < 2 / 60 ∧
    (((admittedTimes "client" twoPerMinute [clientCall 0,clientCall 0,clientCall 0,clientCall 31]).filter
      fun t => decide (0 ≤ t ∧ t ≤ 0 + 31)).length : Rat) ≤ 2 + 2 / 60 * 31 ∧
    admits ((Runs.run step twoPerMinute ([clientCall 0,clientCall 0] ++ clientCall 0 :: [])).isAllowed (clientCall 31)).1 = true := by
  have opens : Opens twoPerMinute "client" 2 (2 / 60) [clientCall 0,clientCall 0,clientCall 0,clientCall 31] := by
    refine .inl ⟨rfl,?_⟩
    intro call member _
    have drawn : call.customRate = none := by
      simp only [List.mem_cons,List.not_mem_nil,or_false] at member
      rcases member with rfl | rfl | rfl | rfl <;> rfl
    rw [drawn]
    decide +kernel
  have law := token_bucket_bounds twoPerMinute "client" 2 (2 / 60) (by decide) (by decide +kernel) _ opens (by decide +kernel)
  have refused : ((Runs.run step twoPerMinute [clientCall 0,clientCall 0]).isAllowed (clientCall 0)).1 = .ok (false,0,31) := by
    have answered : ((Runs.run step twoPerMinute [clientCall 0,clientCall 0]).isAllowed (clientCall 0)).1.toOption = some (false,0,31) := by
      decide +kernel
    cases reply : ((Runs.run step twoPerMinute [clientCall 0,clientCall 0]).isAllowed (clientCall 0)).1 with
    | ok given =>
      rw [reply] at answered
      exact congrArg Except.ok (Option.some.inj answered)
    | error message =>
      rw [reply] at answered
      cases answered
  refine ⟨by decide,by decide +kernel,law.2.1 0 31 (by decide +kernel),?_⟩
  exact law.2.2 [clientCall 0,clientCall 0] (clientCall 0) [] (clientCall 31) [] rfl rfl rfl (fun _ member => by cases member) 0 31
    refused (by decide +kernel)

end InMemoryRateLimiter
end RiskPulse
