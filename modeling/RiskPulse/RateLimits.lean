import RiskPulse.Library.SlidingWindow
import RiskPulse.RateLimiter

namespace RiskPulse
open Interleaved SlidingWindow

theorem SortedSetKey.found_cases (now : Rat) (key : SortedSetKey) :
    key.found now = key ∨ (key.found now = .absent ∧ ∃ deadline, key.expiresAt = some deadline ∧ deadline ≤ now) := by
  unfold found
  split
  · rename_i deadline expires
    split
    · rename_i due
      exact .inr ⟨rfl,deadline,expires,due⟩
    · exact .inl rfl
  · exact .inl rfl

theorem SortedSetKey.get?_zremrangebyscore (low high : Rat) (key : SortedSetKey) (member : String) (score : Rat) :
    (key.zremrangebyscore low high).scores.get? member = some score ↔
      key.scores.get? member = some score ∧ ¬(low ≤ score ∧ score ≤ high) := by
  rw [← OrderedDict.get?_entry,← OrderedDict.get?_entry,zremrangebyscore,List.mem_filter]
  simp only [Bool.not_eq_true',decide_eq_false_iff_not]

theorem SortedSetKey.found_live (live : ∀ deadline, key.expiresAt = some deadline → now < deadline) : found now key = key := by
  unfold found
  split
  · rename_i deadline expires
    exact if_neg (not_le.mpr (live deadline expires))
  · rfl

theorem SortedSetKey.live_found (now : Rat) (key : SortedSetKey) (deadline : Rat) (expires : (key.found now).expiresAt = some deadline) :
    now < deadline := by
  unfold found at expires
  split at expires
  · split at expires
    · cases expires
    · rename_i later
      rename_i known
      cases known.symm.trans expires
      exact not_le.mp later
  · rename_i never
    rw [never] at expires
    cases expires

namespace RedisRateLimiter
variable (c : RedisRateLimiter)

def window : Rat := c.windowSeconds

-- A key and the entries it should hold: those written by the calls that were let in, and
-- by the denied ones that have not removed them yet.
structure Kept (s : RateState) (ledger : List (String × Rat)) : Prop where
  known : ∀ entry ∈ ledger, ∃ i < s.issued, entry.1 = c.uuid4 i
  drawn : ∀ member ∈ s.key.scores.keys, ∃ i < s.issued, member = c.uuid4 i
  unique : (ledger.map Prod.fst).Nodup
  ordered : ∀ entry ∈ ledger, entry.2 ≤ s.now
  stamped : ∀ member score, s.key.scores.get? member = some score → score ≤ s.now
  held : ∀ entry ∈ ledger, s.now - c.window < entry.2 → (s.key.found s.now).scores.get? entry.1 = some entry.2
  lasting : ∀ deadline, s.key.expiresAt = some deadline → ∀ member score, s.key.scores.get? member = some score →
    score + c.window < deadline

variable {c}

theorem Kept.perm (kept : c.Kept s ledger) (same : ledger.Perm other) : c.Kept s other where
  known entry member := kept.known entry (same.mem_iff.mpr member)
  drawn := kept.drawn
  unique := (same.map Prod.fst).nodup_iff.mp kept.unique
  ordered entry member := kept.ordered entry (same.mem_iff.mpr member)
  stamped := kept.stamped
  held entry member := kept.held entry (same.mem_iff.mpr member)
  lasting := kept.lasting

theorem Kept.forget (kept : c.Kept s (entry :: ledger)) : c.Kept s ledger where
  known other member := kept.known other (List.mem_cons_of_mem _ member)
  drawn := kept.drawn
  unique := (List.nodup_cons.mp kept.unique).2
  ordered other member := kept.ordered other (List.mem_cons_of_mem _ member)
  stamped := kept.stamped
  held other member := kept.held other (List.mem_cons_of_mem _ member)
  lasting := kept.lasting

-- A key that has expired held nothing that is still in the window.
theorem Kept.elapse (kept : c.Kept s ledger) (time : {q : Rat // 0 ≤ q}) : c.Kept {s with now := s.now + time.val} ledger := by
  have forward : s.now ≤ s.now + time.val := le_add_of_nonneg_right time.property
  refine ⟨kept.known,kept.drawn,kept.unique,fun entry member => (kept.ordered entry member).trans forward,
    fun member score stored => (kept.stamped member score stored).trans forward,?_,kept.lasting⟩
  intro entry member fresh
  have before := kept.held entry member (lt_of_le_of_lt (sub_le_sub_right forward _) fresh)
  have stored : s.key.scores.get? entry.1 = some entry.2 := by
    rcases s.key.found_cases s.now with same | ⟨gone,_⟩
    · rw [← same]
      exact before
    · rw [gone] at before
      cases before
  rcases s.key.found_cases (s.now + time.val) with same | ⟨_,deadline,expires,due⟩
  · rw [same]
    exact stored
  · have later := kept.lasting deadline expires entry.1 entry.2 stored
    exact absurd fresh (not_lt.mpr (le_sub_iff_add_le.mpr (later.le.trans due)))

theorem Kept.issue (kept : c.Kept s ledger) : c.Kept {s with issued := s.issued + 1} ledger where
  known entry member := (kept.known entry member).imp fun _ drawn => ⟨Nat.lt_succ_of_lt drawn.1,drawn.2⟩
  drawn member inside := (kept.drawn member inside).imp fun _ drawn => ⟨Nat.lt_succ_of_lt drawn.1,drawn.2⟩
  unique := kept.unique
  ordered := kept.ordered
  stamped := kept.stamped
  held := kept.held
  lasting := kept.lasting

theorem found_stored {key : SortedSetKey} (found : (key.found now).scores.get? member = some score) :
    key.scores.get? member = some score ∧ (key.found now).expiresAt = key.expiresAt := by
  rcases key.found_cases now with same | ⟨gone,_⟩
  · rw [same] at found
    exact ⟨found,by rw [same]⟩
  · rw [gone] at found
    cases found

theorem get?_zrem {key : SortedSetKey} (stored : ((key.found now).zrem gone).scores.get? member = some score) :
    member ≠ gone ∧ (key.found now).scores.get? member = some score := by
  rw [SortedSetKey.zrem,OrderedDict.get?_erase] at stored
  split at stored
  · cases stored
  · rename_i different
    exact ⟨different,stored⟩

theorem Kept.remove (kept : c.Kept s (entry :: ledger)) :
    c.Kept {s with key := (s.key.found s.now).zrem entry.1} ledger := by
  have others := (List.nodup_cons.mp kept.unique).1
  refine ⟨kept.forget.known,?_,kept.forget.unique,kept.forget.ordered,
    fun member score found => kept.stamped member score (found_stored (get?_zrem found).2).1,?_,?_⟩
  · intro member inside
    obtain ⟨score,found⟩ := (OrderedDict.mem_keys _ _).mp inside
    exact kept.drawn member ((OrderedDict.mem_keys _ _).mpr ⟨score,(found_stored (get?_zrem found).2).1⟩)
  · intro other member fresh
    have held := kept.forget.held other member fresh
    have different : other.1 ≠ entry.1 := fun same => others (List.mem_map.mpr ⟨other,member,same⟩)
    have left : ((s.key.found s.now).zrem entry.1).found s.now = (s.key.found s.now).zrem entry.1 :=
      SortedSetKey.found_live (SortedSetKey.live_found s.now s.key)
    simp only
    rw [left,SortedSetKey.zrem,OrderedDict.get?_erase,if_neg different]
    exact held
  · intro deadline expires member score found
    obtain ⟨stored,same⟩ := found_stored (get?_zrem found).2
    exact kept.lasting deadline (same.symm.trans expires) member score stored

theorem get?_trimmed (s : RateState) (member : String) (score : Rat) :
    (c.trimmed s).scores.get? member = some score ↔
      (s.key.found s.now).scores.get? member = some score ∧ ¬(0 ≤ score ∧ score ≤ s.now - c.window) :=
  SortedSetKey.get?_zremrangebyscore _ _ _ _ _

theorem written_cases (s : RateState) :
    (c.window ≤ -1 ∧ c.written s = .absent) ∨
    (0 < c.window + 1 ∧ c.written s = ⟨(c.trimmed s).scores.set (c.uuid4 s.issued) s.now,some (s.now + (c.window + 1))⟩) := by
  unfold written SortedSetKey.expire
  by_cases short : c.windowSeconds + 1 ≤ 0
  · rw [if_pos short]
    have bound : (c.windowSeconds : Rat) ≤ -1 := by exact_mod_cast (by omega : c.windowSeconds ≤ -1)
    exact .inl ⟨bound,rfl⟩
  · rw [if_neg short]
    have bound : (0 : Rat) < c.windowSeconds + 1 := by exact_mod_cast (by omega : 0 < c.windowSeconds + 1)
    refine .inr ⟨bound,?_⟩
    rw [window,Int.cast_add,Int.cast_one]
    rfl

theorem get?_written (stored : (c.written s).scores.get? member = some score) :
    (member = c.uuid4 s.issued ∧ score = s.now) ∨ s.key.scores.get? member = some score := by
  rcases c.written_cases s with ⟨_,gone⟩ | ⟨_,made⟩
  · rw [gone] at stored
    cases stored
  · rw [made,OrderedDict.get?_set] at stored
    split at stored
    · rename_i same
      exact .inl ⟨same,(Option.some.inj stored).symm⟩
    · exact .inr (found_stored ((get?_trimmed s member score).mp stored).1).1

theorem Kept.fresh (kept : c.Kept s ledger) : c.uuid4 s.issued ∉ ledger.map Prod.fst := by
  intro member
  obtain ⟨entry,inside,same⟩ := List.mem_map.mp member
  obtain ⟨i,before,drawn⟩ := kept.known entry inside
  exact absurd (c.distinct (drawn.symm.trans same)) (Nat.ne_of_lt before)

-- The entry of a call is in the set until it leaves the window.
theorem Kept.write (kept : c.Kept s ledger) :
    c.Kept {s with key := c.written s, issued := s.issued + 1} ((c.uuid4 s.issued,s.now) :: ledger) := by
  have issued := kept.issue
  refine ⟨?_,?_,List.nodup_cons.mpr ⟨kept.fresh,kept.unique⟩,?_,?_,?_,?_⟩
  · intro entry member
    rcases List.mem_cons.mp member with rfl | old
    · exact ⟨s.issued,Nat.lt_succ_self _,rfl⟩
    · exact issued.known entry old
  · intro member inside
    obtain ⟨score,stored⟩ := (OrderedDict.mem_keys _ _).mp inside
    rcases get?_written stored with ⟨same,_⟩ | old
    · exact ⟨s.issued,Nat.lt_succ_self _,same⟩
    · exact issued.drawn member ((OrderedDict.mem_keys _ _).mpr ⟨score,old⟩)
  · intro entry member
    rcases List.mem_cons.mp member with rfl | old
    · exact le_refl s.now
    · exact kept.ordered entry old
  · intro member score stored
    rcases get?_written stored with ⟨_,same⟩ | old
    · exact same.le
    · exact kept.stamped member score old
  · intro entry member fresh
    simp only at fresh ⊢
    have before : entry.2 ≤ s.now := by
      rcases List.mem_cons.mp member with rfl | old
      · exact le_refl s.now
      · exact kept.ordered entry old
    rcases c.written_cases s with ⟨short,_⟩ | ⟨long,made⟩
    · exact absurd (lt_of_lt_of_le fresh before) (not_lt.mpr (by linarith))
    · rw [made,SortedSetKey.found_live (fun deadline expires => by cases expires; linarith),OrderedDict.get?_set]
      rcases List.mem_cons.mp member with rfl | old
      · exact if_pos rfl
      · have other : entry.1 ≠ c.uuid4 s.issued := fun same => kept.fresh (List.mem_map.mpr ⟨entry,old,same⟩)
        rw [if_neg other]
        exact (get?_trimmed s _ _).mpr ⟨kept.held entry old fresh,fun left => absurd fresh (not_lt.mpr left.2)⟩
  · intro deadline expires member score stored
    have before : score ≤ s.now := by
      rcases get?_written stored with ⟨_,same⟩ | old
      · exact same.le
      · exact kept.stamped member score old
    rcases c.written_cases s with ⟨_,gone⟩ | ⟨_,made⟩
    · rw [gone] at expires
      cases expires
    · simp only [made] at expires
      cases expires
      linarith

-- What a command does, where a failing one does not let its call in.
inductive Did (c : RedisRateLimiter) (o : RedisOutcome) (s : RateState) : RateTask → RateState → List RateTask → Prop where
  | admitted (room : ((c.trimmed s).zcard : Int) < c.rateLimit customRate) :
      Did c o s (.pipeline customRate) (reply {s with key := c.written s, issued := s.issued + 1}
        ⟨c.uuid4 s.issued,s.now,true,max 0 (c.rateLimit customRate - (c.trimmed s).zcard - 1),0⟩) []
  | denied (full : c.rateLimit customRate ≤ (c.trimmed s).zcard) :
      Did c o s (.pipeline customRate) {s with key := c.written s, issued := s.issued + 1}
        [.zrem (c.uuid4 s.issued) s.now (c.rateLimit customRate) ((c.written s).lowest.getD s.now)]
  | failed (raised : o ≠ .answered) (either : key = s.key ∨ key = c.written s) (refused : r.allowed = false) :
      Did c o s (.pipeline customRate) (reply {s with key := key, issued := s.issued + 1} r) []
  | removed (either : key = (s.key.found s.now).zrem member ∨ (o ≠ .answered ∧ key = s.key)) (refused : r.allowed = false) :
      Did c o s (.zrem member stamp limit oldest) (reply {s with key := key} r) []

theorem exec_did (task : RateTask) (o : RedisOutcome) (s : RateState) (closed : c.failOpen = false ∨ o = .answered) :
    ∃ tasks, (c.exec task o s).2 = some tasks ∧ Did c o s task (c.exec task o s).1 tasks := by
  have refused : ∀ member stamp limit, o ≠ .answered → (c.failed member stamp limit).allowed = false := by
    intro member stamp limit raised
    rw [failed,closed.resolve_right raised]
    rfl
  cases task with
  | pipeline customRate =>
    cases o with
    | answered =>
      by_cases full : c.rateLimit customRate ≤ (c.trimmed s).zcard
      · rw [exec]
        simp only [full,if_true]
        exact ⟨_,rfl,.denied full⟩
      · rw [exec]
        simp only [full,if_false]
        exact ⟨_,rfl,.admitted (not_le.mp full)⟩
    | raised executed =>
      cases executed with
      | true => exact ⟨[],rfl,.failed (by simp) (.inr rfl) (refused _ _ _ (by simp))⟩
      | false => exact ⟨[],rfl,.failed (by simp) (.inl rfl) (refused _ _ _ (by simp))⟩
  | zrem member stamp limit oldest =>
    cases o with
    | answered => exact ⟨[],rfl,.removed (.inl rfl) rfl⟩
    | raised executed =>
      cases executed with
      | true => exact ⟨[],rfl,.removed (.inl rfl) (refused _ _ _ (by simp))⟩
      | false => exact ⟨[],rfl,.removed (.inr ⟨by simp,rfl⟩) (refused _ _ _ (by simp))⟩

def removal : RateTask → Option (String × Rat)
  | .zrem member stamp _ _ => some (member,stamp)
  | .pipeline _ => none

-- The entries of denied calls that are still to be removed.
def removals (tasks : List RateTask) : List (String × Rat) := tasks.filterMap removal

def admitted (s : RateState) : List (String × Rat) := (s.replies.filter fun r => r.allowed).map fun r => (r.member,r.stamp)

def admittedTimes (s : RateState) : List Rat := (s.replies.filter fun r => r.allowed).map fun r => r.stamp

theorem admittedTimes_pairs (s : RateState) : admittedTimes s = (admitted s).map Prod.snd := by
  rw [admitted,List.map_map]
  rfl

theorem admitted_reply (s : RateState) (r : RateReply) :
    admitted (reply s r) = admitted s ++ if r.allowed then [(r.member,r.stamp)] else [] := by
  rw [admitted,reply,List.filter_append,List.map_append]
  cases allowed : r.allowed <;> simp [admitted,allowed]

structure Tracked (c : RedisRateLimiter) (limit : Nat) (p : Pool RateState RateTask) : Prop where
  kept : c.Kept p.shared (admitted p.shared ++ removals (waiting p))
  paced : Paced c.window limit (admittedTimes p.shared)

theorem idle_tracked : Tracked c limit idle where
  kept := ⟨fun _ member => (List.not_mem_nil member).elim,fun _ member => (List.not_mem_nil member).elim,List.nodup_nil,
    fun _ member => (List.not_mem_nil member).elim,fun _ _ found => (Option.some_ne_none _ found.symm).elim,
    fun _ member => (List.not_mem_nil member).elim,fun _ expires => (Option.some_ne_none _ expires.symm).elim⟩
  paced := .nil

-- The calls that were let in and are still in the window are all in the set.
theorem Kept.counted (kept : c.Kept s (admitted s ++ others)) :
    (recent c.window s.now (admittedTimes s)).length ≤ (c.trimmed s).zcard := by
  rw [admittedTimes_pairs,recent,List.filter_map,List.length_map,SortedSetKey.zcard]
  apply List.Subperm.length_le
  apply List.subperm_of_subset
  · have unique := List.Nodup.of_map Prod.fst kept.unique
    exact (List.nodup_append.mp unique).1.filter _
  · intro entry member
    obtain ⟨inside,fresh⟩ := List.mem_filter.mp member
    have recently : s.now - c.window < entry.2 := of_decide_eq_true fresh
    have held := kept.held entry (List.mem_append_left _ inside) recently
    apply (OrderedDict.get?_entry _ _ _).mpr
    exact (get?_trimmed s _ _).mpr ⟨held,fun left => absurd recently (not_lt.mpr left.2)⟩

-- The pending removals, when a task of a call has been replaced by others.
theorem removals_run (before after tasks : List RateTask) :
    (removals (before ++ (tasks ++ after))).Perm (removals tasks ++ removals (before ++ after)) := by
  simp only [removals,List.filterMap_append]
  exact List.perm_append_comm_assoc _ _ _

theorem Kept.replied (kept : c.Kept s ledger) (r : RateReply) : c.Kept (reply s r) ledger :=
  ⟨kept.known,kept.drawn,kept.unique,kept.ordered,kept.stamped,kept.held,kept.lasting⟩

-- The ledger of a pool, with the entry of the task that is next in front; and the ledger
-- after a call that is let in, and after one that is denied.
theorem ledger_next {p : Pool RateState RateTask} (split : waiting p = before ++ task :: after) :
    (admitted p.shared ++ removals (waiting p)).Perm (removals [task] ++ (admitted p.shared ++ removals (before ++ after))) := by
  rw [split]
  exact ((removals_run before after [task]).append_left _).trans (List.perm_append_comm_assoc _ _ _)

theorem ledger_admitted (s : RateState) (key : SortedSetKey) (issued : Nat) (r : RateReply) (allowed : r.allowed = true)
    (others : List (String × Rat)) :
    ((r.member,r.stamp) :: (admitted s ++ others)).Perm
      (admitted (reply {s with key := key, issued := issued} r) ++ others) := by
  rw [admitted_reply,if_pos allowed,List.append_assoc,List.singleton_append]
  exact List.perm_middle.symm

theorem ledger_denied (s : RateState) (before after : List RateTask) (member : String) (stamp : Rat) (limit : Int) (oldest : Rat) :
    ((member,stamp) :: (admitted s ++ removals (before ++ after))).Perm
      (admitted s ++ removals (before ++ ([.zrem member stamp limit oldest] ++ after))) := by
  refine List.perm_middle.symm.trans (List.Perm.append_left _ ?_)
  exact (removals_run before after [.zrem member stamp limit oldest]).symm

theorem admitted_refused (s : RateState) (r : RateReply) (refused : r.allowed = false) : admitted (reply s r) = admitted s := by
  rw [admitted_reply,refused,if_neg Bool.false_ne_true,List.append_nil]

theorem did_tracked (tracked : Tracked c limit p) (split : waiting p = before ++ task :: after)
    (did : Did c o p.shared task t tasks) (rate : ∀ customRate, task = .pipeline customRate → c.rateLimit customRate = limit) :
    c.Kept t (admitted t ++ removals (before ++ (tasks ++ after))) ∧ Paced c.window limit (admittedTimes t) := by
  have next := tracked.kept.perm (ledger_next split)
  have ordered : ∀ stamp ∈ admittedTimes p.shared, stamp ≤ p.shared.now := by
    intro stamp member
    rw [admittedTimes_pairs] at member
    obtain ⟨entry,inside,rfl⟩ := List.mem_map.mp member
    exact tracked.kept.ordered entry (List.mem_append_left _ inside)
  cases did with
  | @admitted customRate room =>
    have kept : c.Kept p.shared (admitted p.shared ++ removals (before ++ after)) := next
    have few : (recent c.window p.shared.now (admittedTimes p.shared)).length < limit := by
      have counted := kept.counted
      rw [rate customRate rfl] at room
      omega
    constructor
    · exact (kept.write.replied _).perm (ledger_admitted p.shared _ _ ⟨c.uuid4 p.shared.issued,p.shared.now,true,_,0⟩ rfl _)
    · rw [admittedTimes_pairs,admitted_reply]
      have added := Paced.add tracked.paced ordered few
      rw [admittedTimes_pairs] at added
      rw [if_pos rfl,List.map_append]
      exact added
  | denied full =>
    have kept : c.Kept p.shared (admitted p.shared ++ removals (before ++ after)) := next
    exact ⟨kept.write.perm (ledger_denied _ before after _ _ _ _),tracked.paced⟩
  | @failed key customRate r raised either refused =>
    have kept : c.Kept p.shared (admitted p.shared ++ removals (before ++ after)) := next
    rw [admittedTimes_pairs,admitted_refused _ r refused]
    refine ⟨?_,admittedTimes_pairs p.shared ▸ tracked.paced⟩
    rcases either with rfl | rfl
    · exact kept.issue.replied r
    · exact kept.write.forget.replied r
  | @removed key member stamp limit oldest r either refused =>
    have kept : c.Kept p.shared ((member,stamp) :: (admitted p.shared ++ removals (before ++ after))) := next
    rw [admittedTimes_pairs,admitted_refused _ r refused]
    refine ⟨?_,admittedTimes_pairs p.shared ▸ tracked.paced⟩
    rcases either with rfl | ⟨_,rfl⟩
    · exact kept.remove.replied r
    · exact kept.forget.replied r

theorem Did.later (did : Did c o s task t tasks) (customRate : Option Int) : .pipeline customRate ∉ tasks := by
  cases did <;> simp

-- Each call has the limit, and none is let in for a command that failed.
def Steady (c : RedisRateLimiter) (limit : Nat) : Action RedisOutcome RateEvent → Prop
  | .outside (.isAllowed customRate) => c.rateLimit customRate = limit
  | .outside (.elapse _) => True
  | .run _ o => c.failOpen = false ∨ o = .answered

-- The limit of the calls that have not begun.
def Uniform (c : RedisRateLimiter) (limit : Nat) (p : Pool RateState RateTask) : Prop :=
  ∀ customRate, .pipeline customRate ∈ waiting p → c.rateLimit customRate = limit

theorem step_tracked (tracked : Tracked c limit p) (uniform : Uniform c limit p) (action : Action RedisOutcome RateEvent)
    (steady : Steady c limit action) :
    Tracked c limit (step c.limiter p action) ∧ Uniform c limit (step c.limiter p action) := by
  rcases step_cases c.limiter p action with ⟨e,rfl,stepped⟩ | ⟨n,o,task,rest,before,after,rfl,_,split,stepped⟩ | ⟨same,_⟩
  · have added := waiting_outside c.limiter p e
    cases e with
    | isAllowed customRate =>
      constructor
      · refine ⟨?_,tracked.paced⟩
        rw [added]
        change c.Kept p.shared (admitted p.shared ++ removals (waiting p ++ [.pipeline customRate]))
        have none : removals (waiting p ++ [.pipeline customRate]) = removals (waiting p) := by simp [removals,removal]
        rw [none]
        exact tracked.kept
      · intro custom member
        rw [added] at member
        rcases List.mem_append.mp member with old | new
        · exact uniform custom old
        · cases List.mem_singleton.mp new
          exact steady
    | elapse time =>
      constructor
      · refine ⟨?_,tracked.paced⟩
        rw [added]
        have later := tracked.kept.elapse time
        change c.Kept {p.shared with now := p.shared.now + time.val} (admitted p.shared ++ removals (waiting p ++ []))
        rw [List.append_nil]
        exact later
      · intro custom member
        rw [added] at member
        exact uniform custom ((List.append_nil (waiting p)) ▸ member)
  · obtain ⟨tasks,goes,did⟩ := exec_did (c := c) task o p.shared steady
    obtain ⟨here,there⟩ := waiting_run p (c.exec task o p.shared).1 split
    have stepped' : step c.limiter p (.run n o) = ⟨(c.exec task o p.shared).1,before ++ remaining rest (some tasks) :: after⟩ := by
      rw [stepped,← goes]
      rfl
    have rate : ∀ customRate, task = .pipeline customRate → c.rateLimit customRate = limit := by
      rintro customRate rfl
      exact uniform customRate (by rw [here]; simp)
    obtain ⟨kept,paced⟩ := did_tracked tracked here did rate
    rw [stepped']
    constructor
    · refine ⟨?_,paced⟩
      rw [there]
      exact kept
    · intro custom member
      rw [there] at member
      rcases List.mem_append.mp member with first | later
      · exact uniform custom (by rw [here]; exact List.mem_append_left _ first)
      · rcases List.mem_append.mp later with made | last
        · exact absurd made (did.later custom)
        · exact uniform custom (by rw [here]; exact List.mem_append_right _ (List.mem_cons_of_mem _ last))
  · rw [same]
    exact ⟨tracked,uniform⟩

-- What a run is asked for: one limit, and that no failing command lets a call in.
theorem run_tracked (c : RedisRateLimiter) (limit : Nat) (actions : List (Action RedisOutcome RateEvent))
    (steady : ∀ action ∈ actions, Steady c limit action) : Tracked c limit (Runs.run (step c.limiter) idle actions) :=
  (Runs.run_permitted (fun p => Tracked c limit p ∧ Uniform c limit p)
    (fun _ action holds allowed => step_tracked holds.1 holds.2 action allowed)
    ⟨idle_tracked,fun _ member => (List.not_mem_nil member).elim⟩ steady).1

def digits : RedisRateLimiter where
  defaultRate := 1
  windowSeconds := 60
  failOpen := false
  uuid4 n := String.ofList (List.replicate n '1')
  distinct a b same := by simpa using congrArg String.length same

def later (seconds : Nat) : Action RedisOutcome RateEvent := .outside (.elapse ⟨seconds,Nat.cast_nonneg seconds⟩)

def asked : Action RedisOutcome RateEvent := .outside (.isAllowed none)

def twoCalls : List (Action RedisOutcome RateEvent) := [asked,.run 0 .answered,later 59,asked,.run 2 .answered]

theorem asked_limit : ∀ customRate, .outside (.isAllowed customRate) ∈ twoCalls → digits.rateLimit customRate = (1 : Nat) := by
  intro customRate member
  simp only [twoCalls,asked,later,List.mem_cons,Action.outside.injEq,RateEvent.isAllowed.injEq,reduceCtorEq,
    List.not_mem_nil,or_false,false_or] at member
  rcases member with rfl | rfl <;> rfl

theorem redis_limit_safe (c : RedisRateLimiter) (closed : c.failOpen = false) (limit : Nat)
    (actions : List (Action RedisOutcome RateEvent))
    (constant : ∀ customRate, .outside (.isAllowed customRate) ∈ actions → c.rateLimit customRate = limit) (t : Rat) :
    (within c.window t (admittedTimes (Runs.run (step c.limiter) idle actions).shared)).length ≤ limit := by
  have steady : ∀ action ∈ actions, Steady c limit action := by
    intro action member
    cases action with
    | outside event =>
      cases event with
      | isAllowed customRate => exact constant customRate member
      | elapse time => trivial
    | run n o => exact .inl closed
  exact (run_tracked c limit actions steady).paced.bounded t

theorem redis_limit_safe_twice :
    (within digits.window 59 (admittedTimes (Runs.run (step digits.limiter) idle twoCalls).shared)).length ≤ 1 :=
  redis_limit_safe digits rfl 1 twoCalls asked_limit 59

section Denials
variable {c : RedisRateLimiter} {limit : Nat}

-- The times of the calls let in that are in the window, and those of denied calls that
-- are, whose entries have not been removed yet.
def inWindow (c : RedisRateLimiter) (p : Pool RateState RateTask) : Nat :=
  (recent c.window p.shared.now (admittedTimes p.shared)).length

def unremoved (c : RedisRateLimiter) (p : Pool RateState RateTask) : Nat :=
  (recent c.window p.shared.now ((removals (waiting p)).map Prod.snd)).length

-- The command of a call that the limiter denies: the call goes on to remove its entry.
def Denies (c : RedisRateLimiter) (p : Pool RateState RateTask) (n : Nat) : Prop :=
  ∃ customRate rest, p.calls[n]? = some (.pipeline customRate :: rest) ∧ (c.exec (.pipeline customRate) .answered p.shared).2 ≠ some []

def DeniedAtLimit (c : RedisRateLimiter) (limit : Nat) (p : Pool RateState RateTask) : Action RedisOutcome RateEvent → Prop
  | .run n _ => Denies c p n → limit ≤ inWindow c p
  | .outside _ => True

def Unobstructed (c : RedisRateLimiter) (limit : Nat) (p : Pool RateState RateTask) : Action RedisOutcome RateEvent → Prop
  | .run n _ => ∀ customRate rest, p.calls[n]? = some (.pipeline customRate :: rest) →
    limit ≤ inWindow c p ∨ inWindow c p + unremoved c p < limit
  | .outside _ => True

-- The key holds nothing but the entries of the ledger.
structure Exact (s : RateState) (ledger : List (String × Rat)) : Prop where
  epoch : 0 ≤ s.now
  positive : ∀ member score, s.key.scores.get? member = some score → 0 ≤ score
  accounted : ∀ member score, s.key.scores.get? member = some score → (member,score) ∈ ledger

theorem Exact.perm (exact' : Exact s ledger) (same : ledger.Perm other) : Exact s other :=
  ⟨exact'.epoch,exact'.positive,fun member score stored => same.mem_iff.mp (exact'.accounted member score stored)⟩

theorem Exact.replied (exact' : Exact s ledger) (r : RateReply) : Exact (reply s r) ledger :=
  ⟨exact'.epoch,exact'.positive,exact'.accounted⟩

theorem Exact.write (exact' : Exact s ledger) :
    Exact {s with key := c.written s, issued := s.issued + 1} ((c.uuid4 s.issued,s.now) :: ledger) := by
  refine ⟨exact'.epoch,?_,?_⟩
  · intro member score stored
    rcases get?_written stored with ⟨_,rfl⟩ | old
    · exact exact'.epoch
    · exact exact'.positive member score old
  · intro member score stored
    rcases get?_written stored with ⟨rfl,rfl⟩ | old
    · exact List.mem_cons_self
    · exact List.mem_cons_of_mem _ (exact'.accounted member score old)

theorem Exact.remove (exact' : Exact s (entry :: ledger)) : Exact {s with key := (s.key.found s.now).zrem entry.1} ledger := by
  have read : ∀ member score, ((s.key.found s.now).zrem entry.1).scores.get? member = some score →
      s.key.scores.get? member = some score := fun _ _ found => (found_stored (get?_zrem found).2).1
  refine ⟨exact'.epoch,fun member score found => exact'.positive member score (read member score found),?_⟩
  intro member score found
  rcases List.mem_cons.mp (exact'.accounted member score (read member score found)) with same | old
  · exact absurd (congrArg Prod.fst same) (get?_zrem found).1
  · exact old

-- What the pipeline counts: the entries of both kinds that are in the window.
theorem zcard_trimmed (kept : c.Kept s ledger) (exact' : Exact s ledger) :
    (c.trimmed s).zcard = (recent c.window s.now (ledger.map Prod.snd)).length := by
  rw [recent,List.filter_map,List.length_map,SortedSetKey.zcard]
  apply List.Perm.length_eq
  apply (List.perm_ext_iff_of_nodup (List.Nodup.of_map Prod.fst (c.trimmed s).scores.unique)
    ((List.Nodup.of_map Prod.fst kept.unique).filter _)).mpr
  intro given
  obtain ⟨member,score⟩ := given
  rw [OrderedDict.get?_entry,get?_trimmed,List.mem_filter]
  constructor
  · intro given
    obtain ⟨found,inside⟩ := given
    have stored := (found_stored found).1
    refine ⟨exact'.accounted member score stored,decide_eq_true ?_⟩
    exact not_le.mp fun old => inside ⟨exact'.positive member score stored,old⟩
  · intro given
    obtain ⟨entered,fresh⟩ := given
    have recently : s.now - c.window < score := of_decide_eq_true fresh
    exact ⟨kept.held (member,score) entered recently,fun left => absurd recently (not_lt.mpr left.2)⟩

theorem did_exact (exact' : Exact p.shared (admitted p.shared ++ removals (waiting p)))
    (split : waiting p = before ++ task :: after) (did : Did c .answered p.shared task t tasks) :
    Exact t (admitted t ++ removals (before ++ (tasks ++ after))) := by
  have next := exact'.perm (ledger_next split)
  cases did with
  | @admitted customRate room =>
    have here : Exact p.shared (admitted p.shared ++ removals (before ++ after)) := next
    have wrote := here.write (c := c)
    exact (wrote.replied _).perm (ledger_admitted p.shared _ _ ⟨c.uuid4 p.shared.issued,p.shared.now,true,_,0⟩ rfl _)
  | denied full =>
    have here : Exact p.shared (admitted p.shared ++ removals (before ++ after)) := next
    exact here.write.perm (ledger_denied _ before after _ _ _ _)
  | failed raised either refused => exact absurd rfl raised
  | @removed key member stamp limit oldest r either refused =>
    have here : Exact p.shared ((member,stamp) :: (admitted p.shared ++ removals (before ++ after))) := next
    obtain rfl := either.resolve_right fun raised => raised.1 rfl
    rw [admitted_refused _ r refused]
    exact here.remove.replied r

-- One limit, and no command that fails.
def Served (c : RedisRateLimiter) (limit : Nat) : Action RedisOutcome RateEvent → Prop
  | .outside (.isAllowed customRate) => c.rateLimit customRate = limit
  | .outside (.elapse _) => True
  | .run _ o => o = .answered

theorem Served.steady (served : Served c limit action) : Steady c limit action := by
  cases action with
  | outside event => cases event <;> exact served
  | run n o => exact .inr served

structure Faithful (c : RedisRateLimiter) (limit : Nat) (p : Pool RateState RateTask) : Prop where
  tracked : Tracked c limit p
  uniform : Uniform c limit p
  exact' : Exact p.shared (admitted p.shared ++ removals (waiting p))

theorem step_exact (exact' : Exact p.shared (admitted p.shared ++ removals (waiting p))) (action : Action RedisOutcome RateEvent)
    (served : Served c limit action) :
    Exact (step c.limiter p action).shared (admitted (step c.limiter p action).shared ++ removals (waiting (step c.limiter p action))) := by
  rcases step_cases c.limiter p action with ⟨e,rfl,stepped⟩ | ⟨n,o,task,rest,before,after,rfl,_,split,stepped⟩ | ⟨same,_⟩
  · rw [waiting_outside c.limiter p e]
    cases e with
    | isAllowed customRate =>
      have none : removals (waiting p ++ [.pipeline customRate]) = removals (waiting p) := by simp [removals,removal]
      change Exact p.shared (admitted p.shared ++ removals (waiting p ++ [.pipeline customRate]))
      rw [none]
      exact exact'
    | elapse time =>
      change Exact {p.shared with now := p.shared.now + time.val} (admitted p.shared ++ removals (waiting p ++ []))
      rw [List.append_nil]
      exact ⟨add_nonneg exact'.epoch time.property,exact'.positive,exact'.accounted⟩
  · obtain rfl : o = .answered := served
    obtain ⟨tasks,goes,did⟩ := exec_did (c := c) task .answered p.shared (.inr rfl)
    obtain ⟨here,there⟩ := waiting_run p (c.exec task .answered p.shared).1 split
    have stepped' : step c.limiter p (.run n .answered) =
        ⟨(c.exec task .answered p.shared).1,before ++ remaining rest (some tasks) :: after⟩ := by
      rw [stepped,← goes]
      rfl
    rw [stepped',there]
    exact did_exact exact' here did
  · rw [same]
    exact exact'

theorem step_faithful (faithful : Faithful c limit p) (action : Action RedisOutcome RateEvent) (served : Served c limit action) :
    Faithful c limit (step c.limiter p action) :=
  have stepped := step_tracked faithful.tracked faithful.uniform action served.steady
  ⟨stepped.1,stepped.2,step_exact faithful.exact' action served⟩

theorem idle_faithful : Faithful c limit idle where
  tracked := idle_tracked
  uniform _ member := (List.not_mem_nil member).elim
  exact' := ⟨le_refl 0,fun _ _ found => (Option.some_ne_none _ found.symm).elim,fun _ _ found => (Option.some_ne_none _ found.symm).elim⟩

theorem denies_iff (faithful : Faithful c limit p) (next : p.calls[n]? = some (.pipeline customRate :: rest)) :
    Denies c p n ↔ limit ≤ inWindow c p + unremoved c p := by
  have rate : c.rateLimit customRate = limit :=
    faithful.uniform customRate (List.mem_flatten.mpr ⟨_,List.mem_of_getElem? next,List.mem_cons_self⟩)
  have counted : (c.trimmed p.shared).zcard = inWindow c p + unremoved c p := by
    rw [zcard_trimmed faithful.tracked.kept faithful.exact',List.map_append,recent_append,List.length_append,inWindow,unremoved,
      admittedTimes_pairs]
  have goes : (c.exec (.pipeline customRate) .answered p.shared).2 ≠ some [] ↔ limit ≤ inWindow c p + unremoved c p := by
    rw [← counted,exec,rate]
    simp only [Nat.cast_le]
    split
    · rename_i full
      simp [full]
    · rename_i room
      simp [room]
  rw [← goes]
  constructor
  · intro given
    obtain ⟨custom,others,found,continues⟩ := given
    cases found.symm.trans next
    exact continues
  · intro continues
    exact ⟨customRate,rest,next,continues⟩

theorem redis_denials_fair (c : RedisRateLimiter) (limit : Nat) (actions : List (Action RedisOutcome RateEvent))
    (constant : ∀ customRate, .outside (.isAllowed customRate) ∈ actions → c.rateLimit customRate = limit)
    (answered : ∀ n o, .run n o ∈ actions → o = .answered) :
    Runs.Along (step c.limiter) (DeniedAtLimit c limit) idle actions ↔
      Runs.Along (step c.limiter) (Unobstructed c limit) idle actions := by
  have served : ∀ action ∈ actions, Served c limit action := by
    intro action member
    cases action with
    | outside event =>
      cases event with
      | isAllowed customRate => exact constant customRate member
      | elapse time => trivial
    | run n o => exact answered n o member
  refine Runs.along_permitted (Faithful c limit) (fun _ action holds allowed => step_faithful holds action allowed) ?_ idle_faithful served
  intro p action faithful _
  cases action with
  | outside event => exact Iff.rfl
  | run n o =>
    simp only [DeniedAtLimit,Unobstructed]
    constructor
    · intro fair customRate rest next
      rw [denies_iff faithful next] at fair
      by_cases full : limit ≤ inWindow c p + unremoved c p
      · exact .inl (fair full)
      · exact .inr (not_le.mp full)
    · intro clear denied
      obtain ⟨customRate,rest,next,continues⟩ := denied
      have full := (denies_iff faithful next).mp ⟨customRate,rest,next,continues⟩
      exact (clear customRate rest next).resolve_right (not_lt.mpr full)

theorem redis_denials_fair_twice : Runs.Along (step digits.limiter) (DeniedAtLimit digits 1) idle twoCalls ↔
    Runs.Along (step digits.limiter) (Unobstructed digits 1) idle twoCalls := by
  refine redis_denials_fair digits 1 twoCalls asked_limit ?_
  intro n o member
  simp only [twoCalls,asked,later,List.mem_cons,Action.run.injEq,reduceCtorEq,List.not_mem_nil,or_false,false_or] at member
  rcases member with ⟨_,rfl⟩ | ⟨_,rfl⟩ <;> rfl

-- The call at 61 finds the entry of the one denied at 59, and no call let in since 1.
theorem delayed_removal_denies :
    ¬Runs.Along (step digits.limiter) (DeniedAtLimit digits 1) idle (twoCalls ++ [later 2,asked,.run 4 .answered]) := by
  intro fair
  have last : (twoCalls ++ [later 2,asked,.run 4 .answered]) = (twoCalls ++ [later 2,asked]) ++ .run 4 .answered :: [] := by
    simp
  rw [last] at fair
  have atLimit := Runs.along_at fair
  have next : (Runs.run (step digits.limiter) idle (twoCalls ++ [later 2,asked])).calls[4]? = some [.pipeline none] := rfl
  have goesOn : (digits.exec (.pipeline none) .answered (Runs.run (step digits.limiter) idle (twoCalls ++ [later 2,asked])).shared).2.map
      List.length = some 1 := by decide +kernel
  have none : inWindow digits (Runs.run (step digits.limiter) idle (twoCalls ++ [later 2,asked])) = 0 := by decide +kernel
  have counted := atLimit ⟨_,_,next,fun ended => by rw [ended] at goesOn; cases goesOn⟩
  rw [none] at counted
  exact absurd counted (by decide)

end Denials
end RedisRateLimiter
end RiskPulse
