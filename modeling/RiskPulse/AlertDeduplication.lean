import RiskPulse.AlertSteps

namespace RiskPulse
open SlidingWindow Runs

namespace DeduplicationEngine

-- The times kept under a key.
def stamps (seen : Seen) (key : String) : List Rat := seen.getD key []

theorem stamps_set (seen : Seen) (own : String) (times : List Rat) (key : String) :
    stamps (seen.set own times) key = if key = own then times else stamps seen key :=
  OrderedDict.getD_set seen own times key []

-- An evicted key had no time left in the window.
theorem evict_recent (e : DeduplicationEngine) (now : Rat) (seen : Seen) (key : String) :
    recent e.windowSeconds now (stamps (evictExpired e now seen) key) = recent e.windowSeconds now (stamps seen key) := by
  simp only [stamps,OrderedDict.getD,evictExpired,OrderedDict.get?_foldl_erase]
  split
  · rename_i evicted
    obtain ⟨entry,expired,rfl⟩ := List.mem_map.mp evicted
    obtain ⟨present,old⟩ := List.mem_filter.mp expired
    have found : seen.get? entry.1 = some entry.2 := (OrderedDict.get?_entry seen entry.1 entry.2).mp present
    have none_left : recent e.windowSeconds now entry.2 = [] := by
      apply recent_expired
      intro t member
      have aged : e.windowSeconds ≤ now - t := of_decide_eq_true (List.all_eq_true.mp old t member)
      rw [add_comm]
      exact le_sub_iff_add_le.mp aged
    rw [found]
    exact none_left.symm
  · rfl

theorem record_recent (e : DeduplicationEngine) (own : String) (now : Rat) (seen : Seen) (key : String) :
    recent e.windowSeconds now (stamps (record e own now seen) key) =
      recent e.windowSeconds now (stamps seen key ++ if key = own then [now] else []) := by
  have written : stamps (seen.set own (seen.getD own [] ++ [now])) key =
      stamps seen key ++ if key = own then [now] else [] := by
    rw [stamps_set]
    split
    · rename_i same
      rw [same]
      rfl
    · rw [List.append_nil]
  rw [← written]
  unfold record
  simp only
  split
  · exact evict_recent e now _ key
  · rfl

section Check
variable (e : DeduplicationEngine) (accountId ruleId : Value) (alertType : AlertType) (now : Rat) (seen : Seen)

theorem isDuplicate_absent (absent : seen.get? (generateDedupKey e accountId ruleId alertType) = none) :
    isDuplicate e accountId ruleId alertType now seen =
      (false,record e (generateDedupKey e accountId ruleId alertType) now seen) := by
  unfold isDuplicate
  simp only [absent]

theorem isDuplicate_present (found : seen.get? (generateDedupKey e accountId ruleId alertType) = some times) :
    isDuplicate e accountId ruleId alertType now seen =
      if (recent e.windowSeconds now times).isEmpty then
        (false,record e (generateDedupKey e accountId ruleId alertType) now
          (seen.set (generateDedupKey e accountId ruleId alertType) (recent e.windowSeconds now times)))
      else (true,seen.set (generateDedupKey e accountId ruleId alertType) (recent e.windowSeconds now times)) := by
  unfold isDuplicate
  simp only [found]

theorem isDuplicate_exact : (isDuplicate e accountId ruleId alertType now seen).1 = true ↔
    recent e.windowSeconds now (stamps seen (generateDedupKey e accountId ruleId alertType)) ≠ [] := by
  unfold stamps OrderedDict.getD
  rcases found : seen.get? (generateDedupKey e accountId ruleId alertType) with _ | times
  · rw [isDuplicate_absent e accountId ruleId alertType now seen found]
    simp [recent]
  · rw [isDuplicate_present e accountId ruleId alertType now seen found,Option.getD_some]
    cases recent e.windowSeconds now times with
    | nil => simp
    | cons first rest => simp

-- The check adds its own time under its own key when it finds none there, and keeps
-- every other time that is still in the window.
theorem isDuplicate_recent (key : String) :
    recent e.windowSeconds now (stamps (isDuplicate e accountId ruleId alertType now seen).2 key) =
      recent e.windowSeconds now (stamps seen key ++
        if key = generateDedupKey e accountId ruleId alertType ∧
          (isDuplicate e accountId ruleId alertType now seen).1 = false then [now] else []) := by
  rcases found : seen.get? (generateDedupKey e accountId ruleId alertType) with _ | times
  · rw [isDuplicate_absent e accountId ruleId alertType now seen found]
    simp only [and_true]
    exact record_recent e _ now seen key
  · have pruned : recent e.windowSeconds now (stamps (seen.set (generateDedupKey e accountId ruleId alertType)
        (recent e.windowSeconds now times)) key) = recent e.windowSeconds now (stamps seen key) := by
      rw [stamps_set]
      split
      · rename_i same
        rw [same,recent_recent _ le_rfl,stamps,OrderedDict.getD,found]
        rfl
      · rfl
    rw [isDuplicate_present e accountId ruleId alertType now seen found]
    by_cases fresh : (recent e.windowSeconds now times).isEmpty = true
    · rw [if_pos fresh]
      simp only [and_true]
      rw [record_recent,recent_append,pruned,← recent_append]
    · rw [if_neg fresh]
      simp only [Bool.true_eq_false,and_false,if_false,List.append_nil]
      exact pruned

end Check
end DeduplicationEngine

-- The alert is for the account, the rule and the type the call read.
def Generated.Matches (g : Generated) (a : Assessed) : Prop :=
  g.accountId = a.accountId ∧ g.ruleId = a.ruleId ∧ g.alertType = a.alertType

namespace AlertManager
open DeduplicationEngine
variable {m : AlertManager}

def keyOf (m : AlertManager) (g : Generated) : String := generateDedupKey m.deduplication g.accountId g.ruleId g.alertType

def callKey (m : AlertManager) (a : Assessed) : String := generateDedupKey m.deduplication a.accountId a.ruleId a.alertType

-- The times of the alerts generated for one account, rule and type.
def generatedTimes (s : AlertState) (accountId ruleId : Value) (alertType : AlertType) : List Rat :=
  (s.generated.filter fun g => decide (g.accountId = accountId ∧ g.ruleId = ruleId ∧ g.alertType = alertType)).map
    Generated.time

-- A call that comes back as deduplicated repeats an alert of less than the window ago.
def Sound (m : AlertManager) (s : AlertState) : AlertAction → Prop
  | .generate r => (generateAlert m r s).1 = .ok .deduplicated →
    ∃ a, assess r.scoringResult r.transaction = .ok a ∧
      ∃ g ∈ s.generated, g.Matches a ∧ checkedTime r s - g.time < m.deduplication.windowSeconds
  | .transition .. => True

-- A call that is recorded for the deduplication becomes an alert, and no other alert
-- of the window has its key text.
def Clear (m : AlertManager) (s : AlertState) : AlertAction → Prop
  | .generate r => ∀ a, assess r.scoringResult r.transaction = .ok a → (suppressed m r a s).1 = false →
    (Passes m r a s → Completes m r a s) ∧
    ∀ g ∈ s.generated, checkedTime r s - g.time < m.deduplication.windowSeconds →
      rawKey m.deduplication g.accountId g.ruleId g.alertType = rawKey m.deduplication a.accountId a.ruleId a.alertType →
      g.Matches a
  | .transition .. => True

-- What a step does to the table of the deduplication and to the alerts generated.
inductive Notes (m : AlertManager) (s : AlertState) : AlertAction → AlertState → Prop where
  | quiet {t : AlertState} (seen : t.seen = s.seen) (generated : t.generated = s.generated) (later : s.now ≤ t.now) : Notes m s action t
  | checked {r : Request} {a : Assessed} {t : AlertState} (read : assess r.scoringResult r.transaction = .ok a)
      (hashable : a.accountId.hashable = true) (free : (suppressed m r a s).1 = false)
      (seen : t.seen = (duplicate m r a s).2) (generated : t.generated = s.generated) (later : checkedTime r s ≤ t.now)
      (lost : Passes m r a s → ¬Completes m r a s) : Notes m s (.generate r) t
  | stored {r : Request} {a : Assessed} {t : AlertState} (read : assess r.scoringResult r.transaction = .ok a)
      (fresh : (duplicate m r a s).1 = false) (seen : t.seen = (duplicate m r a s).2)
      (generated : t.generated = s.generated ++ [⟨a.accountId,a.ruleId,a.alertType,checkedTime r s⟩])
      (later : checkedTime r s ≤ t.now) : Notes m s (.generate r) t

theorem generate_notes (m : AlertManager) (s : AlertState) (r : Request) :
    Notes m s (.generate r) (generateAlert m r s).2 := by
  obtain ⟨toSuppression,toChecked,toThrottle,toCreation⟩ := times_ordered r s
  have generates := generateAlert_generates m r s
  generalize (generateAlert m r s).1 = outcome at generates
  generalize (generateAlert m r s).2 = t at generates ⊢
  cases generates with
  | unread => exact .quiet rfl rfl le_rfl
  | unhashable => exact .quiet rfl rfl toSuppression
  | suppressed read hashable held same => exact .quiet same.seen same.generated (same.now ▸ toSuppression)
  | deduplicated read hashable free known same =>
    refine .checked read hashable free same.seen same.generated (same.now ▸ le_rfl) fun passes => ?_
    rw [passes.fresh] at known
    cases known
  | throttled read passes limited same =>
    refine .checked read passes.hashable passes.unsuppressed same.seen same.generated (same.now ▸ toThrottle) fun _ completes => ?_
    obtain ⟨reason,admitted⟩ := completes.1
    rw [limited] at admitted
    cases admitted
  | raised read passes fails =>
    refine .checked read passes.hashable passes.unsuppressed rfl rfl toThrottle fun _ completes => ?_
    obtain ⟨reason,admitted⟩ := completes.1
    rw [fails] at admitted
    cases admitted
  | undescribed read passes admitted fails =>
    refine .checked read passes.hashable passes.unsuppressed rfl rfl (toThrottle.trans toCreation) fun _ completes => ?_
    obtain ⟨description,written⟩ := completes.2
    rw [fails] at written
    cases written
  | generated read passes admitted described stored =>
    exact .stored read passes.fresh stored.seen stored.generated (stored.now ▸ toThrottle.trans toCreation)

theorem step_notes (m : AlertManager) (s : AlertState) (action : AlertAction) : Notes m s action (step m s action) := by
  cases action with
  | generate r => exact generate_notes m s r
  | transition alertId newStatus assignedTo resolutionNotes elapsed =>
    have later : s.now ≤ s.now + elapsed.1 := le_add_of_nonneg_right elapsed.2
    cases transitionAlert_transits m alertId newStatus assignedTo resolutionNotes elapsed s with
    | refused same => exact .quiet same.seen same.generated (same.now ▸ later)
    | applied found valid left => exact .quiet left.seen left.generated (left.now ▸ later)

-- What the table knows of the alerts generated, and how far apart these are.
structure Remembers (m : AlertManager) (s : AlertState) : Prop where
  ordered : ∀ g ∈ s.generated, g.time ≤ s.now
  kept : ∀ g ∈ s.generated, s.now - m.deduplication.windowSeconds < g.time → g.time ∈ stamps s.seen (keyOf m g)
  paced : ∀ accountId ruleId alertType,
    Paced m.deduplication.windowSeconds 1 (generatedTimes s accountId ruleId alertType)

-- Every time in the table that still counts is that of an alert generated.
def Backed (m : AlertManager) (s : AlertState) : Prop :=
  ∀ key, ∀ t ∈ stamps s.seen key, s.now - m.deduplication.windowSeconds < t →
    ∃ g ∈ s.generated, keyOf m g = key ∧ g.time = t

theorem remembers_start (m : AlertManager) : Remembers m .start :=
  ⟨fun _ member => (List.not_mem_nil member).elim,fun _ member => (List.not_mem_nil member).elim,fun _ _ _ => .nil⟩

theorem backed_start (m : AlertManager) : Backed m .start := fun _ _ member => by cases member

theorem duplicate_exact (m : AlertManager) (r : Request) (a : Assessed) (s : AlertState) :
    (duplicate m r a s).1 = true ↔
      ∃ t ∈ stamps s.seen (callKey m a), checkedTime r s - m.deduplication.windowSeconds < t := by
  rw [duplicate,isDuplicate_exact]
  constructor
  · intro left
    obtain ⟨t,member⟩ := List.exists_mem_of_ne_nil _ left
    exact ⟨t,(mem_recent _ _ _ _).mp member⟩
  · intro found
    obtain ⟨t,member⟩ := found
    exact List.ne_nil_of_mem ((mem_recent _ _ _ _).mpr member)

-- The times that count after the check are those before it and, when it found none,
-- its own.
theorem duplicate_stamps (m : AlertManager) (r : Request) (a : Assessed) (s : AlertState) (key : String) (t : Rat)
    (counts : checkedTime r s - m.deduplication.windowSeconds < t) :
    t ∈ stamps (duplicate m r a s).2 key ↔
      t ∈ stamps s.seen key ∨ (key = callKey m a ∧ (duplicate m r a s).1 = false) ∧ t = checkedTime r s := by
  have times : recent m.deduplication.windowSeconds (checkedTime r s) (stamps (duplicate m r a s).2 key) =
      recent m.deduplication.windowSeconds (checkedTime r s) (stamps s.seen key ++
        if key = callKey m a ∧ (duplicate m r a s).1 = false then [checkedTime r s] else []) :=
    isDuplicate_recent m.deduplication a.accountId a.ruleId a.alertType (checkedTime r s) s.seen key
  have same := congrArg (t ∈ ·) times
  simp only [mem_recent,counts,and_true,List.mem_append,eq_iff_iff] at same
  refine same.trans (or_congr_right ?_)
  by_cases added : key = callKey m a ∧ (duplicate m r a s).1 = false
  · rw [if_pos added,List.mem_singleton]
    exact (and_iff_right added).symm
  · rw [if_neg added]
    exact ⟨fun none => (List.not_mem_nil none).elim,fun found => absurd found.1 added⟩

section Times
variable {s t : AlertState}

theorem counts_before {before after span time : Rat} (later : before ≤ after) (counts : after - span < time) :
    before - span < time := lt_of_le_of_lt (sub_le_sub_right later span) counts

theorem times_stored (generated : t.generated = s.generated ++ [g]) (accountId ruleId : Value) (alertType : AlertType) :
    generatedTimes t accountId ruleId alertType = generatedTimes s accountId ruleId alertType ++
      if g.accountId = accountId ∧ g.ruleId = ruleId ∧ g.alertType = alertType then [g.time] else [] := by
  rw [generatedTimes,generated,List.filter_append,List.map_append]
  congr 1
  by_cases fits : g.accountId = accountId ∧ g.ruleId = ruleId ∧ g.alertType = alertType
  · simp [fits]
  · rw [if_neg fits]
    simp [fits]

theorem times_member (member : time ∈ generatedTimes s accountId ruleId alertType) :
    ∃ g ∈ s.generated, (g.accountId = accountId ∧ g.ruleId = ruleId ∧ g.alertType = alertType) ∧ g.time = time := by
  obtain ⟨g,fits,rfl⟩ := List.mem_map.mp member
  obtain ⟨present,same⟩ := List.mem_filter.mp fits
  exact ⟨g,present,of_decide_eq_true same,rfl⟩

end Times

-- A fresh call finds no alert of its account, rule and type in the window.
theorem fresh_room (remembers : Remembers m s) (fresh : (duplicate m r a s).1 = false) :
    recent m.deduplication.windowSeconds (checkedTime r s) (generatedTimes s a.accountId a.ruleId a.alertType) = [] := by
  have past := checked_later r s
  apply List.filter_eq_nil_iff.mpr
  intro t member counts
  obtain ⟨g,present,⟨account,rule,type⟩,rfl⟩ := times_member member
  have counted := of_decide_eq_true counts
  have stamped := remembers.kept g present (counts_before past counted)
  have own : keyOf m g = callKey m a := by rw [keyOf,account,rule,type,callKey]
  have known : (duplicate m r a s).1 = true := (duplicate_exact m r a s).mpr ⟨g.time,own ▸ stamped,counted⟩
  rw [fresh] at known
  cases known

theorem step_remembers (m : AlertManager) (s : AlertState) (action : AlertAction) (remembers : Remembers m s) :
    Remembers m (step m s action) := by
  have notes := step_notes m s action
  generalize step m s action = t at notes ⊢
  cases notes with
  | quiet seen generated later =>
    refine ⟨fun g member => ?_,fun g member counts => ?_,fun accountId ruleId alertType => ?_⟩
    · rw [generated] at member
      exact (remembers.ordered g member).trans later
    · rw [generated] at member
      rw [seen]
      exact remembers.kept g member (counts_before later counts)
    · rw [generatedTimes,generated]
      exact remembers.paced accountId ruleId alertType
  | @checked r a t read hashable free seen generated later lost =>
    have past := checked_later r s
    refine ⟨fun g member => ?_,fun g member counts => ?_,fun accountId ruleId alertType => ?_⟩
    · rw [generated] at member
      exact (remembers.ordered g member).trans (past.trans later)
    · rw [generated] at member
      have counted := counts_before later counts
      rw [seen,duplicate_stamps m r a s _ _ counted]
      exact .inl (remembers.kept g member (counts_before past counted))
    · rw [generatedTimes,generated]
      exact remembers.paced accountId ruleId alertType
  | @stored r a t read fresh seen generated later =>
    have past := checked_later r s
    refine ⟨fun g member => ?_,fun g member counts => ?_,fun accountId ruleId alertType => ?_⟩
    · rw [generated] at member
      rcases List.mem_append.mp member with old | new
      · exact (remembers.ordered g old).trans (past.trans later)
      · rw [List.mem_singleton.mp new]
        exact later
    · rw [generated] at member
      have counted := counts_before later counts
      rw [seen,duplicate_stamps m r a s _ _ counted]
      rcases List.mem_append.mp member with old | new
      · exact .inl (remembers.kept g old (counts_before past counted))
      · rw [List.mem_singleton.mp new]
        exact .inr ⟨⟨rfl,fresh⟩,rfl⟩
    · rw [times_stored generated]
      by_cases fits : a.accountId = accountId ∧ a.ruleId = ruleId ∧ a.alertType = alertType
      · rw [if_pos fits]
        obtain ⟨rfl,rfl,rfl⟩ := fits
        refine .add (remembers.paced _ _ _) ?_ ?_
        · intro time member
          obtain ⟨g,present,-,rfl⟩ := times_member member
          exact (remembers.ordered g present).trans past
        · rw [fresh_room remembers fresh]
          exact Nat.one_pos
      · rw [if_neg fits,List.append_nil]
        exact remembers.paced accountId ruleId alertType

theorem step_backed (m : AlertManager) (s : AlertState) (action : AlertAction) (backed : Backed m s)
    (clear : Clear m s action) : Backed m (step m s action) := by
  have notes := step_notes m s action
  generalize step m s action = t at notes ⊢
  cases notes with
  | quiet seen generated later =>
    intro key time member counts
    rw [seen] at member
    rw [generated]
    exact backed key time member (counts_before later counts)
  | @checked r a t read hashable free seen generated later lost =>
    have past := checked_later r s
    intro key time member counts
    have counted := counts_before later counts
    rw [seen,duplicate_stamps m r a s _ _ counted] at member
    rw [generated]
    rcases member with old | new
    · exact backed key time old (counts_before past counted)
    · have passes : Passes m r a s := ⟨hashable,free,new.1.2⟩
      exact absurd ((clear a read free).1 passes) (lost passes)
  | @stored r a t read fresh seen generated later =>
    have past := checked_later r s
    intro key time member counts
    have counted := counts_before later counts
    rw [seen,duplicate_stamps m r a s _ _ counted] at member
    rw [generated]
    rcases member with old | new
    · obtain ⟨g,present,own,stamped⟩ := backed key time old (counts_before past counted)
      exact ⟨g,List.mem_append_left _ present,own,stamped⟩
    · exact ⟨_,List.mem_append_right _ (List.mem_singleton.mpr rfl),new.1.1.symm,new.2.symm⟩

theorem backed_sound (backed : Backed m s) (clear : Clear m s action) : Sound m s action := by
  cases action with
  | transition => trivial
  | generate r =>
    have past := checked_later r s
    intro answered
    have generates := generateAlert_generates m r s
    rw [answered] at generates
    generalize (generateAlert m r s).2 = t at generates
    cases generates with
    | deduplicated read hashable free known same =>
      rename_i a
      obtain ⟨time,member,counts⟩ := (duplicate_exact m r a s).mp known
      obtain ⟨g,present,own,rfl⟩ := backed _ time member (counts_before past counts)
      have texts := m.deduplication.injective own
      have ago : checkedTime r s - g.time < m.deduplication.windowSeconds := sub_lt_comm.mp counts
      exact ⟨a,read,g,present,(clear a read free).2 g present ago texts,ago⟩

-- What the deduplication promises of a run.
structure Deduplicates (m : AlertManager) (actions : List AlertAction) : Prop where
  sound : Along (step m) (Sound m) .start actions
  once : ∀ accountId ruleId alertType position,
    (within m.deduplication.windowSeconds position
      (generatedTimes (run (step m) .start actions) accountId ruleId alertType)).length ≤ 1

theorem generated_once (m : AlertManager) (actions : List AlertAction) (accountId ruleId : Value) (alertType : AlertType)
    (position : Rat) : (within m.deduplication.windowSeconds position
      (generatedTimes (run (step m) .start actions) accountId ruleId alertType)).length ≤ 1 :=
  ((run_keeps (step m) (step_remembers m) (remembers_start m) actions).paced accountId ruleId alertType).bounded position

def answeredDeduplicated : Except String Generation → Bool
  | .ok .deduplicated => true
  | _ => false

theorem answered_deduplicated (answered : answeredDeduplicated outcome = true) : outcome = .ok .deduplicated := by
  unfold answeredDeduplicated at answered
  split at answered
  · rfl
  · cases answered

-- With one alert an hour for an account, the second call is throttled after it was
-- recorded, and the third is turned away as its duplicate.
def strict : AlertManager := {shipped with throttle := {shipped.throttle with maxPerAccountPerHour := 1}}

def firstRequest : Request := plainRequest "a-1" [] atOnce

def anomalyRequest : Request := plainRequest "a-1"
  [.dict [("method",.str "anomaly_detection"),("success",.bool true),("weighted_score",.int 1)]] atOnce

end AlertManager
end RiskPulse
