import RiskPulse.Library.Fallible
import RiskPulse.Library.KeyedQueues
import RiskPulse.RulesEngine

namespace RiskPulse
open KeyedQueues

abbrev Evaluated := RuleEvaluationRecord String

structure RuleAuditTrail where
  maxRecords : Nat
  positive : 1 ≤ maxRecords

-- The records, oldest first, and what is kept of them by transaction and by rule.
structure AuditState where
  records : List Evaluated
  byTransaction : OrderedDict String (List Evaluated)
  byRule : OrderedDict String (List Evaluated)
  stats : OrderedDict String Int

def AuditState.start : AuditState := ⟨[],.empty,.empty,.empty⟩

structure AuditStats where
  totalEvaluations : Nat
  totalTriggered : Int
  uniqueTransactions : Nat
  rulesTracked : Nat
  breakdown : OrderedDict String Int

namespace RuleAuditTrail

def statKey (ruleId : String) (outcome : EvaluationOutcome) : String := ruleId ++ ":" ++ outcome.value

def stat (e : Evaluated) : String := statKey e.ruleId e.outcome

def evict (s : AuditState) : Except String AuditState :=
  match s.records with
  | [] => .error "deque index out of range"
  | expired :: _ =>
    match popFront s.byTransaction expired.transactionId with
    | none => .error "pop from an empty deque"
    | some byTransaction =>
      match popFront s.byRule expired.ruleId with
      | none => .error "pop from an empty deque"
      | some byRule => .ok {s with byTransaction, byRule, stats := decrement s.stats (stat expired)}

-- The deque of the records drops its first when it is full.
def recordUnlocked (t : RuleAuditTrail) (s : AuditState) (e : Evaluated) : Except String AuditState := do
  let kept ← if s.records.length = t.maxRecords then evict s else pure s
  return {
    records := (kept.records ++ [e]).drop (kept.records.length + 1 - t.maxRecords)
    byTransaction := push kept.byTransaction e.transactionId e
    byRule := push kept.byRule e.ruleId e
    stats := increment kept.stats (stat e) }

def recordBatch (t : RuleAuditTrail) (s : AuditState) (evaluations : List Evaluated) : Except String AuditState :=
  evaluations.foldlM (recordUnlocked t) s

inductive Call where
  | record (evaluation : Evaluated)
  | recordBatch (evaluations : List Evaluated)
  | clear

def perform (t : RuleAuditTrail) (s : AuditState) : Call → Except String AuditState
  | .record e => recordUnlocked t s e
  | .recordBatch es => recordBatch t s es
  | .clear => .ok .start

def getByTransaction (s : AuditState) (transactionId : String) : List Evaluated := s.byTransaction.getD transactionId []

-- records[-limit:], which is everything when the limit is 0.
def latest (limit : Int) (records : List Evaluated) : List Evaluated :=
  if 0 < limit then records.drop (records.length - limit.toNat) else records.drop (-limit).toNat

def getByRule (s : AuditState) (ruleId : String) (limit : Int) : List Evaluated := latest limit (s.byRule.getD ruleId [])

def getRecent (s : AuditState) (limit : Int) : List Evaluated := latest limit s.records

def getStats (s : AuditState) : AuditStats where
  totalEvaluations := s.records.length
  totalTriggered := ((s.stats.entries.filter fun entry => ":triggered".toList.isSuffixOf entry.1.toList).map Prod.snd).sum
  uniqueTransactions := s.byTransaction.entries.length
  rulesTracked := s.byRule.entries.length
  breakdown := s.stats

-- The evaluations recorded since the last clear.
def recordedBy (held : List Evaluated) : Call → List Evaluated
  | .record e => held ++ [e]
  | .recordBatch es => held ++ es
  | .clear => []

def recorded (calls : List Call) : List Evaluated := calls.foldl recordedBy []

def recent (most : Nat) (evaluations : List Evaluated) : List Evaluated := evaluations.drop (evaluations.length - most)

theorem recent_length (most : Nat) (evaluations : List Evaluated) :
    (recent most evaluations).length = min most evaluations.length := by
  rw [recent,List.length_drop]
  omega

theorem recent_append (positive : 1 ≤ most) (evaluations : List Evaluated) (e : Evaluated) :
    recent most (evaluations ++ [e]) =
      (recent most evaluations ++ [e]).drop ((recent most evaluations).length + 1 - most) := by
  rw [recent_length]
  by_cases room : evaluations.length < most
  · have few : min most evaluations.length + 1 - most = 0 := by omega
    have all : evaluations.length - most = 0 := by omega
    have more : (evaluations ++ [e]).length - most = 0 := by rw [List.length_append,List.length_singleton]; omega
    rw [few,recent,recent,all,more,List.drop_zero,List.drop_zero,List.drop_zero]
  · have one : min most evaluations.length + 1 - most = 1 := by omega
    have next : (evaluations ++ [e]).length - most = evaluations.length - most + 1 := by
      rw [List.length_append,List.length_singleton]
      omega
    have inside : evaluations.length - most + 1 ≤ evaluations.length := by omega
    have nonempty : 1 ≤ (evaluations.drop (evaluations.length - most)).length := by
      rw [List.length_drop]
      omega
    rw [one,recent,recent,next,List.drop_append_of_le_length inside,List.drop_append_of_le_length nonempty,
      List.drop_drop]

-- The text after the last colon is the outcome.
theorem colon_split (first second v w : List Char) (clear : ':' ∉ v) (free : ':' ∉ w)
    (same : first ++ ':' :: v = second ++ ':' :: w) : first = second ∧ v = w := by
  rcases List.append_eq_append_iff.mp same with ⟨between,rfl,tail⟩ | ⟨between,rfl,tail⟩
  · cases between with
    | nil =>
      rw [List.nil_append] at tail
      exact ⟨(List.append_nil first).symm,(List.cons.inj tail).2⟩
    | cons c rest =>
      have inside := (List.cons.inj tail).2
      exact absurd (by rw [inside]; simp) clear
  · cases between with
    | nil =>
      rw [List.nil_append] at tail
      exact ⟨List.append_nil second,(List.cons.inj tail).2.symm⟩
    | cons c rest =>
      have inside := (List.cons.inj tail).2
      exact absurd (by rw [inside]; simp) free

theorem statKey_parts (ruleId other : String) (outcome result : EvaluationOutcome) :
    statKey ruleId outcome = statKey other result ↔ ruleId = other ∧ outcome = result := by
  constructor
  · intro same
    have plain : ∀ o : EvaluationOutcome, ':' ∉ o.value.toList := by
      intro o
      cases o <;> decide
    have texts : ruleId.toList ++ ':' :: outcome.value.toList = other.toList ++ ':' :: result.value.toList := by
      have lists := congrArg String.toList same
      simpa [statKey] using lists
    obtain ⟨rules,outcomes⟩ := colon_split _ _ _ _ (plain outcome) (plain result) texts
    exact ⟨String.toList_inj.mp rules,EvaluationOutcome.value_injective (String.toList_inj.mp outcomes)⟩
  · rintro ⟨rfl,rfl⟩
    rfl

-- The state holds these records: the list, the two indexes and the counts agree on them.
structure Holds (s : AuditState) (held : List Evaluated) : Prop where
  records : s.records = held
  byTransaction : Indexes (fun e : Evaluated => e.transactionId) held s.byTransaction
  byRule : Indexes (fun e : Evaluated => e.ruleId) held s.byRule
  stats : Counts stat held s.stats

theorem start_holds (most : Nat) : Holds .start (recent most []) := by
  rw [recent,List.drop_nil]
  exact ⟨rfl,indexes_empty,indexes_empty,counts_empty⟩

theorem evict_holds (holds : Holds s (first :: rest)) :
    ∃ kept, evict s = .ok kept ∧ kept.records = first :: rest ∧
      Indexes (fun e : Evaluated => e.transactionId) rest kept.byTransaction ∧
      Indexes (fun e : Evaluated => e.ruleId) rest kept.byRule ∧ Counts stat rest kept.stats := by
  obtain ⟨byTransaction,ofTransaction,transactions⟩ := indexes_popFront holds.byTransaction
  obtain ⟨byRule,ofRule,rules⟩ := indexes_popFront holds.byRule
  refine ⟨{s with byTransaction, byRule, stats := decrement s.stats (stat first)},?_,holds.records,transactions,rules,
    counts_decrement holds.stats⟩
  simp only [evict,holds.records,ofTransaction,ofRule]

theorem recordUnlocked_holds (t : RuleAuditTrail) (evaluations : List Evaluated)
    (holds : Holds s (recent t.maxRecords evaluations)) (e : Evaluated) :
    ∃ next, recordUnlocked t s e = .ok next ∧ Holds next (recent t.maxRecords (evaluations ++ [e])) := by
  have size := recent_length t.maxRecords evaluations
  rw [recent_append t.positive]
  by_cases full : s.records.length = t.maxRecords
  · rw [holds.records] at full
    obtain ⟨first,rest,nonempty⟩ : ∃ first rest, recent t.maxRecords evaluations = first :: rest := by
      cases taken : recent t.maxRecords evaluations with
      | nil =>
        have positive := t.positive
        rw [taken,List.length_nil] at full
        omega
      | cons first rest => exact ⟨first,rest,rfl⟩
    rw [nonempty] at holds full ⊢
    obtain ⟨kept,evicted,records,transactions,rules,counts⟩ := evict_holds holds
    refine ⟨_,by rw [recordUnlocked,holds.records,if_pos full,evicted]; rfl,?_⟩
    have one : (first :: rest).length + 1 - t.maxRecords = 1 := by omega
    rw [one,List.cons_append,List.drop_one,List.tail_cons]
    refine ⟨?_,indexes_push transactions e,indexes_push rules e,counts_increment counts e⟩
    simp only [records,one,List.cons_append,List.drop_one,List.tail_cons]
  · refine ⟨_,by rw [recordUnlocked,if_neg full]; rfl,?_⟩
    rw [holds.records] at full
    have none : (recent t.maxRecords evaluations).length + 1 - t.maxRecords = 0 := by omega
    rw [none,List.drop_zero]
    refine ⟨?_,indexes_push holds.byTransaction e,indexes_push holds.byRule e,counts_increment holds.stats e⟩
    simp only [holds.records,none,List.drop_zero]

theorem recordBatch_holds (t : RuleAuditTrail) (es evaluations : List Evaluated)
    (holds : Holds s (recent t.maxRecords evaluations)) :
    ∃ next, recordBatch t s es = .ok next ∧ Holds next (recent t.maxRecords (evaluations ++ es)) := by
  induction es generalizing s evaluations with
  | nil => exact ⟨s,rfl,by rw [List.append_nil]; exact holds⟩
  | cons e rest ih =>
    obtain ⟨middle,first,held⟩ := recordUnlocked_holds t evaluations holds e
    obtain ⟨next,later,whole⟩ := ih (evaluations ++ [e]) held
    refine ⟨next,(Fallible.fold_cons e rest).mpr ⟨middle,first,later⟩,?_⟩
    rw [List.append_assoc] at whole
    exact whole

theorem perform_holds (t : RuleAuditTrail) (evaluations : List Evaluated)
    (holds : Holds s (recent t.maxRecords evaluations)) (call : Call) :
    ∃ next, perform t s call = .ok next ∧ Holds next (recent t.maxRecords (recordedBy evaluations call)) := by
  cases call with
  | record e => exact recordUnlocked_holds t evaluations holds e
  | recordBatch es => exact recordBatch_holds t es evaluations holds
  | clear => exact ⟨.start,rfl,start_holds _⟩

theorem calls_hold (t : RuleAuditTrail) (calls : List Call) (evaluations : List Evaluated)
    (holds : Holds s (recent t.maxRecords evaluations)) :
    ∃ next, calls.foldlM (perform t) s = .ok next ∧
      Holds next (recent t.maxRecords (calls.foldl recordedBy evaluations)) := by
  induction calls generalizing s evaluations with
  | nil => exact ⟨s,rfl,holds⟩
  | cons call rest ih =>
    obtain ⟨middle,first,held⟩ := perform_holds t evaluations holds call
    obtain ⟨next,later,whole⟩ := ih (recordedBy evaluations call) held
    exact ⟨next,(Fallible.fold_cons call rest).mpr ⟨middle,first,later⟩,whole⟩

theorem getByTransaction_held (holds : Holds s held) (transactionId : String) :
    getByTransaction s transactionId = held.filter fun e => decide (e.transactionId = transactionId) :=
  indexes_getD holds.byTransaction transactionId

theorem getByRule_held (holds : Holds s held) (ruleId : String) (limit : Int) :
    getByRule s ruleId limit = latest limit (held.filter fun e => decide (e.ruleId = ruleId)) := by
  rw [getByRule,indexes_getD holds.byRule]
  rfl

theorem stat_triggered (e : Evaluated) : ":triggered".toList.isSuffixOf (stat e).toList = true ↔ e.outcome = .triggered := by
  rw [List.isSuffixOf_iff_suffix]
  constructor
  · rintro ⟨before,whole⟩
    have plain : ':' ∉ e.outcome.value.toList := by cases e.outcome <;> decide
    have texts : before ++ ':' :: "triggered".toList = e.ruleId.toList ++ ':' :: e.outcome.value.toList := by
      simpa [stat,statKey] using whole
    obtain ⟨_,same⟩ := colon_split _ _ _ _ (by decide) plain texts
    exact EvaluationOutcome.value_injective (String.toList_inj.mp same.symm)
  · intro triggered
    exact ⟨e.ruleId.toList,by simp [stat,statKey,triggered,EvaluationOutcome.value]⟩

-- The statistics are those of the records held.
theorem getStats_held (holds : Holds s held) :
    (getStats s).totalEvaluations = held.length ∧
      (getStats s).totalTriggered = ((held.countP fun e => decide (e.outcome = .triggered) : Nat) : Int) ∧
      (getStats s).uniqueTransactions = (held.map fun e => e.transactionId).dedup.length ∧
      (getStats s).rulesTracked = (held.map fun e => e.ruleId).dedup.length := by
  refine ⟨by rw [getStats,holds.records],?_,indexes_keys holds.byTransaction,indexes_keys holds.byRule⟩
  have triggered : (held.countP fun e => ":triggered".toList.isSuffixOf (stat e).toList) =
      held.countP fun e => decide (e.outcome = .triggered) := by
    apply List.countP_congr
    intro e _
    rw [stat_triggered,decide_eq_true_iff]
  rw [← triggered]
  exact counts_total holds.stats fun text => ":triggered".toList.isSuffixOf text.toList

def entry (matching : List Evaluated) : Option (List Evaluated) := if matching = [] then none else some matching

theorem stats_count (holds : Holds s held) (ruleId : String) (outcome : EvaluationOutcome) :
    s.stats.get? (statKey ruleId outcome) =
      (entry (held.filter fun e => decide (e.ruleId = ruleId ∧ e.outcome = outcome))).map fun es => (es.length : Int) := by
  have same : queue stat held (statKey ruleId outcome) =
      held.filter fun e => decide (e.ruleId = ruleId ∧ e.outcome = outcome) := by
    apply List.filter_congr
    intro e _
    exact decide_eq_decide.mpr (statKey_parts e.ruleId ruleId e.outcome outcome)
  rw [holds.stats,same,entry]
  split <;> rfl

-- Over any calls the trail holds the latest records, and the indexes and the counts are
-- those of the records it holds; no call raises.
theorem trail_exact (t : RuleAuditTrail) (calls : List Call) :
    ∃ s, calls.foldlM (perform t) AuditState.start = .ok s ∧
      s.records = recent t.maxRecords (recorded calls) ∧
      (∀ transactionId, s.byTransaction.get? transactionId =
        entry (s.records.filter fun e => decide (e.transactionId = transactionId))) ∧
      (∀ ruleId, s.byRule.get? ruleId = entry (s.records.filter fun e => decide (e.ruleId = ruleId))) ∧
      ∀ ruleId outcome, s.stats.getD (statKey ruleId outcome) 0 =
        ((s.records.countP fun e => decide (e.ruleId = ruleId ∧ e.outcome = outcome) : Nat) : Int) := by
  obtain ⟨s,ran,holds⟩ := calls_hold t calls [] (start_holds t.maxRecords)
  have kept : s.records = recent t.maxRecords (recorded calls) := holds.records
  change Holds s (recent t.maxRecords (recorded calls)) at holds
  rw [← kept] at holds
  refine ⟨s,ran,kept,holds.byTransaction,holds.byRule,?_⟩
  intro ruleId outcome
  rw [OrderedDict.getD,stats_count holds,entry,List.countP_eq_length_filter]
  split
  · rename_i nothing
    rw [nothing]
    rfl
  · rfl

-- What the trail answers after any calls is read off the latest records, whichever others have
-- been evicted or cleared.
theorem queries_exact (t : RuleAuditTrail) (calls : List Call) :
    ∃ s, calls.foldlM (perform t) AuditState.start = .ok s ∧
      let held := recent t.maxRecords (recorded calls)
      (∀ transactionId, getByTransaction s transactionId = held.filter fun e => decide (e.transactionId = transactionId)) ∧
      (∀ ruleId limit, getByRule s ruleId limit = latest limit (held.filter fun e => decide (e.ruleId = ruleId))) ∧
      (∀ limit, getRecent s limit = latest limit held) ∧
      (getStats s).totalEvaluations = held.length ∧
      (getStats s).totalTriggered = ((held.countP fun e => decide (e.outcome = .triggered) : Nat) : Int) ∧
      (getStats s).uniqueTransactions = (held.map fun e => e.transactionId).dedup.length ∧
      (getStats s).rulesTracked = (held.map fun e => e.ruleId).dedup.length := by
  obtain ⟨s,ran,holds⟩ := calls_hold t calls [] (start_holds t.maxRecords)
  refine ⟨s,ran,getByTransaction_held holds,getByRule_held holds,?_,getStats_held holds⟩
  intro limit
  rw [getRecent,holds.records]
  rfl

end RuleAuditTrail
end RiskPulse
