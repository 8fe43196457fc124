import Mathlib.Data.List.Chain
import RiskPulse.EscalationRecords

namespace RiskPulse
open Interleaved Runs

namespace EscalationPolicy

-- The distinct levels of the policy, from the lowest to the highest.
def ladder (policy : EscalationPolicy) : List EscalationLevel :=
  [.l1,.l2,.l3,.l4].filter fun level => decide (level ∈ policy.levels.map EscalationLevelConfig.level)

-- The condition on the configured list: it begins with its lowest level, no level is
-- repeated, and none is left out between the lowest and the highest.
structure Stepwise (policy : EscalationPolicy) : Prop where
  lowest : (policy.levels.head?).map EscalationLevelConfig.level = policy.ladder.head?
  apart : (policy.levels.map EscalationLevelConfig.level).Nodup
  gapless : policy.ladder.IsChain fun lower higher => higher.value = lower.value + 1

instance (policy : EscalationPolicy) : Decidable policy.Stepwise :=
  decidable_of_iff ((policy.levels.head?).map EscalationLevelConfig.level = policy.ladder.head? ∧
      (policy.levels.map EscalationLevelConfig.level).Nodup ∧
      policy.ladder.IsChain fun lower higher => higher.value = lower.value + 1)
    ⟨fun ⟨lowest,apart,gapless⟩ => ⟨lowest,apart,gapless⟩,fun shape => ⟨shape.lowest,shape.apart,shape.gapless⟩⟩

theorem mem_ladder (policy : EscalationPolicy) (level : EscalationLevel) :
    level ∈ policy.ladder ↔ level ∈ policy.levels.map EscalationLevelConfig.level := by
  have every : level ∈ [EscalationLevel.l1,.l2,.l3,.l4] := by cases level <;> simp
  simp only [ladder,List.mem_filter,every,true_and,decide_eq_true_eq]

theorem ladder_ascending (policy : EscalationPolicy) : policy.ladder.Pairwise fun lower higher => lower.value < higher.value := by
  have all : [EscalationLevel.l1,.l2,.l3,.l4].Pairwise fun lower higher => lower.value < higher.value := by decide
  exact all.sublist List.filter_sublist

theorem ladder_nodup (policy : EscalationPolicy) : policy.ladder.Nodup :=
  policy.ladder_ascending.imp fun below same => by
    rw [same] at below
    exact absurd below (lt_irrefl _)

theorem value_injective (same : EscalationLevel.value a = EscalationLevel.value b) : a = b := by
  cases a <;> cases b <;> first | rfl | cases same

theorem sortedLevels_ladder (policy : EscalationPolicy) (apart : (policy.levels.map EscalationLevelConfig.level).Nodup) :
    policy.sortedLevels.map EscalationLevelConfig.level = policy.ladder := by
  let below : EscalationLevelConfig → EscalationLevelConfig → Prop := fun a b => a.level.value ≤ b.level.value
  have total : Std.Total below := ⟨fun a b => le_total a.level.value b.level.value⟩
  have trans : IsTrans _ below := ⟨fun _ _ _ ab bc => le_trans ab bc⟩
  have sorted : policy.sortedLevels.Pairwise below := List.pairwise_insertionSort below policy.levels
  have permuted : (policy.sortedLevels.map EscalationLevelConfig.level).Perm (policy.levels.map EscalationLevelConfig.level) :=
    (List.perm_insertionSort below policy.levels).map _
  apply List.Perm.eq_of_pairwise (fun a b _ _ ab ba => value_injective (le_antisymm ab ba)) (List.pairwise_map.mpr sorted)
    (policy.ladder_ascending.imp le_of_lt)
  rw [List.perm_ext_iff_of_nodup (permuted.nodup_iff.mpr apart) policy.ladder_nodup]
  intro level
  rw [mem_ladder,permuted.mem_iff]

-- The level after the first entry with the current one.
theorem following_split (entries : List EscalationLevelConfig)
    (split : entries.map EscalationLevelConfig.level = before ++ current :: rest) (fresh : current ∉ before) :
    following current entries = rest.head? := by
  induction before generalizing entries with
  | nil =>
    match entries,split with
    | [lc],split =>
      obtain ⟨_,after⟩ := List.cons.inj split
      rw [← after]
      rfl
    | lc :: other :: _,split =>
      obtain ⟨own,after⟩ := List.cons.inj split
      rw [following,if_pos own,← after]
      rfl
  | cons head before ih =>
    match entries,split with
    | lc :: others,split =>
      obtain ⟨own,after⟩ := List.cons.inj split
      obtain ⟨different,absent⟩ := not_or.mp (mt List.mem_cons.mpr fresh)
      match others,after with
      | other :: others,after =>
        rw [following,if_neg (own ▸ Ne.symm different)]
        exact ih _ after absent
      | [],after => simp at after

-- With a level repeated, the level after it is the same level.
theorem following_repeated (entries : List EscalationLevelConfig) (sorted : entries.Pairwise fun a b => a.level.value ≤ b.level.value)
    (twice : 1 < (entries.map EscalationLevelConfig.level).count level) : following level entries = some level := by
  induction entries with
  | nil => simp at twice
  | cons lc rest ih =>
    obtain ⟨below,others⟩ := List.pairwise_cons.mp sorted
    rw [List.map_cons,List.count_cons] at twice
    cases rest with
    | nil =>
      rw [List.map_nil,List.count_nil] at twice
      split at twice <;> omega
    | cons next rest =>
      by_cases own : lc.level = level
      · have inside : level ∈ (next :: rest).map EscalationLevelConfig.level := by
          apply List.count_pos_iff.mp
          rw [own,beq_self_eq_true,if_pos rfl] at twice
          exact Nat.lt_of_succ_lt_succ twice
        rw [following,if_pos own]
        rcases List.mem_cons.mp inside with same | later
        · rw [same]
        · obtain ⟨other,member,place⟩ := List.mem_map.mp later
          have lower := below next List.mem_cons_self
          have higher := (List.pairwise_cons.mp others).1 other member
          rw [place,← own] at higher
          rw [value_injective (le_antisymm higher lower),own]
      · rw [following,if_neg own]
        apply ih others
        simpa [own] using twice

theorem getLevelConfig_found (policy : EscalationPolicy) (level : EscalationLevel) (inside : level ∈ policy.ladder) :
    ∃ config, policy.getLevelConfig level = some config := by
  obtain ⟨config,member,own⟩ := List.mem_map.mp ((policy.mem_ladder level).mp inside)
  apply Option.isSome_iff_exists.mp
  unfold getLevelConfig
  rw [List.find?_isSome]
  exact ⟨config,member,decide_eq_true own⟩

end EscalationPolicy

namespace EscalationEngine
open EscalationPolicy

-- The levels a record has had, by its history.
def visited (history : List HistoryEntry) : List Int :=
  history.filterMap fun
    | .escalationStarted _ level _ _ => some level
    | .escalated _ _ toLevel _ _ => some toLevel
    | _ => none

-- Each from_level is the level the record had before.
def FromLevels (history : List HistoryEntry) : Prop :=
  ∀ before timestamp fromLevel toLevel recipients minutes after,
    history = before ++ .escalated timestamp fromLevel toLevel recipients minutes :: after →
      (visited before).getLast? = some fromLevel

-- After so many time-outs: the record has had the lowest levels of the policy, one more
-- than there were time-outs, in order and once each; it has timed out when there have
-- been as many as there are levels, and there are never more.
structure Climbs (policy : EscalationPolicy) (timeOuts : Nat) (record : EscalationRecord) : Prop where
  visited : visited record.history = (policy.ladder.take (timeOuts + 1)).map EscalationLevel.value
  current : (policy.ladder.take (timeOuts + 1)).getLast? = some record.currentLevel
  running : live record.status = true ↔ timeOuts < policy.ladder.length
  timedOut : record.status = .timedOut ↔ timeOuts = policy.ladder.length
  bounded : timeOuts ≤ policy.ladder.length
  fromLevels : FromLevels record.history

theorem fromLevels_next (held : FromLevels history) (entry : HistoryEntry)
    (own : ∀ timestamp fromLevel toLevel recipients minutes,
      entry = .escalated timestamp fromLevel toLevel recipients minutes → (visited history).getLast? = some fromLevel) :
    FromLevels (history ++ [entry]) := by
  intro before timestamp fromLevel toLevel recipients minutes after split
  rcases List.eq_nil_or_concat after with rfl | ⟨others,last,rfl⟩
  · obtain ⟨same,equal⟩ := List.append_inj' split rfl
    cases equal
    rw [← same]
    exact own _ _ _ _ _ rfl
  · rw [List.concat_eq_append,← List.cons_append,← List.append_assoc] at split
    exact held _ _ _ _ _ _ _ (List.append_inj' split rfl).1

-- The recipients of the next level of the record are found.
def Staffed (e : EscalationEngine) (oncall : Rat) (record : EscalationRecord) : Prop :=
  ∀ policy level config, e.policies.get? record.policyId = some policy → policy.getNextLevel record.currentLevel = some level →
    policy.getLevelConfig level = some config → ∃ recipients, resolveRecipients e oncall config.recipients = .ok recipients

theorem climbs_current (climbs : Climbs policy n record) (early : n < policy.ladder.length) :
    policy.ladder = policy.ladder.take n ++ record.currentLevel :: policy.ladder.drop (n + 1) := by
  have own := climbs.current
  rw [List.getLast?_take,if_neg (Nat.succ_ne_zero n),Nat.add_sub_cancel,List.getElem?_eq_getElem early] at own
  have same : policy.ladder[n] = record.currentLevel := Option.some.inj own
  rw [← same,← List.drop_eq_getElem_cons early,List.take_append_drop]

theorem climbs_maxLevel (climbs : Climbs policy n record) (last : policy.ladder.length = n + 1) :
    Climbs policy (n + 1) (maxLevel record now) := by
  have all : policy.ladder.take (n + 1 + 1) = policy.ladder.take (n + 1) := by
    rw [List.take_of_length_le (by omega),List.take_of_length_le (by omega)]
  refine ⟨?_,?_,?_,?_,by omega,?_⟩
  · rw [all,← climbs.visited]
    simp [maxLevel,EscalationEngine.visited]
  · rw [all]
    exact climbs.current
  · simp [maxLevel,live,last]
  · simp [maxLevel,last]
  · exact fromLevels_next climbs.fromLevels _ (by simp)

theorem climbs_levelUp (shape : policy.Stepwise) (climbs : Climbs policy n record)
    (above : policy.ladder.drop (n + 1) = next :: rest) : Climbs policy (n + 1) (levelUp record next config recipients now) := by
  have sizes := congrArg List.length above
  rw [List.length_drop,List.length_cons] at sizes
  have split := climbs_current climbs (by omega)
  rw [above] at split
  have nextAt : policy.ladder[n + 1]? = some next := by
    have first := congrArg List.head? above
    rw [List.head?_drop] at first
    exact first
  have longer : policy.ladder.take (n + 1 + 1) = policy.ladder.take (n + 1) ++ [next] := by
    rw [List.take_add_one,nextAt]
    rfl
  have step : next.value = record.currentLevel.value + 1 := by
    have chain := shape.gapless
    rw [split] at chain
    exact (List.isChain_append_cons_cons.mp chain).2.1
  refine ⟨?_,?_,?_,?_,by omega,?_⟩
  · rw [longer,List.map_append,← climbs.visited]
    simp [levelUp,EscalationEngine.visited]
  · rw [longer]
    simp [levelUp]
  · simp [levelUp,live]
    omega
  · simp [levelUp]
    omega
  · apply fromLevels_next climbs.fromLevels
    intro timestamp fromLevel toLevel others minutes same
    cases same
    rw [climbs.visited,List.getLast?_map,climbs.current]
    simp [step]

theorem timeOut_climbs (shape : policy.Stepwise) (found : e.policies.get? record.policyId = some policy)
    (staffed : Staffed e oncall record) (climbs : Climbs policy n record) (early : n < policy.ladder.length)
    (ran : timeOut e oncall record = .ok out) : Climbs policy (n + 1) (TimeOut.after record now out) := by
  have split := climbs_current climbs early
  have sorted := policy.sortedLevels_ladder shape.apart
  have fresh : record.currentLevel ∉ policy.ladder.take n := by
    have unique := policy.ladder_nodup
    rw [split] at unique
    exact fun inside => (List.disjoint_of_nodup_append unique) inside List.mem_cons_self
  unfold timeOut at ran
  rw [found] at ran
  simp only at ran
  cases above : policy.ladder.drop (n + 1) with
  | nil =>
    rw [above] at split
    have next : policy.getNextLevel record.currentLevel = none := following_split _ (sorted.trans split) fresh
    rw [next] at ran
    cases ran
    have sizes := congrArg List.length above
    rw [List.length_drop,List.length_nil] at sizes
    exact climbs_maxLevel climbs (by omega)
  | cons level rest =>
    rw [above] at split
    have next : policy.getNextLevel record.currentLevel = some level := following_split _ (sorted.trans split) fresh
    have inside : level ∈ policy.ladder := by
      rw [split]
      simp
    obtain ⟨config,configured⟩ := policy.getLevelConfig_found level inside
    obtain ⟨recipients,resolves⟩ := staffed policy level config found next configured
    rw [next] at ran
    simp only [configured,resolves] at ran
    cases ran
    exact climbs_levelUp shape climbs above

-- check_timeouts comes when the deadline of the escalation is over.
def timesOut (id : String) (s : EscalationState) : EscalationStep → Bool
  | .outside (.checkTimeouts now _) => (s.activeEscalations.get? id).any (due now)
  | _ => false

-- How often it does in a run.
def timeOuts (e : EscalationEngine) (id : String) (p : Escalations) : List EscalationStep → Nat
  | [] => 0
  | action :: rest => (timesOut id p.shared action).toNat + timeOuts e id (step (system e) p action) rest

-- The condition on a step: when the deadline of the escalation is over, check_timeouts
-- finds the recipients of its next level, and those of every record it escalates before.
def Found (e : EscalationEngine) (id : String) (p : Escalations) : EscalationStep → Prop
  | .outside (.checkTimeouts now oncall) => ∀ before record later, p.shared.records = before ++ record :: later →
    record.escalationId = id → due now record = true →
      ∀ earlier ∈ before ++ [record], due now earlier = true → Staffed e oncall earlier
  | _ => True

theorem timeOuts_next (e : EscalationEngine) (id : String) (p : Escalations) (actions : List EscalationStep) (action : EscalationStep) :
    timeOuts e id p (actions ++ [action]) =
      timeOuts e id p actions + (timesOut id (run (step (system e)) p actions).shared action).toNat := by
  induction actions generalizing p with
  | nil =>
    rw [List.nil_append,timeOuts,timeOuts,timeOuts,Nat.zero_add]
    rfl
  | cons first rest ih =>
    rw [List.cons_append,timeOuts,timeOuts,ih,Nat.add_assoc]
    rfl

theorem staffed_timeOut (staffed : Staffed e oncall record) (ran : timeOut e oncall record = .error x) : False := by
  unfold timeOut at ran
  split at ran
  · cases ran
  · rename_i policy found
    split at ran
    · cases ran
    · rename_i level next
      split at ran
      · cases ran
      · rename_i config configured
        obtain ⟨recipients,resolves⟩ := staffed policy level config found next configured
        rw [resolves] at ran
        cases ran

-- The policy of a registration is the engine's, and the level its first.
def Chosen (e : EscalationEngine) : EscalationState → EscalationTask → Prop
  | _,.register _ policy firstLevel _ => e.policies.get? policy.policyId = some policy ∧ policy.levels.head? = some firstLevel
  | _,.audit _ => True

theorem choosePolicy_found {policyId : Option String} (chosen : choosePolicy e alert policyId = some policy) :
    e.policies.get? policy.policyId = some policy := by
  have listed : ∀ other, getPolicyForAlert e alert = some other → e.policies.get? other.policyId = some other := by
    intro other found
    obtain ⟨entry,member,rfl⟩ := List.mem_map.mp (List.mem_of_find?_eq_some found)
    have stored := (OrderedDict.get?_entry _ _ _).mp member
    rw [e.keyed _ _ stored]
    exact stored
  unfold choosePolicy at chosen
  split at chosen
  · split at chosen
    · exact listed policy chosen
    · rw [e.keyed _ _ chosen]
      exact chosen
  · exact listed policy chosen

theorem step_chosen (p : Escalations) (action : EscalationStep) (tasks : AllTasks (Chosen e) p) :
    AllTasks (Chosen e) (step (system e) p action) := by
  have stays : ∀ s t task, Chosen e s task → Chosen e t task := fun _ _ task held => by cases task <;> exact held
  rcases step_cases (system e) p action with ⟨event,rfl,stepped⟩ | ⟨n,o,task,rest,before,later,rfl,_,split,stepped⟩ | ⟨idle,_⟩
  · rw [stepped]
    apply allTasks_outside tasks fun task => stays _ _ task
    intro task member
    rcases begin_leaves e event p.shared member with ⟨entry,rfl⟩ | ⟨alert,policyId,policy,firstLevel,rfl,found,rfl⟩
    · trivial
    · unfold checkStart at found
      split at found
      · cases found
      · rename_i chosen
        split at found
        · cases found
        · rename_i levels
          split at found
          · cases found
          · cases found
            exact ⟨choosePolicy_found chosen,by rw [levels]; rfl⟩
  · rw [stepped]
    apply allTasks_run tasks split fun task => stays _ _ task
    intro next ran task member
    obtain ⟨entry,rfl⟩ := exec_audits o p.shared ran member
    trivial
  · rw [idle]
    exact tasks

theorem reached_chosen (e : EscalationEngine) (actions : List EscalationStep) : AllTasks (Chosen e) (reached e actions) := by
  apply run_keeps (step (system e)) step_chosen
  intro call member
  cases member

theorem Became.unanswered (became : Became e s record action after)
    (unanswered : after.status ≠ .acknowledged ∧ after.status ≠ .resolved) :
    record.status ≠ .acknowledged ∧ record.status ≠ .resolved := by
  cases became with
  | same => exact unanswered
  | acknowledged => exact absurd rfl unanswered.1
  | resolved => exact absurd rfl unanswered.2
  | timedOut reached =>
    have alive : live record.status = true := (Bool.and_eq_true_iff.mp reached).1
    constructor
    · intro done
      simp [live,done] at alive
    · intro done
      simp [live,done] at alive

theorem absent_timeOuts (e : EscalationEngine) (id : String) (actions : List EscalationStep)
    (absent : (reached e actions).shared.activeEscalations.get? id = none) : timeOuts e id Escalations.start actions = 0 := by
  induction actions using List.reverseRecOn with
  | nil => rfl
  | append_singleton earlier action ih =>
    have before : (reached e earlier).shared.activeEscalations.get? id = none := by
      cases found : (reached e earlier).shared.activeEscalations.get? id with
      | none => rfl
      | some record =>
        obtain ⟨after,stored,_⟩ := reached_later e earlier [action] found
        rw [stored] at absent
        cases absent
    have none : timesOut id (reached e earlier).shared action = false := by
      unfold timesOut
      split
      · rw [before]
        rfl
      · rfl
    rw [timeOuts_next,ih before]
    unfold reached at none
    rw [none]
    rfl

theorem newRecord_climbs (shape : policy.Stepwise) (first : policy.levels.head? = some firstLevel) :
    Climbs policy 0 (newRecord e alert policy firstLevel recipients now issued) := by
  have lowest := shape.lowest
  rw [first] at lowest
  obtain ⟨rest,split⟩ := List.head?_eq_some_iff.mp lowest.symm
  refine ⟨?_,?_,?_,?_,Nat.zero_le _,?_⟩
  · rw [split]
    rfl
  · rw [split]
    rfl
  · rw [split]
    simp [newRecord,live]
  · rw [split]
    simp [newRecord]
  · intro before timestamp fromLevel toLevel others minutes after cut
    rcases List.append_eq_cons_iff.mp cut.symm with ⟨_,absurdity⟩ | ⟨_,_,absurdity⟩
    · cases absurdity
    · simp at absurdity

theorem finds_staffed {id : String} (named : Named e p.shared) (found : p.shared.activeEscalations.get? id = some record)
    (reached : due now record = true) (finds : Found e id p (.outside (.checkTimeouts now oncall))) : Staffed e oncall record := by
  obtain ⟨member,own⟩ := mem_records named.keyed found
  obtain ⟨before,later,split⟩ := List.append_of_mem member
  exact finds before record later split own reached record (by simp) reached

-- A due record whose recipients are found, with those before it, is escalated.
theorem sweep_timesOut {id : String} (now oncall : Rat) (named : Named e p.shared) (found : p.shared.activeEscalations.get? id = some record)
    (reached : due now record = true) (finds : Found e id p (.outside (.checkTimeouts now oncall))) :
    ∃ out, timeOut e oncall record = .ok out ∧
      (checkTimeouts e now oncall p.shared).2.activeEscalations.get? id = some (TimeOut.after record now out) := by
  obtain ⟨member,own⟩ := mem_records named.keyed found
  obtain ⟨before,later,split⟩ := List.append_of_mem member
  obtain ⟨after,stored,outcome⟩ := (checkTimeouts_swept e now oncall named.keyed).each before record later split
  rw [own] at stored
  have staffed := finds before record later split own reached
  rcases outcome with ran | ⟨_,earlier,among,x,stopped⟩
  · unfold checked at ran
    rw [if_pos reached] at ran
    cases timed : timeOut e oncall record with
    | error x => exact (staffed_timeOut (staffed record (by simp) reached) timed).elim
    | ok out =>
      rw [timed] at ran
      cases ran
      exact ⟨out,rfl,stored⟩
  · unfold checked at stopped
    split at stopped
    · rename_i overdue
      cases timed : timeOut e oncall earlier with
      | error x => exact (staffed_timeOut (staffed earlier among overdue) timed).elim
      | ok out =>
        rw [timed] at stopped
        cases stopped
    · cases stopped

theorem step_climbs {id : String} (shape : policy.Stepwise) (named : Named e p.shared)
    (found : p.shared.activeEscalations.get? id = some record) (listed : e.policies.get? record.policyId = some policy)
    (finds : Found e id p action) (climbs : Climbs policy n record)
    (stored : (step (system e) p action).shared.activeEscalations.get? id = some after)
    (unanswered : after.status ≠ .acknowledged ∧ after.status ≠ .resolved) :
    Climbs policy (n + (timesOut id p.shared action).toNat) after := by
  obtain ⟨other,held,became⟩ := step_became p action named found
  cases Option.some.inj (held.symm.trans stored)
  cases timedOut : timesOut id p.shared action with
  | true =>
    unfold timesOut at timedOut
    split at timedOut
    · rename_i now oncall
      rw [found] at timedOut
      have reached : due now record = true := timedOut
      obtain ⟨out,timed,escalated⟩ := sweep_timesOut now oncall named found reached finds
      cases Option.some.inj (escalated.symm.trans stored)
      have alive : live record.status = true := (Bool.and_eq_true_iff.mp reached).1
      exact timeOut_climbs shape listed (finds_staffed named found reached finds) climbs (climbs.running.mp alive) timed
    · cases timedOut
  | false =>
    cases became with
    | same => exact climbs
    | acknowledged => exact absurd rfl unanswered.1
    | resolved => exact absurd rfl unanswered.2
    | timedOut reached =>
      simp [timesOut,found,reached] at timedOut

-- In every run: an escalation whose policy's list is stepwise, that is never acknowledged
-- or resolved, and whose recipients are found at its time-outs, climbs the policy.
theorem escalation_progress (e : EscalationEngine) (actions : List EscalationStep) (id : String) (record : EscalationRecord)
    (policy : EscalationPolicy) (found : (reached e actions).shared.activeEscalations.get? id = some record)
    (listed : e.policies.get? record.policyId = some policy)
    (unanswered : record.status ≠ .acknowledged ∧ record.status ≠ .resolved) (shape : policy.Stepwise)
    (finds : Along (step (system e)) (Found e id) Escalations.start actions) :
    Climbs policy (timeOuts e id Escalations.start actions) record := by
  induction actions using List.reverseRecOn generalizing record with
  | nil => cases found
  | append_singleton earlier action ih =>
    have named := reached_named e earlier
    have last : Found e id (reached e earlier) action := along_at finds
    rw [reached_next] at found
    rw [timeOuts_next]
    rcases did_entries named (step_did e _ action named.keyed) found with
      ⟨before,held⟩ | ⟨n,o,alert,chosen,firstLevel,known,rest,recipients,rfl,task,new,made,_⟩
    · obtain ⟨after,stored,became⟩ := step_became _ action named held
      cases Option.some.inj (stored.symm.trans found)
      have still := became.unanswered unanswered
      rw [became.later.policy] at listed
      have climbs := ih before held listed still (along_earlier finds)
      exact step_climbs shape named held listed last climbs found unanswered
    · have fresh : (reached e earlier).shared.activeEscalations.get? id = none := by
        rw [new]
        exact named.fresh
      rw [absent_timeOuts e id earlier fresh,made]
      have task := (reached_chosen e earlier) _ (List.mem_of_getElem? task) _ List.mem_cons_self
      have own : policy = chosen := by
        rw [made] at listed
        exact Option.some.inj (listed.symm.trans task.1)
      rw [own] at shape ⊢
      exact newRecord_climbs shape task.2

-- Where no schedule is looked up, the recipients are found.
theorem unscheduled_recipients (policy : EscalationPolicy) (oncall : Rat) (recipients : List String) :
    resolveRecipients (onePolicy policy) oncall recipients = .ok recipients := by
  have each : ∀ refs : List String, refs.mapM (resolveRecipient (onePolicy policy) oncall) = Except.ok (refs.map fun ref => [ref]) := by
    intro refs
    induction refs with
    | nil => rfl
    | cons ref rest ih =>
      rw [List.mapM_cons,ih]
      rfl
  unfold resolveRecipients
  rw [each]
  exact congrArg Except.ok (List.flatMap_singleton' _)

theorem unscheduled_staffed (policy : EscalationPolicy) : Staffed (onePolicy policy) oncall record :=
  fun _ _ config _ _ _ => ⟨config.recipients,unscheduled_recipients policy oncall config.recipients⟩

theorem start_unscheduled (policy : EscalationPolicy) (named : policy.policyId ≠ "") (first : policy.levels.head? = some firstLevel) :
    ∃ actions record, (reached (onePolicy policy) actions).shared.activeEscalations.get? "e" = some record ∧
      record.policyId = policy.policyId ∧ record.status = .pending ∧ record.currentLevel = firstLevel.level ∧
      timeOuts (onePolicy policy) "e" Escalations.start actions = 0 := by
  obtain ⟨rest,levels⟩ := List.head?_eq_some_iff.mp first
  have own : (onePolicy policy).policies.get? policy.policyId = some policy := if_pos rfl
  have chosen : choosePolicy (onePolicy policy) (highAlert "a-1") (some policy.policyId) = some policy := by
    rw [choosePolicy,if_neg named,own]
  have looked : checkStart (onePolicy policy) (highAlert "a-1") (some policy.policyId) .start = .starts policy firstLevel := by
    simp only [checkStart,chosen,levels]
    rfl
  have begun : begin (onePolicy policy) (.startEscalation (highAlert "a-1") (some policy.policyId)) Escalations.start.shared =
      (.start,[.register (highAlert "a-1") policy firstLevel 0]) := by
    have same : Escalations.start.shared = .start := rfl
    simp only [begin,same,looked]
    rfl
  have resolves := unscheduled_recipients policy 0 firstLevel.recipients
  let starts : List EscalationStep := [.outside (.startEscalation (highAlert "a-1") (some policy.policyId)),.run 0 ⟨0,0⟩]
  have ran : (reached (onePolicy policy) starts).shared =
      registered (onePolicy policy) (highAlert "a-1") policy firstLevel firstLevel.recipients 0 .start := by
    have one : step (system (onePolicy policy)) Escalations.start
        (.outside (.startEscalation (highAlert "a-1") (some policy.policyId))) =
        ⟨.start,[[.register (highAlert "a-1") policy firstLevel 0]]⟩ := by
      show Pool.mk (begin _ _ _).1 ([] ++ [(begin _ _ _).2]) = _
      rw [begun]
      rfl
    show (step (system (onePolicy policy)) (step (system (onePolicy policy)) Escalations.start _) (.run 0 ⟨0,0⟩)).shared = _
    rw [one]
    show (exec (onePolicy policy) _ _ _).1 = _
    simp only [exec,register,resolves]
  refine ⟨starts,newRecord (onePolicy policy) (highAlert "a-1") policy firstLevel firstLevel.recipients 0 0,?_,rfl,rfl,rfl,rfl⟩
  rw [ran]
  rfl

-- One more time-out of an escalation that is still running.
theorem one_more_timeOut (policy : EscalationPolicy)
    (found : (reached (onePolicy policy) actions).shared.activeEscalations.get? "e" = some record)
    (alive : live record.status = true) :
    ∃ action now out, timeOut (onePolicy policy) now record = .ok out ∧
      (reached (onePolicy policy) (actions ++ [action])).shared.activeEscalations.get? "e" = some (TimeOut.after record now out) ∧
      timeOuts (onePolicy policy) "e" Escalations.start (actions ++ [action]) =
        timeOuts (onePolicy policy) "e" Escalations.start actions + 1 := by
  have pending : record.status = .pending ∨ record.status = .escalated := of_decide_eq_true alive
  obtain ⟨time,deadline⟩ := Option.isSome_iff_exists.mp ((reached_deadline _ actions found).mpr pending)
  have timedOut : due time record = true := by simp [due,alive,deadline]
  obtain ⟨out,timed,stored⟩ := sweep_timesOut time time (reached_named _ actions) found timedOut
    fun _ _ _ _ _ _ _ _ _ => unscheduled_staffed policy
  refine ⟨.outside (.checkTimeouts time time),time,out,timed,by rw [reached_next]; exact stored,?_⟩
  rw [timeOuts_next]
  unfold reached at found
  simp [timesOut,found,timedOut]

section Needed
variable {policy : EscalationPolicy} (named : policy.policyId ≠ "") (first : policy.levels.head? = some firstLevel)
  (climb : ∀ actions record, (reached (onePolicy policy) actions).shared.activeEscalations.get? "e" = some record →
    record.status ≠ .acknowledged ∧ record.status ≠ .resolved →
      Climbs policy (timeOuts (onePolicy policy) "e" Escalations.start actions) record)
include named first climb

-- Every number of time-outs before the last comes in some run.
theorem each_run (n : Nat) (within : n < policy.ladder.length) : ∃ actions record,
    (reached (onePolicy policy) actions).shared.activeEscalations.get? "e" = some record ∧ record.policyId = policy.policyId ∧
      (record.status ≠ .acknowledged ∧ record.status ≠ .resolved) ∧
        timeOuts (onePolicy policy) "e" Escalations.start actions = n := by
  induction n with
  | zero =>
    obtain ⟨actions,record,found,own,status,_,none⟩ := start_unscheduled policy named first
    exact ⟨actions,record,found,own,by simp [status],none⟩
  | succ n ih =>
    obtain ⟨actions,record,found,own,unanswered,count⟩ := ih (by omega)
    have climbs := climb actions record found unanswered
    rw [count] at climbs
    have alive := climbs.running.mpr (by omega)
    obtain ⟨action,now,out,_,stored,counted⟩ := one_more_timeOut policy found alive
    refine ⟨actions ++ [action],_,stored,?_,?_,by rw [counted,count]⟩
    · rw [(after_later record now out).policy]
      exact own
    · cases out with
      | nothing => exact unanswered
      | maxLevel => simp [TimeOut.after,maxLevel]
      | levelUp => simp [TimeOut.after,levelUp]

theorem each_timeOut (n : Nat) (within : n < policy.ladder.length) :
    ∃ record now out, record.policyId = policy.policyId ∧ Climbs policy n record ∧
      timeOut (onePolicy policy) now record = .ok out ∧ Climbs policy (n + 1) (TimeOut.after record now out) := by
  obtain ⟨actions,record,found,own,unanswered,count⟩ := each_run named first climb n within
  have climbs := climb actions record found unanswered
  rw [count] at climbs
  obtain ⟨action,now,out,timed,stored,counted⟩ := one_more_timeOut policy found (climbs.running.mpr within)
  have answered : (TimeOut.after record now out).status ≠ .acknowledged ∧ (TimeOut.after record now out).status ≠ .resolved := by
    cases out with
    | nothing => exact unanswered
    | maxLevel => simp [TimeOut.after,maxLevel]
    | levelUp => simp [TimeOut.after,levelUp]
  have next := climb (actions ++ [action]) _ stored answered
  rw [counted,count] at next
  exact ⟨record,now,out,own,climbs,timed,next⟩

-- Two levels one after the other are apart by one, by the from_level of the time-out.
theorem needs_gapless (n : Nat) (within : n + 1 < policy.ladder.length) :
    policy.ladder[n + 1].value = policy.ladder[n].value + 1 := by
  obtain ⟨record,now,out,_,climbs,_,next⟩ := each_timeOut named first climb n (by omega)
  have before := climbs.current
  have after := next.current
  rw [List.getLast?_take,if_neg (Nat.succ_ne_zero _),Nat.add_sub_cancel,List.getElem?_eq_getElem (by omega)] at before
  rw [List.getLast?_take,if_neg (Nat.succ_ne_zero _),Nat.add_sub_cancel,List.getElem?_eq_getElem within] at after
  have was : policy.ladder[n] = record.currentLevel := Option.some.inj before
  have becomes : policy.ladder[n + 1] = (TimeOut.after record now out).currentLevel := Option.some.inj after
  have different : policy.ladder[n + 1] ≠ policy.ladder[n] := by
    intro same
    exact absurd (policy.ladder_nodup.getElem_inj_iff.mp same) (Nat.succ_ne_self n)
  cases out with
  | nothing => exact absurd (becomes.trans was.symm) different
  | maxLevel => exact absurd (becomes.trans was.symm) different
  | levelUp level config recipients =>
    have started := next.fromLevels record.history now (level.value - 1) level.value recipients config.timeoutMinutes [] rfl
    rw [climbs.visited,List.getLast?_map,climbs.current] at started
    have values : record.currentLevel.value = level.value - 1 := Option.some.inj started
    have raised : policy.ladder[n + 1] = level := becomes
    rw [was,raised]
    omega

theorem needs_apart : (policy.levels.map EscalationLevelConfig.level).Nodup := by
  by_contra repeated
  rw [List.nodup_iff_count_le_one] at repeated
  obtain ⟨level,twice⟩ := not_forall.mp repeated
  have inside : level ∈ policy.ladder := (policy.mem_ladder level).mpr (List.count_pos_iff.mp (by omega))
  obtain ⟨n,within,place⟩ := List.getElem_of_mem inside
  obtain ⟨record,now,out,own,climbs,timed,next⟩ := each_timeOut named first climb n within
  have before := climbs.current
  rw [List.getLast?_take,if_neg (Nat.succ_ne_zero _),Nat.add_sub_cancel,List.getElem?_eq_getElem within] at before
  have was : record.currentLevel = level := (Option.some.inj before).symm.trans place
  let below : EscalationLevelConfig → EscalationLevelConfig → Prop := fun a b => a.level.value ≤ b.level.value
  have total : Std.Total below := ⟨fun a b => le_total a.level.value b.level.value⟩
  have trans : IsTrans _ below := ⟨fun _ _ _ ab bc => le_trans ab bc⟩
  have sorted : policy.sortedLevels.Pairwise below := List.pairwise_insertionSort below policy.levels
  have permuted := (List.perm_insertionSort below policy.levels).map EscalationLevelConfig.level
  have same : policy.getNextLevel level = some level := by
    apply following_repeated _ sorted
    show 1 < ((policy.levels.insertionSort below).map EscalationLevelConfig.level).count level
    rw [permuted.count_eq level]
    omega
  obtain ⟨config,configured⟩ := policy.getLevelConfig_found level inside
  have listed : (onePolicy policy).policies.get? policy.policyId = some policy := if_pos rfl
  simp only [timeOut,own,listed,was,same,configured,unscheduled_recipients] at timed
  cases timed
  have status : (levelUp record level config config.recipients now).status = .escalated := rfl
  have after := next.current
  by_cases last : n + 1 = policy.ladder.length
  · have ended := next.timedOut.mpr last
    cases ended
  · rw [List.getLast?_take,if_neg (Nat.succ_ne_zero _),Nat.add_sub_cancel,List.getElem?_eq_getElem (by omega)] at after
    have again : policy.ladder[n + 1] = level := Option.some.inj after
    exact absurd (policy.ladder_nodup.getElem_inj_iff.mp (again.trans place.symm)) (Nat.succ_ne_self n)

end Needed

-- Where no schedule is looked up, every escalation of every run climbs the policy only
-- if the policy's list is stepwise.
theorem stepwise_needed (policy : EscalationPolicy) (named : policy.policyId ≠ "") (filled : policy.levels ≠ [])
    (climb : ∀ actions record, (reached (onePolicy policy) actions).shared.activeEscalations.get? "e" = some record →
      record.status ≠ .acknowledged ∧ record.status ≠ .resolved →
        Climbs policy (timeOuts (onePolicy policy) "e" Escalations.start actions) record) : policy.Stepwise := by
  obtain ⟨firstLevel,rest,levels⟩ := List.exists_cons_of_ne_nil filled
  have first : policy.levels.head? = some firstLevel := by rw [levels]; rfl
  refine ⟨?_,needs_apart named first climb,List.isChain_iff_getElem.mpr fun n within => needs_gapless named first climb n within⟩
  obtain ⟨actions,record,found,_,status,level,none⟩ := start_unscheduled policy named first
  have climbs := climb actions record found (by simp [status])
  rw [none] at climbs
  have current := climbs.current
  rw [level] at current
  rw [first]
  cases split : policy.ladder with
  | nil =>
    rw [split] at current
    cases current
  | cons lowest others =>
    rw [split] at current
    exact current.symm

-- A policy with these levels in this order, and the run of an escalation under it with
-- so many time-outs.
def withLevels (levels : List EscalationLevel) : EscalationPolicy where
  policyId := "p"
  levels := levels.map fun level => ⟨level,15,["lead"]⟩
  appliesToSeverities := [.high]
  enabled := true

def climbing (count : Nat) : List EscalationStep :=
  startedOnce "a-1" ++ (List.range count).map fun n => .outside (.checkTimeouts (100000 * (n + 1)) 0)

def climbed (levels : List EscalationLevel) (count : Nat) : Option EscalationRecord :=
  (reached (onePolicy (withLevels levels)) (climbing count)).shared.activeEscalations.get? "e"

theorem three_levels_climbed : ∃ record, climbed [.l2,.l4,.l3] 3 = some record ∧ Climbs (withLevels [.l2,.l4,.l3]) 3 record := by
  have found : (climbed [.l2,.l4,.l3] 3).map EscalationRecord.policyId = some "p" ∧
      (climbed [.l2,.l4,.l3] 3).map EscalationRecord.status = some .timedOut := by decide +kernel
  obtain ⟨record,stored,own⟩ := Option.map_eq_some_iff.mp found.1
  have status : record.status = .timedOut := by
    have second := found.2
    rw [stored] at second
    exact Option.some.inj second
  have counted : timeOuts (onePolicy (withLevels [.l2,.l4,.l3])) "e" Escalations.start (climbing 3) = 3 := by decide +kernel
  refine ⟨record,stored,?_⟩
  rw [← counted]
  apply escalation_progress (onePolicy (withLevels [.l2,.l4,.l3])) (climbing 3) "e" record (withLevels [.l2,.l4,.l3]) stored
    (by rw [own]; rfl) (by simp [status]) (by decide)
  exact ⟨trivial,trivial,fun _ _ _ _ _ _ _ _ _ => unscheduled_staffed _,fun _ _ _ _ _ _ _ _ _ => unscheduled_staffed _,
    fun _ _ _ _ _ _ _ _ _ => unscheduled_staffed _,trivial⟩

-- A list out of order starts at its first level, a repeated level is never left, and
-- over a gap the from_level is not the level before.
theorem chains_not_climbed :
    (∃ record, climbed [.l2,.l1] 0 = some record ∧ ¬Climbs (withLevels [.l2,.l1]) 0 record) ∧
      (∃ record, climbed [.l1,.l1,.l2] 4 = some record ∧ record.status = .escalated ∧ record.currentLevel = .l1 ∧
        ¬Climbs (withLevels [.l1,.l1,.l2]) 4 record) ∧
      ∃ record, climbed [.l1,.l3] 1 = some record ∧ ¬Climbs (withLevels [.l1,.l3]) 1 record := by
  refine ⟨?_,?_,?_⟩
  · exact ⟨_,rfl,fun climbs => absurd climbs.visited (by decide)⟩
  · have found : (climbed [.l1,.l1,.l2] 4).map (fun record => (record.status,record.currentLevel)) = some (.escalated,.l1) := by
      decide +kernel
    obtain ⟨record,stored,same⟩ := Option.map_eq_some_iff.mp found
    obtain ⟨status,level⟩ := Prod.mk.inj same
    exact ⟨record,stored,status,level,fun climbs => absurd climbs.bounded (by decide)⟩
  · have found : (climbed [.l1,.l3] 1).map EscalationRecord.history =
        some [.escalationStarted 0 1 ["lead"] "p",.escalated 100000 2 3 ["lead"] 15] := by decide +kernel
    obtain ⟨record,stored,history⟩ := Option.map_eq_some_iff.mp found
    refine ⟨record,stored,fun climbs => ?_⟩
    have wrong := climbs.fromLevels [.escalationStarted 0 1 ["lead"] "p"] 100000 2 3 ["lead"] 15 [] history
    exact absurd wrong (by decide)

end EscalationEngine
end RiskPulse
