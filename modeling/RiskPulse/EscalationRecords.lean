import Mathlib.Data.List.Induction
import RiskPulse.EscalationEngine

namespace RiskPulse

-- What a call still has to do after its first locked section. For the proofs only, a
-- registration carries how many escalations there were when the call looked.
inductive EscalationTask where
  | register (alert : Alert) (policy : EscalationPolicy) (firstLevel : EscalationLevelConfig) (known : Nat)
  | audit (entry : EscalationAudit)

-- A call begins with its first locked section; of check_timeouts that is all of it.
inductive EscalationEvent where
  | startEscalation (alert : Alert) (policyId : Option String)
  | acknowledge (alertId acknowledgedBy : String) (now : Rat)
  | resolve (alertId : String) (now : Rat)
  | checkTimeouts (now oncall : Rat)

-- What a later section reads of the clock.
structure Readings where
  now : Rat
  oncall : Rat

namespace EscalationEngine
open Interleaved Runs

def exec (e : EscalationEngine) (task : EscalationTask) (o : Readings) (s : EscalationState) :
    EscalationState × Option (List EscalationTask) :=
  match task with
  | .register alert policy firstLevel _ =>
    match register e alert policy firstLevel o.now o.oncall s with
    | (.ok record,t) =>
      (t,some [.audit (.escalationStarted alert.alertId record.escalationId firstLevel.level.value record.escalatedTo)])
    | (.error _,t) => (t,none)
  | .audit entry => (s.recordAudit o.now entry,some [])

def begin (e : EscalationEngine) (event : EscalationEvent) (s : EscalationState) :
    EscalationState × List EscalationTask :=
  match event with
  | .startEscalation alert policyId =>
    match checkStart e alert policyId s with
    | .starts policy firstLevel => (s,[.register alert policy firstLevel s.issued])
    | _ => (s,[])
  | .acknowledge alertId acknowledgedBy now =>
    match acknowledge alertId acknowledgedBy now s with
    | (some record,t) => (t,[.audit (.escalationAcknowledged alertId record.escalationId acknowledgedBy)])
    | (none,t) => (t,[])
  | .resolve alertId now =>
    match resolve alertId now s with
    | (some record,t) => (t,[.audit (.escalationResolved alertId record.escalationId)])
    | (none,t) => (t,[])
  | .checkTimeouts now oncall => ((checkTimeouts e now oncall s).2,[])

def system (e : EscalationEngine) : Interleaved EscalationState EscalationTask Readings EscalationEvent := ⟨exec e,begin e⟩

abbrev Escalations := Pool EscalationState EscalationTask

abbrev EscalationStep := Interleaved.Action Readings EscalationEvent

def Escalations.start : Escalations := ⟨.start,[]⟩

-- The record after a time-out, and after check_timeouts has come to it.
def TimeOut.after (record : EscalationRecord) (now : Rat) : TimeOut → EscalationRecord
  | .nothing => record
  | .maxLevel => EscalationEngine.maxLevel record now
  | .levelUp nextLevel nextConfig recipients => EscalationEngine.levelUp record nextLevel nextConfig recipients now

def checked (e : EscalationEngine) (now oncall : Rat) (record : EscalationRecord) : Except String EscalationRecord :=
  if due now record then (timeOut e oncall record).map (TimeOut.after record now) else .ok record

theorem checked_cases (ran : checked e now oncall record = .ok after) :
    after = record ∨ due now record = true ∧ ∃ out, timeOut e oncall record = .ok out ∧ after = TimeOut.after record now out := by
  unfold checked at ran
  split at ran
  · rename_i reached
    cases found : timeOut e oncall record with
    | error x =>
      rw [found] at ran
      cases ran
    | ok out =>
      rw [found] at ran
      cases ran
      exact .inr ⟨reached,out,rfl,rfl⟩
  · cases ran
    exact .inl rfl

-- One record has been written, and the index, the alerts and the ids are as they were.
structure Wrote (s t : EscalationState) (record after : EscalationRecord) : Prop where
  entries : ∀ id, t.activeEscalations.get? id =
    if id = record.escalationId then some after else s.activeEscalations.get? id
  index : t.escalationByAlert = s.escalationByAlert
  alerts : t.activeAlerts = s.activeAlerts
  issued : t.issued = s.issued

theorem wrote_nothing (held : s.activeEscalations.get? record.escalationId = some record) : Wrote s s record record := by
  refine ⟨?_,rfl,rfl,rfl⟩
  intro id
  split
  · rename_i same
    rw [same,held]
  · rfl

theorem callOnEscalate_leaves (e : EscalationEngine) (record : EscalationRecord) (s : EscalationState) :
    ∃ calls, callOnEscalate e record s = {s with notified := calls} := by
  unfold callOnEscalate
  split
  · split
    · exact ⟨_,rfl⟩
    · exact ⟨s.notified,rfl⟩
  · exact ⟨s.notified,rfl⟩

theorem escalateToNextLevel_writes (now : Rat) (held : s.activeEscalations.get? record.escalationId = some record)
    (found : timeOut e oncall record = .ok out) :
    ∃ upgraded t, escalateToNextLevel e record now oncall s = (.ok upgraded,t) ∧ Wrote s t record (TimeOut.after record now out) := by
  unfold escalateToNextLevel
  rw [found]
  cases out with
  | nothing => exact ⟨_,_,rfl,wrote_nothing held⟩
  | maxLevel => exact ⟨_,_,rfl,⟨OrderedDict.get?_set _ _ _,rfl,rfl,rfl⟩⟩
  | levelUp nextLevel nextConfig recipients =>
    simp only
    obtain ⟨calls,called⟩ := callOnEscalate_leaves e (levelUp record nextLevel nextConfig recipients now)
      ((s.put (levelUp record nextLevel nextConfig recipients now)).recordAudit oncall
        (.escalationLevelUp record.alertId record.escalationId (nextLevel.value - 1) nextLevel.value recipients))
    rw [called]
    exact ⟨_,_,rfl,⟨OrderedDict.get?_set _ _ _,rfl,rfl,rfl⟩⟩

theorem checkRecord_writes (e : EscalationEngine) (now oncall : Rat) (escalated : List String)
    (held : s.activeEscalations.get? record.escalationId = some record) (ran : checked e now oncall record = .ok after) :
    ∃ ids t, checkRecord e now oncall escalated record s = (.ok ids,t) ∧ Wrote s t record after := by
  unfold checkRecord checked at *
  split at ran
  · rename_i reached
    cases found : timeOut e oncall record with
    | error x =>
      rw [found] at ran
      cases ran
    | ok out =>
      rw [found] at ran
      cases ran
      obtain ⟨upgraded,t,stepped,wrote⟩ := escalateToNextLevel_writes now held found
      simp only [reached,if_true]
      exact ⟨_,t,Effect.bind_ok _ stepped,wrote⟩
  · cases ran
    rename_i early
    simp only [early]
    exact ⟨_,_,rfl,wrote_nothing held⟩

theorem checkRecord_stops (e : EscalationEngine) (now oncall : Rat) (escalated : List String)
    (ran : checked e now oncall record = .error x) : checkRecord e now oncall escalated record s = (.error x,s) := by
  unfold checkRecord checked at *
  split at ran
  · cases found : timeOut e oncall record with
    | error y =>
      rw [found] at ran
      cases ran
      rename_i reached
      simp only [reached,if_true]
      apply Effect.bind_error
      simp only [escalateToNextLevel,found]
    | ok out =>
      rw [found] at ran
      cases ran
  · cases ran

-- What check_timeouts leaves of the records it goes over: each one before the first that
-- raises is checked, and the others are as they were.
structure Swept (e : EscalationEngine) (now oncall : Rat) (pending : List EscalationRecord) (s t : EscalationState) :
    Prop where
  others : ∀ id, id ∉ pending.map EscalationRecord.escalationId →
    t.activeEscalations.get? id = s.activeEscalations.get? id
  each : ∀ before record later, pending = before ++ record :: later →
    ∃ after, t.activeEscalations.get? record.escalationId = some after ∧
      (checked e now oncall record = .ok after ∨
        after = record ∧ ∃ earlier ∈ before ++ [record], ∃ x, checked e now oncall earlier = .error x)
  index : t.escalationByAlert = s.escalationByAlert
  alerts : t.activeAlerts = s.activeAlerts
  issued : t.issued = s.issued

theorem foldlM_swept (e : EscalationEngine) (now oncall : Rat) (pending : List EscalationRecord) (escalated : List String)
    (s : EscalationState) (apart : (pending.map EscalationRecord.escalationId).Nodup)
    (held : ∀ record ∈ pending, s.activeEscalations.get? record.escalationId = some record) :
    Swept e now oncall pending s (pending.foldlM (checkRecord e now oncall) escalated s).2 := by
  induction pending generalizing s escalated with
  | nil =>
    refine ⟨fun _ _ => rfl,?_,rfl,rfl,rfl⟩
    intro before record later split
    cases before <;> cases split
  | cons first rest ih =>
    obtain ⟨fresh,others⟩ := List.nodup_cons.mp apart
    cases ran : checked e now oncall first with
    | error x =>
      have stopped := Effect.bind_error (fun ids => rest.foldlM (checkRecord e now oncall) ids)
        (checkRecord_stops e now oncall escalated (s := s) ran)
      rw [List.foldlM_cons,stopped]
      refine ⟨fun _ _ => rfl,?_,rfl,rfl,rfl⟩
      intro before record later split
      have inside : record ∈ first :: rest := by rw [split]; simp
      refine ⟨record,held record inside,.inr ⟨rfl,first,?_,x,ran⟩⟩
      cases before with
      | nil =>
        cases split
        exact List.mem_singleton.mpr rfl
      | cons head _ =>
        cases split
        exact List.mem_cons_self
    | ok after =>
      obtain ⟨ids,t,stepped,wrote⟩ := checkRecord_writes e now oncall escalated (held first List.mem_cons_self) ran
      have apartFirst : ∀ record ∈ rest, record.escalationId ≠ first.escalationId := by
        intro record member same
        exact fresh (same ▸ List.mem_map_of_mem member)
      have later := ih ids t others fun record member => by
        rw [wrote.entries,if_neg (apartFirst record member)]
        exact held record (List.mem_cons_of_mem _ member)
      rw [List.foldlM_cons,Effect.bind_ok _ stepped]
      refine ⟨?_,?_,later.index.trans wrote.index,later.alerts.trans wrote.alerts,later.issued.trans wrote.issued⟩
      · intro id absent
        obtain ⟨notFirst,notRest⟩ := not_or.mp (mt List.mem_cons.mpr absent)
        rw [later.others id notRest,wrote.entries,if_neg notFirst]
      · intro before record further split
        cases before with
        | nil =>
          cases split
          refine ⟨after,?_,.inl ran⟩
          rw [later.others _ fresh,wrote.entries,if_pos rfl]
        | cons head before =>
          cases split
          obtain ⟨final,found,outcome⟩ := later.each before record further rfl
          refine ⟨final,found,?_⟩
          rcases outcome with done | ⟨same,earlier,member,stopped⟩
          · exact .inl done
          · exact .inr ⟨same,earlier,List.mem_cons_of_mem _ member,stopped⟩

-- A record stands under its own id.
def Keyed (s : EscalationState) : Prop :=
  ∀ id record, s.activeEscalations.get? id = some record → record.escalationId = id

theorem checkTimeouts_swept (e : EscalationEngine) (now oncall : Rat) (keyed : Keyed s) :
    Swept e now oncall s.records s (checkTimeouts e now oncall s).2 := by
  have ids : s.records.map EscalationRecord.escalationId = s.activeEscalations.keys := by
    unfold EscalationState.records OrderedDict.keys
    rw [List.map_map]
    apply List.map_congr_left
    intro entry member
    exact keyed entry.1 entry.2 ((OrderedDict.get?_entry _ _ _).mp member)
  apply foldlM_swept
  · rw [ids]
    exact s.activeEscalations.unique
  · intro record member
    obtain ⟨entry,inside,rfl⟩ := List.mem_map.mp member
    have found := (OrderedDict.get?_entry _ _ _).mp inside
    rw [keyed entry.1 entry.2 found]
    exact found

theorem mem_records {id : String} (keyed : Keyed s) (found : s.activeEscalations.get? id = some record) :
    record ∈ s.records ∧ record.escalationId = id :=
  ⟨List.mem_map_of_mem (f := Prod.snd) ((OrderedDict.get?_entry _ _ _).mpr found),keyed id record found⟩

-- Nothing but the audit log has changed.
structure Logged (s t : EscalationState) : Prop where
  entries : t.activeEscalations = s.activeEscalations
  index : t.escalationByAlert = s.escalationByAlert
  issued : t.issued = s.issued

-- Everything a step can do to the records and the index.
inductive Did (e : EscalationEngine) (p : Escalations) : EscalationStep → EscalationState → Prop where
  | logs (logged : Logged p.shared t) (still : ∀ now oncall, action ≠ .outside (.checkTimeouts now oncall)) : Did e p action t
  | registers (n : Nat) (o : Readings) (alert : Alert) (policy : EscalationPolicy) (firstLevel : EscalationLevelConfig)
      (known : Nat) (rest : List EscalationTask) (recipients : List String)
      (found : p.calls[n]? = some (.register alert policy firstLevel known :: rest))
      (reached : resolveRecipients e o.oncall firstLevel.recipients = .ok recipients) :
      Did e p (.run n o) (registered e alert policy firstLevel recipients o.now p.shared)
  | acknowledges (found : indexed p.shared alertId = some record) :
      Did e p (.outside (.acknowledge alertId acknowledgedBy now)) (p.shared.put (acknowledged record acknowledgedBy now))
  | resolves (found : indexed p.shared alertId = some record) :
      Did e p (.outside (.resolve alertId now)) (closed record alertId now p.shared)
  | sweeps (swept : Swept e now oncall p.shared.records p.shared t) : Did e p (.outside (.checkTimeouts now oncall)) t

theorem logged_self (s : EscalationState) : Logged s s := ⟨rfl,rfl,rfl⟩

theorem begin_did (p : Escalations) (event : EscalationEvent) (keyed : Keyed p.shared) :
    Did e p (.outside event) (begin e event p.shared).1 := by
  cases event with
  | startEscalation alert policyId =>
    have same : (begin e (.startEscalation alert policyId) p.shared).1 = p.shared := by
      simp only [begin]
      split <;> rfl
    rw [same]
    exact .logs (logged_self _) (by simp)
  | acknowledge alertId acknowledgedBy now =>
    simp only [begin,acknowledge]
    cases found : indexed p.shared alertId with
    | none => exact .logs (logged_self _) (by simp)
    | some record => exact .acknowledges found
  | resolve alertId now =>
    simp only [begin,resolve]
    cases found : indexed p.shared alertId with
    | none => exact .logs (logged_self _) (by simp)
    | some record => exact .resolves found
  | checkTimeouts now oncall => exact .sweeps (checkTimeouts_swept e now oncall keyed)

theorem exec_did (p : Escalations) (n : Nat) (o : Readings) (found : p.calls[n]? = some (task :: rest)) :
    Did e p (.run n o) (exec e task o p.shared).1 := by
  cases task with
  | register alert policy firstLevel known =>
    simp only [exec,register]
    cases reached : resolveRecipients e o.oncall firstLevel.recipients with
    | error x => exact .logs (logged_self _) (by simp)
    | ok recipients => exact .registers n o alert policy firstLevel known rest recipients found reached
  | audit entry => exact .logs ⟨rfl,rfl,rfl⟩ (by simp)

theorem step_did (e : EscalationEngine) (p : Escalations) (action : EscalationStep) (keyed : Keyed p.shared) :
    Did e p action (step (system e) p action).shared := by
  rcases step_cases (system e) p action with ⟨event,rfl,stepped⟩ | ⟨n,o,task,rest,_,_,rfl,found,_,stepped⟩ | ⟨idle,n,o,rfl,_⟩
  · rw [stepped]
    exact begin_did p event keyed
  · rw [stepped]
    exact exec_did p n o found
  · rw [idle]
    exact .logs (logged_self _) (by simp)

-- What a call has to do after its first section: an audit entry, or the rest of a start.
theorem begin_leaves (e : EscalationEngine) (event : EscalationEvent) (s : EscalationState) (started : task ∈ (begin e event s).2) :
    (∃ entry, task = .audit entry) ∨ ∃ alert policyId policy firstLevel, event = .startEscalation alert policyId ∧
      checkStart e alert policyId s = .starts policy firstLevel ∧ task = .register alert policy firstLevel s.issued := by
  cases event with
  | startEscalation alert policyId =>
    cases found : checkStart e alert policyId s with
    | noPolicy => simp [begin,found] at started
    | existing record => simp [begin,found] at started
    | starts policy firstLevel =>
      simp only [begin,found,List.mem_singleton] at started
      exact .inr ⟨alert,policyId,policy,firstLevel,rfl,found,started⟩
  | acknowledge alertId acknowledgedBy now =>
    simp only [begin] at started
    split at started
    · exact .inl ⟨_,List.mem_singleton.mp started⟩
    · cases started
  | resolve alertId now =>
    simp only [begin] at started
    split at started
    · exact .inl ⟨_,List.mem_singleton.mp started⟩
    · cases started
  | checkTimeouts now oncall => cases started

theorem exec_audits (o : Readings) (s : EscalationState) (ran : (exec e task o s).2 = some tasks) (member : other ∈ tasks) :
    ∃ entry, other = .audit entry := by
  cases task with
  | register alert policy firstLevel known =>
    simp only [exec] at ran
    split at ran
    · cases ran
      exact ⟨_,List.mem_singleton.mp member⟩
    · cases ran
  | audit entry =>
    cases ran
    cases member

-- The deadline is set exactly while the escalation is pending or escalated.
def DeadlineSet (record : EscalationRecord) : Prop :=
  record.nextEscalationAt.isSome = true ↔ record.status = .pending ∨ record.status = .escalated

theorem acknowledged_deadline (record : EscalationRecord) : DeadlineSet (acknowledged record acknowledgedBy now) := by
  simp [DeadlineSet,acknowledged]

theorem resolved_deadline (record : EscalationRecord) : DeadlineSet (resolved record now) := by
  simp [DeadlineSet,resolved]

theorem newRecord_deadline (e : EscalationEngine) (alert : Alert) (policy : EscalationPolicy)
    (firstLevel : EscalationLevelConfig) : DeadlineSet (newRecord e alert policy firstLevel recipients now issued) := by
  simp [DeadlineSet,newRecord]

theorem after_deadline (held : DeadlineSet record) (out : TimeOut) : DeadlineSet (TimeOut.after record now out) := by
  cases out with
  | nothing => exact held
  | maxLevel => simp [DeadlineSet,TimeOut.after,maxLevel]
  | levelUp nextLevel nextConfig recipients => simp [DeadlineSet,TimeOut.after,levelUp]

-- A record is later in the same escalation: only the policy's chain and the answers to
-- it have changed, and the history has grown.
structure Later (record after : EscalationRecord) : Prop where
  id : after.escalationId = record.escalationId
  alert : after.alertId = record.alertId
  policy : after.policyId = record.policyId
  history : record.history <+: after.history

theorem later_self (record : EscalationRecord) : Later record record := ⟨rfl,rfl,rfl,List.prefix_refl _⟩

theorem Later.trans (first : Later record middle) (second : Later middle after) : Later record after :=
  ⟨second.id.trans first.id,second.alert.trans first.alert,second.policy.trans first.policy,first.history.trans second.history⟩

theorem after_later (record : EscalationRecord) (now : Rat) (out : TimeOut) : Later record (TimeOut.after record now out) := by
  cases out with
  | nothing => exact later_self record
  | maxLevel => exact ⟨rfl,rfl,rfl,List.prefix_append _ _⟩
  | levelUp nextLevel nextConfig recipients => exact ⟨rfl,rfl,rfl,List.prefix_append _ _⟩

-- What a step makes of one record.
inductive Became (e : EscalationEngine) (s : EscalationState) (record : EscalationRecord) :
    EscalationStep → EscalationRecord → Prop where
  | same : Became e s record action record
  | acknowledged (listed : indexed s alertId = some record) :
      Became e s record (.outside (.acknowledge alertId acknowledgedBy now)) (acknowledged record acknowledgedBy now)
  | resolved (listed : indexed s alertId = some record) :
      Became e s record (.outside (.resolve alertId now)) (resolved record now)
  | timedOut (reached : due now record = true) (out : timeOut e oncall record = .ok outcome) :
      Became e s record (.outside (.checkTimeouts now oncall)) (TimeOut.after record now outcome)

theorem Became.later (became : Became e s record action after) : Later record after := by
  cases became with
  | same => exact later_self record
  | acknowledged => exact ⟨rfl,rfl,rfl,List.prefix_append _ _⟩
  | resolved => exact ⟨rfl,rfl,rfl,List.prefix_append _ _⟩
  | timedOut reached out => exact after_later record _ _

theorem Became.deadline (became : Became e s record action after) (held : DeadlineSet record) : DeadlineSet after := by
  cases became with
  | same => exact held
  | acknowledged => exact acknowledged_deadline record
  | resolved => exact resolved_deadline record
  | timedOut reached out => exact after_deadline held _

theorem Became.ended (became : Became e s record (.outside (.checkTimeouts now oncall)) after)
    (done : live record.status = false) : after = record := by
  cases became with
  | same => rfl
  | timedOut reached out => simp [due,done] at reached

-- Every id in use has been drawn, and stands for the record that has it.
structure Named (e : EscalationEngine) (s : EscalationState) : Prop where
  keyed : Keyed s
  drawn : ∀ id record, s.activeEscalations.get? id = some record → ∃ n < s.issued, id = e.uuid4 n

theorem start_named (e : EscalationEngine) : Named e .start :=
  ⟨fun _ _ found => (nomatch found),fun _ _ found => (nomatch found)⟩

theorem Named.fresh (named : Named e s) : s.activeEscalations.get? (e.uuid4 s.issued) = none := by
  cases found : s.activeEscalations.get? (e.uuid4 s.issued) with
  | none => rfl
  | some record =>
    obtain ⟨n,early,same⟩ := named.drawn _ record found
    have equal := e.distinct same
    omega

theorem indexed_held (found : indexed s alertId = some record) :
    ∃ escalationId, s.escalationByAlert.get? alertId = some escalationId ∧ s.activeEscalations.get? escalationId = some record := by
  unfold indexed at found
  split at found
  · cases found
  · rename_i escalationId listed
    split at found
    · cases found
    · exact ⟨escalationId,listed,found⟩

theorem put_became (keyed : Keyed s) {id : String} (held : s.activeEscalations.get? id = some record)
    (listed : indexed s alertId = some other) (changed : EscalationRecord → EscalationRecord)
    (kept : (changed other).escalationId = other.escalationId) :
    ∃ after, (s.put (changed other)).activeEscalations.get? id = some after ∧
      (after = record ∨ record = other ∧ after = changed other) := by
  obtain ⟨otherId,_,stored⟩ := indexed_held listed
  have named := keyed otherId other stored
  unfold EscalationState.put
  simp only [OrderedDict.get?_set]
  rw [kept,named]
  by_cases same : id = otherId
  · rw [if_pos same]
    rw [same,stored] at held
    exact ⟨_,rfl,.inr ⟨(Option.some.inj held).symm,rfl⟩⟩
  · rw [if_neg same]
    exact ⟨record,held,.inl rfl⟩

theorem step_became {id : String} (p : Escalations) (action : EscalationStep) (named : Named e p.shared)
    (found : p.shared.activeEscalations.get? id = some record) :
    ∃ after, (step (system e) p action).shared.activeEscalations.get? id = some after ∧
      Became e p.shared record action after := by
  have did := step_did e p action named.keyed
  generalize (step (system e) p action).shared = t at did
  cases did with
  | logs logged still => exact ⟨record,by rw [logged.entries]; exact found,.same⟩
  | registers n o alert policy firstLevel known rest recipients task reached =>
    refine ⟨record,?_,.same⟩
    have different : id ≠ e.uuid4 p.shared.issued := by
      intro same
      rw [same,named.fresh] at found
      cases found
    simp only [registered,EscalationState.put,OrderedDict.get?_set,newRecord]
    rw [if_neg different]
    exact found
  | acknowledges listed =>
    obtain ⟨after,stored,same | ⟨same,changed⟩⟩ := put_became named.keyed found listed (fun r => acknowledged r _ _) rfl
    · exact ⟨after,stored,same ▸ .same⟩
    · exact ⟨after,stored,by rw [changed,same]; exact .acknowledged listed⟩
  | resolves listed =>
    obtain ⟨after,stored,same | ⟨same,changed⟩⟩ := put_became named.keyed found listed (fun r => resolved r _) rfl
    · exact ⟨after,stored,same ▸ .same⟩
    · exact ⟨after,stored,by rw [changed,same]; exact .resolved listed⟩
  | sweeps swept =>
    obtain ⟨member,own⟩ := mem_records named.keyed found
    obtain ⟨before,later,split⟩ := List.append_of_mem member
    obtain ⟨after,stored,outcome⟩ := swept.each before record later split
    rw [own] at stored
    refine ⟨after,stored,?_⟩
    rcases outcome with ran | ⟨same,_⟩
    · rcases checked_cases ran with same | ⟨reached,out,timed,changed⟩
      · rw [same]
        exact .same
      · rw [changed]
        exact .timedOut reached timed
    · rw [same]
      exact .same

-- Where a record after a step comes from.
theorem did_entries {id : String} (named : Named e p.shared) (did : Did e p action t)
    (stored : t.activeEscalations.get? id = some after) :
    (∃ record, p.shared.activeEscalations.get? id = some record) ∨
      ∃ n o alert policy firstLevel known rest recipients, action = .run n o ∧
        p.calls[n]? = some (.register alert policy firstLevel known :: rest) ∧ id = e.uuid4 p.shared.issued ∧
        after = newRecord e alert policy firstLevel recipients o.now p.shared.issued ∧
        t = registered e alert policy firstLevel recipients o.now p.shared := by
  have written : ∀ alertId other changed, indexed p.shared alertId = some other →
      changed.escalationId = other.escalationId → (p.shared.put changed).activeEscalations.get? id = some after →
      ∃ record, p.shared.activeEscalations.get? id = some record := by
    intro alertId other changed found kept put
    obtain ⟨escalationId,_,held⟩ := indexed_held found
    unfold EscalationState.put at put
    simp only [OrderedDict.get?_set,kept,named.keyed _ _ held] at put
    split at put
    · rename_i same
      exact ⟨other,by rw [same]; exact held⟩
    · exact ⟨after,put⟩
  cases did with
  | logs logged still =>
    rw [logged.entries] at stored
    exact .inl ⟨after,stored⟩
  | registers n o alert policy firstLevel known rest recipients task reached =>
    have put := stored
    simp only [registered,EscalationState.put,OrderedDict.get?_set] at put
    split at put
    · rename_i same
      exact .inr ⟨n,o,alert,policy,firstLevel,known,rest,recipients,rfl,task,same,(Option.some.inj put).symm,rfl⟩
    · exact .inl ⟨after,put⟩
  | acknowledges found => exact .inl (written _ _ (acknowledged _ _ _) found rfl stored)
  | resolves found => exact .inl (written _ _ (resolved _ _) found rfl stored)
  | sweeps swept =>
    by_cases known : id ∈ p.shared.records.map EscalationRecord.escalationId
    · obtain ⟨record,member,same⟩ := List.mem_map.mp known
      obtain ⟨entry,inside,rfl⟩ := List.mem_map.mp member
      have found := (OrderedDict.get?_entry _ _ _).mp inside
      rw [named.keyed _ _ found] at same
      exact .inl ⟨entry.2,by rw [← same]; exact found⟩
    · rw [swept.others id known] at stored
      exact .inl ⟨after,stored⟩

theorem did_issued (did : Did e p action t) : p.shared.issued ≤ t.issued := by
  cases did with
  | logs logged still => exact logged.issued.ge
  | registers => exact Nat.le_succ _
  | acknowledges => exact le_rfl
  | resolves => exact le_rfl
  | sweeps swept => exact swept.issued.ge

theorem step_named (p : Escalations) (action : EscalationStep) (named : Named e p.shared) :
    Named e (step (system e) p action).shared := by
  have did := step_did e p action named.keyed
  have kept : ∀ id after, (step (system e) p action).shared.activeEscalations.get? id = some after →
      after.escalationId = id ∧ ∃ n < (step (system e) p action).shared.issued, id = e.uuid4 n := by
    intro id after stored
    rcases did_entries named did stored with ⟨record,found⟩ | ⟨_,o,alert,policy,firstLevel,_,_,recipients,_,_,new,made,all⟩
    · obtain ⟨other,held,became⟩ := step_became p action named found
      cases Option.some.inj (held.symm.trans stored)
      obtain ⟨n,early,drawn⟩ := named.drawn id record found
      exact ⟨became.later.id.trans (named.keyed id record found),n,Nat.lt_of_lt_of_le early (did_issued did),drawn⟩
    · rw [made]
      refine ⟨new.symm,p.shared.issued,?_,new⟩
      rw [all]
      exact Nat.lt_succ_self _
  exact ⟨fun id after stored => (kept id after stored).1,fun id after stored => (kept id after stored).2⟩

def reached (e : EscalationEngine) (actions : List EscalationStep) : Escalations := run (step (system e)) Escalations.start actions

theorem reached_next (e : EscalationEngine) (actions : List EscalationStep) (action : EscalationStep) :
    reached e (actions ++ [action]) = step (system e) (reached e actions) action := run_append _ _ _ _

theorem reached_named (e : EscalationEngine) (actions : List EscalationStep) : Named e (reached e actions).shared := by
  induction actions using List.reverseRecOn with
  | nil => exact start_named e
  | append_singleton earlier action ih =>
    rw [reached_next]
    exact step_named _ action ih

theorem reached_later {id : String} (e : EscalationEngine) (actions later : List EscalationStep)
    (found : (reached e actions).shared.activeEscalations.get? id = some record) :
    ∃ after, (reached e (actions ++ later)).shared.activeEscalations.get? id = some after ∧ Later record after := by
  induction later generalizing actions record with
  | nil => exact ⟨record,by rw [List.append_nil]; exact found,later_self record⟩
  | cons action rest ih =>
    obtain ⟨middle,held,became⟩ := step_became (reached e actions) action (reached_named e actions) found
    rw [← reached_next] at held
    obtain ⟨after,stored,later⟩ := ih (actions ++ [action]) held
    rw [List.append_assoc] at stored
    exact ⟨after,stored,became.later.trans later⟩

theorem reached_deadline {id : String} (e : EscalationEngine) (actions : List EscalationStep)
    (found : (reached e actions).shared.activeEscalations.get? id = some record) : DeadlineSet record := by
  induction actions using List.reverseRecOn generalizing record with
  | nil => cases found
  | append_singleton earlier action ih =>
    rw [reached_next] at found
    have named := reached_named e earlier
    rcases did_entries named (step_did e _ action named.keyed) found with
      ⟨before,held⟩ | ⟨_,_,alert,policy,firstLevel,_,_,_,_,_,_,made,_⟩
    · obtain ⟨after,stored,became⟩ := step_became _ action named held
      cases Option.some.inj (stored.symm.trans found)
      exact became.deadline (ih held)
    · rw [made]
      exact newRecord_deadline e alert policy firstLevel

-- In every run: the deadline of a record is set exactly while it is pending or escalated,
-- check_timeouts leaves the others as they are, and no history loses an entry.
theorem escalation_record_invariant (e : EscalationEngine) (actions : List EscalationStep) (id : String)
    (record : EscalationRecord) (found : (reached e actions).shared.activeEscalations.get? id = some record) :
    (record.nextEscalationAt.isSome = true ↔ record.status = .pending ∨ record.status = .escalated) ∧
      (record.status = .acknowledged ∨ record.status = .resolved ∨ record.status = .timedOut → ∀ now oncall,
        (checkTimeouts e now oncall (reached e actions).shared).2.activeEscalations.get? id = some record) ∧
      ∀ later, ∃ after, (reached e (actions ++ later)).shared.activeEscalations.get? id = some after ∧
        record.history <+: after.history := by
  refine ⟨reached_deadline e actions found,?_,?_⟩
  · intro ended now oncall
    have done : live record.status = false := by
      rcases ended with status | status | status <;> simp [live,status]
    obtain ⟨after,stored,became⟩ := step_became _ (.outside (.checkTimeouts now oncall)) (reached_named e actions) found
    rw [became.ended done] at stored
    exact stored
  · intro later
    obtain ⟨after,stored,grown⟩ := reached_later e actions later found
    exact ⟨after,stored,grown.history⟩

-- The engine with one policy and no schedules, and an alert it escalates.
def onePolicy (policy : EscalationPolicy) : EscalationEngine where
  policies := ⟨[(policy.policyId,policy)],by simp⟩
  keyed := by
    intro key other found
    simp only [OrderedDict.get?,OrderedDict.lookupEntry] at found
    split at found
    · rename_i same
      cases found
      exact same
    · cases found
  oncallSchedules := .empty
  onEscalate := false
  uuid4 := fun n => String.ofList ('e' :: List.replicate n 'e')
  distinct := fun n k same => by simpa using congrArg String.toList same
  named := fun n empty => by simpa using congrArg String.toList empty

def highAlert (alertId : String) : Alert where
  alertId := alertId
  transactionId := .str "t-1"
  accountId := .str "acc-1"
  alertType := .ensemble
  severity := .high
  status := .open
  riskScore := .float (.finite (7/10))
  ruleId := .none
  description := ""
  details := .dict []
  enrichment := .empty
  channels := []
  assignedTo := none
  resolvedAt := none
  resolutionNotes := none
  createdAt := 0
  updatedAt := 0

def firstRecord (alertId : String) : EscalationRecord :=
  newRecord (onePolicy defaultPolicy) (highAlert alertId) defaultPolicy ⟨.l1,15,["fraud-analysts"]⟩ ["fraud-analysts"] 0 0

def startedOnce (alertId : String) : List EscalationStep :=
  [.outside (.startEscalation (highAlert alertId) none),.run 0 ⟨0,0⟩]

theorem first_record_invariant :
    (firstRecord "a-1").nextEscalationAt.isSome = true ∧ ∀ later, ∃ after,
      (reached (onePolicy defaultPolicy) (startedOnce "a-1" ++ later)).shared.activeEscalations.get? "e" = some after ∧
        (firstRecord "a-1").history <+: after.history := by
  have invariant := escalation_record_invariant (onePolicy defaultPolicy) (startedOnce "a-1") "e" (firstRecord "a-1") rfl
  exact ⟨invariant.1.mpr (.inl rfl),invariant.2.2⟩

end EscalationEngine
end RiskPulse
