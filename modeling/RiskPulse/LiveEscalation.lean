import RiskPulse.EscalationRecords

namespace RiskPulse
namespace EscalationEngine
open Interleaved Runs

-- Every escalation of the alert was registered before a call looked that found as many
-- escalations.
def RegisteredBefore (e : EscalationEngine) (alertId : String) (known : Nat) (s : EscalationState) : Prop :=
  ∀ entry ∈ s.activeEscalations.entries, entry.2.alertId = alertId → ∃ n < known, entry.1 = e.uuid4 n

instance (e : EscalationEngine) (alertId : String) (known : Nat) (s : EscalationState) :
    Decidable (RegisteredBefore e alertId known s) := inferInstanceAs (Decidable (∀ entry ∈ _,_))

-- The condition on a step: no escalation of an alert is registered when another one has
-- been since the call checked the index.
def UnracedTask (e : EscalationEngine) (s : EscalationState) : Option (List EscalationTask) → Prop
  | some (.register alert _ _ known :: _) => RegisteredBefore e alert.alertId known s
  | _ => True

instance (e : EscalationEngine) (s : EscalationState) : (call : Option (List EscalationTask)) → Decidable (UnracedTask e s call)
  | some (.register alert _ _ known :: _) => inferInstanceAs (Decidable (RegisteredBefore e alert.alertId known s))
  | some (.audit _ :: _) => isTrue trivial
  | some [] => isTrue trivial
  | none => isTrue trivial

def Unraced (e : EscalationEngine) (p : Escalations) : EscalationStep → Prop
  | .outside _ => True
  | .run n _ => UnracedTask e p.shared p.calls[n]?

instance (e : EscalationEngine) (p : Escalations) : (action : EscalationStep) → Decidable (Unraced e p action)
  | .outside _ => isTrue trivial
  | .run n _ => inferInstanceAs (Decidable (UnracedTask e p.shared p.calls[n]?))

-- An escalation that is not resolved is the one the index gives for its alert.
structure Indexed (s : EscalationState) : Prop where
  listed : ∀ id record, s.activeEscalations.get? id = some record → record.status ≠ .resolved →
    s.escalationByAlert.get? record.alertId = some id
  held : ∀ alertId id, s.escalationByAlert.get? alertId = some id →
    ∃ record, s.activeEscalations.get? id = some record ∧ record.alertId = alertId ∧ record.status ≠ .resolved

-- A call that is to register found nothing in the index, and so it is as long as no
-- other one has registered.
def Current (e : EscalationEngine) (s : EscalationState) : EscalationTask → Prop
  | .register alert _ _ known => known ≤ s.issued ∧
    (RegisteredBefore e alert.alertId known s → s.escalationByAlert.get? alert.alertId = none)
  | .audit _ => True

structure Guarded (e : EscalationEngine) (p : Escalations) : Prop where
  named : Named e p.shared
  indexed : Indexed p.shared
  tasks : AllTasks (Current e) p

theorem registeredBefore_exact : RegisteredBefore e alertId known s ↔
    ∀ id record, s.activeEscalations.get? id = some record → record.alertId = alertId → ∃ n < known, id = e.uuid4 n := by
  constructor
  · intro before id record found
    exact before (id,record) ((OrderedDict.get?_entry _ _ _).mpr found)
  · intro before entry member
    exact before entry.1 entry.2 ((OrderedDict.get?_entry _ _ _).mp member)

-- What every step but a registration and a resolve does to the records: they keep their
-- alerts, and are resolved if they were.
structure Moved (s t : EscalationState) : Prop where
  kept : ∀ id record, s.activeEscalations.get? id = some record → ∃ after, t.activeEscalations.get? id = some after ∧
    after.alertId = record.alertId ∧ (after.status = .resolved ↔ record.status = .resolved)
  old : ∀ id after, t.activeEscalations.get? id = some after → ∃ record, s.activeEscalations.get? id = some record
  index : t.escalationByAlert = s.escalationByAlert

theorem Moved.indexed (moved : Moved s t) (indexed : Indexed s) : Indexed t := by
  refine ⟨?_,?_⟩
  · intro id after stored unresolved
    obtain ⟨record,found⟩ := moved.old id after stored
    obtain ⟨other,same,alert,resolved⟩ := moved.kept id record found
    cases Option.some.inj (same.symm.trans stored)
    rw [moved.index,alert]
    exact indexed.listed id record found (mt resolved.mpr unresolved)
  · intro alertId id listed
    rw [moved.index] at listed
    obtain ⟨record,found,alert,unresolved⟩ := indexed.held alertId id listed
    obtain ⟨after,stored,same,resolved⟩ := moved.kept id record found
    exact ⟨after,stored,same.trans alert,mt resolved.mp unresolved⟩

theorem after_resolved (reached : due now record = true) (out : TimeOut) :
    (TimeOut.after record now out).status = .resolved ↔ record.status = .resolved := by
  have running : record.status ≠ .resolved := by
    intro done
    simp [due,live,done] at reached
  cases out with
  | nothing => exact Iff.rfl
  | maxLevel => simp [TimeOut.after,maxLevel,running]
  | levelUp nextLevel nextConfig recipients => simp [TimeOut.after,levelUp,running]

theorem did_old (named : Named e p.shared) (did : Did e p action t) (quiet : t.issued = p.shared.issued) (id : String)
    (after : EscalationRecord) (stored : t.activeEscalations.get? id = some after) :
    ∃ record, p.shared.activeEscalations.get? id = some record := by
  rcases did_entries named did stored with old | ⟨_,_,_,_,_,_,_,_,_,_,_,_,all⟩
  · exact old
  · rw [all] at quiet
    exact absurd quiet (Nat.succ_ne_self _)

theorem listed_unresolved (indexed : Indexed s) (found : EscalationEngine.indexed s alertId = some record) :
    record.alertId = alertId ∧ record.status ≠ .resolved := by
  obtain ⟨escalationId,listed,stored⟩ := indexed_held found
  obtain ⟨other,same,alert,unresolved⟩ := indexed.held alertId escalationId listed
  cases Option.some.inj (same.symm.trans stored)
  exact ⟨alert,unresolved⟩

theorem Became.moved (became : Became e s record action after) (indexed : Indexed s)
    (running : ∀ alertId now, action = .outside (.resolve alertId now) → EscalationEngine.indexed s alertId = none) :
    after.alertId = record.alertId ∧ (after.status = .resolved ↔ record.status = .resolved) := by
  refine ⟨became.later.alert,?_⟩
  cases became with
  | same => exact Iff.rfl
  | acknowledged listed =>
    have unresolved := (listed_unresolved indexed listed).2
    simp [EscalationEngine.acknowledged,unresolved]
  | resolved listed =>
    rw [running _ _ rfl] at listed
    cases listed
  | timedOut reached out => exact after_resolved reached _

theorem step_moved (p : Escalations) (action : EscalationStep) (named : Named e p.shared) (indexed : Indexed p.shared)
    (quiet : (step (system e) p action).shared.issued = p.shared.issued)
    (running : ∀ alertId now, action = .outside (.resolve alertId now) → EscalationEngine.indexed p.shared alertId = none) :
    Moved p.shared (step (system e) p action).shared := by
  have did := step_did e p action named.keyed
  refine ⟨?_,did_old named did quiet,?_⟩
  · intro id record found
    obtain ⟨after,stored,became⟩ := step_became p action named found
    exact ⟨after,stored,became.moved indexed running⟩
  · generalize (step (system e) p action).shared = t at did quiet
    cases did with
    | logs logged still => exact logged.index
    | registers => exact absurd quiet (Nat.succ_ne_self _)
    | acknowledges found => rfl
    | resolves found =>
      rw [running _ _ rfl] at found
      cases found
    | sweeps swept => exact swept.index

theorem registered_indexed (named : Named e s) (indexed : Indexed s)
    (clear : s.escalationByAlert.get? alert.alertId = none) :
    Indexed (registered e alert policy firstLevel recipients now s) := by
  have entries : ∀ id, (registered e alert policy firstLevel recipients now s).activeEscalations.get? id =
      if id = e.uuid4 s.issued then some (newRecord e alert policy firstLevel recipients now s.issued)
      else s.activeEscalations.get? id := fun id => OrderedDict.get?_set _ _ _ _
  have listing : ∀ alertId, (registered e alert policy firstLevel recipients now s).escalationByAlert.get? alertId =
      if alertId = alert.alertId then some (e.uuid4 s.issued) else s.escalationByAlert.get? alertId :=
    fun alertId => OrderedDict.get?_set _ _ _ _
  refine ⟨?_,?_⟩
  · intro id record stored unresolved
    rw [entries] at stored
    split at stored
    · rename_i new
      cases Option.some.inj stored
      rw [listing,new]
      exact if_pos rfl
    · have before := indexed.listed id record stored unresolved
      have other : record.alertId ≠ alert.alertId := by
        intro same
        rw [same,clear] at before
        cases before
      rw [listing,if_neg other]
      exact before
  · intro alertId id listed
    rw [listing] at listed
    split at listed
    · rename_i own
      cases Option.some.inj listed
      exact ⟨_,by rw [entries,if_pos rfl],own.symm,by simp [newRecord]⟩
    · obtain ⟨record,found,alertOf,unresolved⟩ := indexed.held alertId id listed
      refine ⟨record,?_,alertOf,unresolved⟩
      have old : id ≠ e.uuid4 s.issued := by
        intro same
        rw [same,named.fresh] at found
        cases found
      rw [entries,if_neg old]
      exact found

theorem closed_indexed (keyed : Keyed s) (indexed : Indexed s) (found : EscalationEngine.indexed s alertId = some record) :
    Indexed (closed record alertId now s) := by
  obtain ⟨escalationId,listed,stored⟩ := indexed_held found
  obtain ⟨other,same,alert,_⟩ := indexed.held alertId escalationId listed
  cases Option.some.inj (same.symm.trans stored)
  have own := keyed escalationId record stored
  have entries : ∀ id, (closed record alertId now s).activeEscalations.get? id =
      if id = escalationId then some (resolved record now) else s.activeEscalations.get? id := by
    intro id
    rw [← own]
    exact OrderedDict.get?_set _ _ _ _
  have listing : ∀ alert, (closed record alertId now s).escalationByAlert.get? alert =
      if alert = alertId then none else s.escalationByAlert.get? alert := fun _ => OrderedDict.get?_erase _ _ _
  refine ⟨?_,?_⟩
  · intro id after held unresolved
    rw [entries] at held
    split at held
    · cases Option.some.inj held
      exact absurd rfl unresolved
    · rename_i different
      have before := indexed.listed id after held unresolved
      have apart : after.alertId ≠ alertId := by
        intro equal
        rw [equal,listed] at before
        exact different (Option.some.inj before).symm
      rw [listing,if_neg apart]
      exact before
  · intro alertOf id still
    rw [listing] at still
    split at still
    · cases still
    · rename_i different
      obtain ⟨after,held,of,unresolved⟩ := indexed.held alertOf id still
      refine ⟨after,?_,of,unresolved⟩
      have apart : id ≠ escalationId := by
        intro equal
        rw [equal,stored] at held
        cases Option.some.inj held
        exact different (of.symm.trans alert)
      rw [entries,if_neg apart]
      exact held

-- The index entry of an alert comes and goes with its registrations.
theorem step_clear (p : Escalations) (action : EscalationStep) (named : Named e p.shared)
    (fewer : RegisteredBefore e alertId known (step (system e) p action).shared) (bound : known ≤ p.shared.issued)
    (clear : p.shared.escalationByAlert.get? alertId = none) :
    (step (system e) p action).shared.escalationByAlert.get? alertId = none := by
  have did := step_did e p action named.keyed
  generalize (step (system e) p action).shared = t at did fewer
  cases did with
  | logs logged still =>
    rw [logged.index]
    exact clear
  | registers n o alert policy firstLevel known rest recipients task reached =>
    have other : alertId ≠ alert.alertId := by
      rintro rfl
      obtain ⟨m,early,same⟩ := registeredBefore_exact.mp fewer (e.uuid4 p.shared.issued) _
        (by simp only [registered,EscalationState.put,OrderedDict.get?_set]; exact if_pos rfl) rfl
      have equal := e.distinct same
      omega
    simp only [registered,OrderedDict.get?_set]
    rw [if_neg other]
    exact clear
  | acknowledges found => exact clear
  | resolves found =>
    simp only [closed,OrderedDict.get?_erase]
    split
    · rfl
    · exact clear
  | sweeps swept =>
    rw [swept.index]
    exact clear

theorem registeredBefore_earlier (p : Escalations) (action : EscalationStep) (named : Named e p.shared)
    (fewer : RegisteredBefore e alertId known (step (system e) p action).shared) : RegisteredBefore e alertId known p.shared := by
  rw [registeredBefore_exact] at fewer ⊢
  intro id record found alert
  obtain ⟨after,stored,became⟩ := step_became p action named found
  exact fewer id after stored (became.later.alert.trans alert)

theorem step_current (p : Escalations) (action : EscalationStep) (named : Named e p.shared) (task : EscalationTask)
    (current : Current e p.shared task) : Current e (step (system e) p action).shared task := by
  cases task with
  | audit entry => trivial
  | register alert policy firstLevel known =>
    obtain ⟨bound,clears⟩ := current
    refine ⟨Nat.le_trans bound (did_issued (step_did e p action named.keyed)),?_⟩
    intro fewer
    exact step_clear p action named fewer bound (clears (registeredBefore_earlier p action named fewer))

theorem begin_current (p : Escalations) (event : EscalationEvent) (task : EscalationTask)
    (member : task ∈ (begin e event p.shared).2) : Current e (begin e event p.shared).1 task := by
  cases task with
  | audit entry => trivial
  | register alert policy firstLevel known =>
    cases event with
    | startEscalation other policyId =>
      cases found : checkStart e other policyId p.shared with
      | noPolicy => simp [begin,found] at member
      | existing record => simp [begin,found] at member
      | starts chosen first =>
        simp only [begin,found,List.mem_singleton] at member ⊢
        cases member
        refine ⟨le_rfl,fun _ => ?_⟩
        unfold checkStart at found
        split at found
        · cases found
        · split at found
          · cases found
          · split at found
            · cases found
            · assumption
    | acknowledge alertId acknowledgedBy now =>
      simp only [begin] at member
      split at member <;> simp at member
    | resolve alertId now =>
      simp only [begin] at member
      split at member <;> simp at member
    | checkTimeouts now oncall => simp [begin] at member

theorem step_tasks (p : Escalations) (action : EscalationStep) (named : Named e p.shared) (tasks : AllTasks (Current e) p) :
    AllTasks (Current e) (step (system e) p action) := by
  have stays : ∀ task, Current e p.shared task → Current e (step (system e) p action).shared task :=
    fun task => step_current p action named task
  rcases step_cases (system e) p action with ⟨event,rfl,stepped⟩ | ⟨n,o,task,rest,before,later,rfl,_,split,stepped⟩ | ⟨idle,_⟩
  · rw [stepped] at stays ⊢
    exact allTasks_outside tasks stays fun task member => begin_current p event task member
  · rw [stepped] at stays ⊢
    apply allTasks_run tasks split stays
    intro next ran other member
    obtain ⟨entry,rfl⟩ := exec_audits o p.shared ran member
    trivial
  · rw [idle]
    exact tasks

theorem step_guarded (p : Escalations) (action : EscalationStep) (guarded : Guarded e p) (unraced : Unraced e p action) :
    Guarded e (step (system e) p action) := by
  have named := guarded.named
  refine ⟨step_named p action named,?_,step_tasks p action named guarded.tasks⟩
  have did := step_did e p action named.keyed
  have moves := step_moved p action named guarded.indexed
  generalize (step (system e) p action).shared = t at did moves
  cases did with
  | logs logged still => exact ⟨by rw [logged.entries,logged.index]; exact guarded.indexed.listed,
      by rw [logged.entries,logged.index]; exact guarded.indexed.held⟩
  | registers n o alert policy firstLevel known rest recipients task reached =>
    apply registered_indexed named guarded.indexed
    have current := guarded.tasks _ (List.mem_of_getElem? task) _ List.mem_cons_self
    simp only [Unraced,task,UnracedTask] at unraced
    exact current.2 unraced
  | acknowledges found => exact (moves rfl (by simp)).indexed guarded.indexed
  | resolves found => exact closed_indexed named.keyed guarded.indexed found
  | sweeps swept => exact (moves swept.issued (by simp)).indexed guarded.indexed

theorem start_guarded (e : EscalationEngine) : Guarded e Escalations.start := by
  refine ⟨start_named e,⟨?_,?_⟩,?_⟩
  · intro id record found
    cases found
  · intro alertId id listed
    cases listed
  · intro call member
    cases member

-- An acknowledge or a resolve of the alert that returns a record.
def Answers (s : EscalationState) (alertId : String) : EscalationStep → Prop
  | .outside (.acknowledge other acknowledgedBy now) => other = alertId ∧ (acknowledge other acknowledgedBy now s).1 ≠ none
  | .outside (.resolve other now) => other = alertId ∧ (resolve other now s).1 ≠ none
  | _ => False

def Starts (alertId : String) : EscalationStep → Prop
  | .outside (.startEscalation alert _) => alert.alertId = alertId
  | _ => False

def Stale (e : EscalationEngine) (alertId : String) (s : EscalationState) : EscalationTask → Prop
  | .register alert _ _ known => alert.alertId = alertId → ¬RegisteredBefore e alertId known s
  | .audit _ => True

-- No escalation of the alert is running, and no call that has begun will start one.
structure Quieted (e : EscalationEngine) (alertId : String) (p : Escalations) : Prop where
  ended : ∀ id record, p.shared.activeEscalations.get? id = some record → record.alertId = alertId → live record.status = false
  tasks : AllTasks (Stale e alertId) p

theorem step_stale (p : Escalations) (action : EscalationStep) (named : Named e p.shared) (tasks : AllTasks (Stale e alertId) p)
    (other : ¬Starts alertId action) : AllTasks (Stale e alertId) (step (system e) p action) := by
  have stays : ∀ task, Stale e alertId p.shared task → Stale e alertId (step (system e) p action).shared task := by
    intro task stale
    cases task with
    | audit entry => trivial
    | register alert policy firstLevel known =>
      intro own fewer
      exact stale own (registeredBefore_earlier p action named fewer)
  rcases step_cases (system e) p action with ⟨event,rfl,stepped⟩ | ⟨n,o,task,rest,before,later,rfl,_,split,stepped⟩ | ⟨idle,_⟩
  · rw [stepped] at stays ⊢
    apply allTasks_outside tasks stays
    intro task member
    rcases begin_leaves e event p.shared member with ⟨entry,rfl⟩ | ⟨alert,policyId,policy,firstLevel,rfl,_,rfl⟩
    · trivial
    · exact fun own => absurd own other
  · rw [stepped] at stays ⊢
    apply allTasks_run tasks split stays
    intro next ran task member
    obtain ⟨entry,rfl⟩ := exec_audits o p.shared ran member
    trivial
  · rw [idle]
    exact tasks

theorem Became.quiet (became : Became e s record action after) (ended : live record.status = false) :
    live after.status = false := by
  cases became with
  | same => exact ended
  | acknowledged => rfl
  | resolved => rfl
  | timedOut reached => simp [due,ended] at reached

theorem step_quieted (p : Escalations) (action : EscalationStep) (guarded : Guarded e p) (unraced : Unraced e p action)
    (quieted : Quieted e alertId p) (other : ¬Starts alertId action) : Quieted e alertId (step (system e) p action) := by
  have named := guarded.named
  refine ⟨?_,step_stale p action named quieted.tasks other⟩
  intro id after stored own
  rcases did_entries named (step_did e p action named.keyed) stored with
    ⟨record,found⟩ | ⟨n,o,alert,_,_,known,rest,_,rfl,task,_,made,_⟩
  · obtain ⟨_,held,became⟩ := step_became p action named found
    cases Option.some.inj (held.symm.trans stored)
    exact became.quiet (quieted.ended id record found (became.later.alert.symm.trans own))
  · rw [made] at own
    have stale := quieted.tasks _ (List.mem_of_getElem? task) _ List.mem_cons_self own
    simp only [Unraced,task,UnracedTask] at unraced
    exact absurd (own ▸ unraced) stale

-- The one record of the alert that is not resolved is the one that was changed.
theorem changed_ended {t : EscalationState} {id : String} {after changed : EscalationRecord} (keyed : Keyed s)
    (indexed : Indexed s) (found : EscalationEngine.indexed s alertId = some record) (done : live changed.status = false)
    (entries : t.activeEscalations = s.activeEscalations.set record.escalationId changed)
    (stored : t.activeEscalations.get? id = some after) (own : after.alertId = alertId) : live after.status = false := by
  obtain ⟨escalationId,listed,held⟩ := indexed_held found
  rw [entries,OrderedDict.get?_set,keyed _ _ held] at stored
  split at stored
  · cases Option.some.inj stored
    exact done
  · rename_i different
    by_cases resolved : after.status = .resolved
    · rw [resolved]
      rfl
    · have same := indexed.listed id after stored resolved
      rw [own,listed] at same
      exact absurd (Option.some.inj same).symm different

theorem answers_apart (answers : Answers s alertId action) : ¬Starts alertId action := by
  cases action with
  | run n o => cases answers
  | outside event =>
    cases event with
    | startEscalation => cases answers
    | acknowledge => exact fun starts => starts
    | resolve => exact fun starts => starts
    | checkTimeouts => exact fun starts => starts

theorem answers_indexed (answers : Answers s alertId action) : ∃ record, EscalationEngine.indexed s alertId = some record := by
  apply Option.ne_none_iff_exists'.mp
  intro missing
  cases action with
  | run n o => cases answers
  | outside event =>
    cases event with
    | startEscalation => cases answers
    | checkTimeouts => cases answers
    | acknowledge other acknowledgedBy now =>
      obtain ⟨rfl,returned⟩ := answers
      simp [acknowledge,missing] at returned
    | resolve other now =>
      obtain ⟨rfl,returned⟩ := answers
      simp [resolve,missing] at returned

theorem answered_quieted (p : Escalations) (action : EscalationStep) (guarded : Guarded e p)
    (answers : Answers p.shared alertId action) : Quieted e alertId (step (system e) p action) := by
  have named := guarded.named
  obtain ⟨record,found⟩ := answers_indexed answers
  obtain ⟨escalationId,listed,_⟩ := indexed_held found
  have stale : AllTasks (Stale e alertId) p := by
    intro call member task inside
    have current := guarded.tasks call member task inside
    cases task with
    | audit entry => trivial
    | register alert policy firstLevel known =>
      intro own fewer
      have clear := current.2 (own ▸ fewer)
      rw [own,listed] at clear
      cases clear
  refine ⟨?_,step_stale p _ named stale (answers_apart answers)⟩
  intro id after stored own
  cases action with
  | run n o => cases answers
  | outside event =>
    cases event with
    | startEscalation alert policyId => cases answers
    | checkTimeouts now oncall => cases answers
    | acknowledge other acknowledgedBy now =>
      obtain ⟨rfl,_⟩ := answers
      simp only [step,system,begin,acknowledge,found] at stored
      exact changed_ended named.keyed guarded.indexed found rfl rfl stored own
    | resolve other now =>
      obtain ⟨rfl,_⟩ := answers
      simp only [step,system,begin,resolve,found] at stored
      exact changed_ended named.keyed guarded.indexed found rfl rfl stored own

theorem run_quieted (between : List EscalationStep) (guarded : Guarded e p) (quieted : Quieted e alertId p)
    (unraced : Along (step (system e)) (Unraced e) p between) (quiet : ∀ action ∈ between, ¬Starts alertId action) :
    Guarded e (run (step (system e)) p between) ∧ Quieted e alertId (run (step (system e)) p between) := by
  induction between generalizing p with
  | nil => exact ⟨guarded,quieted⟩
  | cons action rest ih =>
    obtain ⟨first,others⟩ := unraced
    have stepped := step_quieted p action guarded first quieted (quiet action List.mem_cons_self)
    exact ih (step_guarded p action guarded first) stepped others fun next member => quiet next (List.mem_cons_of_mem _ member)

-- At most one escalation of an alert is not resolved, and once an acknowledge or a
-- resolve has returned a record, check_timeouts leaves every escalation of the alert as
-- it is until a new start_escalation for it.
structure OneLive (e : EscalationEngine) (actions : List EscalationStep) : Prop where
  single : ∀ id other record twin, (reached e actions).shared.activeEscalations.get? id = some record →
    (reached e actions).shared.activeEscalations.get? other = some twin → record.alertId = twin.alertId →
    record.status ≠ .resolved → twin.status ≠ .resolved → id = other
  answered : ∀ alertId earlier closing between, actions = earlier ++ closing :: between →
    Answers (reached e earlier).shared alertId closing → (∀ action ∈ between, ¬Starts alertId action) →
    ∀ now oncall id record, (reached e actions).shared.activeEscalations.get? id = some record → record.alertId = alertId →
      (checkTimeouts e now oncall (reached e actions).shared).2.activeEscalations.get? id = some record

-- In every run in which no registration comes after another one of its alert that its
-- call did not see, this is so at every moment.
theorem one_live_escalation (e : EscalationEngine) (earlier later : List EscalationStep)
    (unraced : Along (step (system e)) (Unraced e) Escalations.start (earlier ++ later)) : OneLive e earlier := by
  have calm := along_earlier unraced
  have guarded : Guarded e (reached e earlier) := along_keeps step_guarded (start_guarded e) calm
  refine ⟨?_,?_⟩
  · intro id other record twin found second alert running alive
    have first := guarded.indexed.listed id record found running
    rw [alert,guarded.indexed.listed other twin second alive] at first
    exact (Option.some.inj first).symm
  · intro alertId before closing between split answers quiet now oncall id record found own
    subst split
    have first : Guarded e (reached e before) := along_keeps step_guarded (start_guarded e) (along_earlier calm)
    obtain ⟨closes,others⟩ := along_later calm
    have stepped := answered_quieted (reached e before) closing first answers
    have ended := (run_quieted between (step_guarded _ closing first closes) stepped others quiet).2
    have same : reached e (before ++ closing :: between) =
        run (step (system e)) (step (system e) (reached e before) closing) between := run_append _ _ _ _
    rw [← same] at ended
    obtain ⟨after,stored,became⟩ := step_became _ (.outside (.checkTimeouts now oncall)) (reached_named e _) found
    rw [became.ended (ended.ended id record found own)] at stored
    exact stored

-- Two start_escalation calls for one alert that both look before either registers.
def bothLook : List EscalationStep :=
  [.outside (.startEscalation (highAlert "a-1") none),.outside (.startEscalation (highAlert "a-1") none),
    .run 0 ⟨0,0⟩,.run 1 ⟨0,0⟩]

-- A start_escalation that looks after the other has registered.
theorem later_call_sees_the_first : OneLive (onePolicy defaultPolicy)
    (startedOnce "a-1" ++ [.outside (.startEscalation (highAlert "a-1") none)]) := by
  apply one_live_escalation (onePolicy defaultPolicy) _ []
  decide

-- Both escalations run; the acknowledged one stops, and the other is escalated.
theorem two_escalations_run : ¬OneLive (onePolicy defaultPolicy) bothLook ∧
    ¬OneLive (onePolicy defaultPolicy) (bothLook ++ [.outside (.acknowledge "a-1" "lead" 60)]) := by
  refine ⟨?_,?_⟩
  · intro law
    have same := law.single "e" "ee" _ _ rfl rfl rfl (by decide) (by decide)
    exact absurd same (by decide)
  · intro law
    have kept := law.answered "a-1" bothLook (.outside (.acknowledge "a-1" "lead" 60)) [] rfl ⟨rfl,by decide⟩ (by simp)
      900 900 "e" _ rfl rfl
    exact absurd kept (by decide +kernel)

end EscalationEngine
end RiskPulse
