import RiskPulse.RuleConditions

namespace RiskPulse
namespace RulesEngine

abbrev RuleRecord := RuleEvaluationRecord Value

structure EngineSettings where
  shortCircuit : Bool
  enableAudit : Bool

-- The clock in one evaluation: when the events are recorded, when the schedule of the
-- n-th rule is checked, and its readings within the condition of the n-th rule.
structure EvaluationClock where
  account : Rat
  device : Rat
  schedule : Nat → Rat
  condition : Nat → Nat → Rat

-- The ids under which the rules of one evaluation are reported.
structure Identified where
  transactionId : Value
  accountId : Value

-- What the loop over the rules builds.
structure Tally where
  evaluations : List RuleRecord
  triggeredRules : List RuleRecord
  totalRulesTriggered : Nat
  overallAction : RuleAction
  highestSeverity : Option RuleSeverity
  shortCircuited : Bool

def Tally.start : Tally := ⟨[],[],0,.allow,none,false⟩

def severityOrder : RuleSeverity → Nat
  | .low => 0
  | .medium => 1
  | .high => 2
  | .critical => 3

def ruleRecord (ids : Identified) (rule : RuleDefinition) (outcome : EvaluationOutcome) (details : List (String × Value)) :
    RuleRecord where
  ruleId := rule.id
  ruleName := rule.name
  ruleVersion := rule.version
  outcome
  action := if outcome = .triggered then some rule.action else none
  severity := if outcome = .triggered then some rule.severity else none
  transactionId := ids.transactionId
  accountId := ids.accountId
  details := .ofList details

def Tally.add (record : RuleRecord) (t : Tally) : Tally := {t with evaluations := t.evaluations ++ [record]}

-- Block overrides flag, and a severity replaces a lower one only.
def raiseAction (action overall : RuleAction) : RuleAction :=
  if action = .block then .block
  else if action = .flag ∧ overall ≠ .block then .flag
  else overall

def raiseSeverity (severity : RuleSeverity) (highest : Option RuleSeverity) : Option RuleSeverity :=
  match highest with
  | none => some severity
  | some old => if severityOrder old < severityOrder severity then some severity else some old

def Tally.triggered (rule : RuleDefinition) (record : RuleRecord) (t : Tally) : Tally where
  evaluations := t.evaluations ++ [record]
  triggeredRules := t.triggeredRules ++ [record]
  totalRulesTriggered := t.totalRulesTriggered + 1
  overallAction := raiseAction rule.action t.overallAction
  highestSeverity := raiseSeverity rule.severity t.highestSeverity
  shortCircuited := t.shortCircuited

variable (h : RulesHost) (settings : EngineSettings) (clock : EvaluationClock) (transaction : Record) (ids : Identified)

-- The part of the loop's body inside the try.
def testRule (n : Nat) (rule : RuleDefinition) : Effect VelocityTracker RuleRecord :=
  Effect.attempt
    (do
      Effect.modify fun s => {s with readings := 0}
      let triggered ← evaluateCondition h (clock.condition n) transaction h.recursionLimit rule.condition
      pure (ruleRecord ids rule (if triggered then .triggered else .passed) [("condition",rule.condition)]))
    fun e => pure (ruleRecord ids rule .error [("error",.str e)])

-- The record of the n-th rule.
def evaluateRule (n : Nat) (rule : RuleDefinition) : Effect VelocityTracker RuleRecord :=
  if rule.enabled.truthy then do
    let active ← Effect.ofExcept (if rule.schedule.truthy then isScheduleActive h rule.schedule (clock.schedule n) else .ok true)
    if active then testRule h clock transaction ids n rule
    else pure (ruleRecord ids rule .skipped [("reason",.str "schedule_inactive")])
  else pure (ruleRecord ids rule .skipped [("reason",.str "rule_disabled")])

-- The n-th rule and those after it, up to one that blocks when the engine stops there.
def evaluateRules : Nat → List RuleDefinition → Tally → Effect VelocityTracker Tally
  | _,[],t => pure t
  | n,rule :: rest,t => do
    let record ← evaluateRule h clock transaction ids n rule
    if record.outcome = .triggered then
      let found := t.triggered rule record
      if settings.shortCircuit ∧ rule.action = .block then pure {found with shortCircuited := true}
      else evaluateRules (n + 1) rest found
    else evaluateRules (n + 1) rest (t.add record)

def identify (uuid4 : String) (transaction : Record) : Identified where
  transactionId := transaction.getD "external_transaction_id" (transaction.getD "transaction_id" (.str uuid4))
  accountId := transaction.getD "account_id" (.str "unknown")

def transactionAmount (transaction : Record) : Except String PyFloat :=
  if transaction.value "transaction_amount" = .none then .ok (.finite 0) else h.float (transaction.value "transaction_amount")

-- The events of the transaction: its amount for the account, and a number made of the
-- card for the device.
def recordVelocity (accountId : Value) : Effect VelocityTracker Unit := do
  let amount ← Effect.ofExcept (transactionAmount h transaction)
  Effect.modify (VelocityTracker.recordEvent ("account:" ++ h.str accountId) amount clock.account)
  let deviceId := transaction.value "device_id"
  if deviceId.truthy then do
    let card ← Effect.ofExcept (h.hash (transaction.getD "card_last_four" (.str "")))
    Effect.modify (VelocityTracker.recordEvent ("device:" ++ h.str deviceId) (.finite ((card % 10000 : Int) : Rat)) clock.device)
  else pure ()

-- The audit trail keeps a record by its transaction and its rule, so both are hashed.
def recordable (record : RuleRecord) : Bool := record.transactionId.hashable && record.ruleId.hashable

def Tally.result (ids : Identified) (t : Tally) : RuleEngineResult where
  transactionId := ids.transactionId
  overallAction := t.overallAction
  triggeredRules := t.triggeredRules
  allEvaluations := t.evaluations
  totalRulesEvaluated := t.evaluations.length
  totalRulesTriggered := t.totalRulesTriggered
  highestSeverity := t.highestSeverity
  shortCircuited := t.shortCircuited

-- One evaluation over the rules as they are after the reload check.
def evaluate (uuid4 : String) (rules : List RuleDefinition) : Effect VelocityTracker RuleEngineResult := do
  let ids := identify uuid4 transaction
  recordVelocity h clock transaction ids.accountId
  let t ← evaluateRules h settings clock transaction ids 0 rules .start
  if settings.enableAudit && !t.evaluations.all recordable then Effect.ofExcept (.error "unhashable type")
  else pure (t.result ids)

-- Whether the schedule of the n-th rule can be read when the loop comes to it; the
-- schedule of a disabled rule is not looked at.
def Readable (n : Nat) (rule : RuleDefinition) : Prop :=
  rule.enabled.truthy = true → rule.schedule.truthy = true →
    ∃ active, isScheduleActive h rule.schedule (clock.schedule n) = .ok active

-- What a record says of its rule.
def RecordOf (rule : RuleDefinition) (record : RuleRecord) : Prop :=
  ∃ outcome details, record = ruleRecord ids rule outcome details

theorem testRule_record (n : Nat) (rule : RuleDefinition) (s : VelocityTracker) :
    ∃ record u, testRule h clock transaction ids n rule s = (.ok record,u) ∧ RecordOf ids rule record := by
  have returns : Effect.Returns (testRule h clock transaction ids n rule) :=
    Effect.Returns.attempt fun e => Effect.returns_pure _
  have yields : Effect.Yields (RecordOf ids rule) (testRule h clock transaction ids n rule) := by
    apply Effect.Yields.attempt
    · apply Effect.yields_bind
      intro _
      apply Effect.yields_bind
      intro triggered
      exact Effect.yields_pure ⟨_,_,rfl⟩
    · intro e
      exact Effect.yields_pure ⟨.error,_,rfl⟩
  obtain ⟨record,u,ran⟩ := returns s
  exact ⟨record,u,ran,yields s record u ran⟩

-- A rule gets a record exactly when its schedule can be read.
theorem evaluateRule_record (n : Nat) (rule : RuleDefinition) (s : VelocityTracker) (readable : Readable h clock n rule) :
    ∃ record u, evaluateRule h clock transaction ids n rule s = (.ok record,u) ∧ RecordOf ids rule record := by
  unfold evaluateRule
  by_cases enabled : rule.enabled.truthy = true
  · rw [if_pos enabled]
    obtain ⟨active,checked⟩ : ∃ active,
        (if rule.schedule.truthy then isScheduleActive h rule.schedule (clock.schedule n) else .ok true) = .ok active := by
      by_cases scheduled : rule.schedule.truthy = true
      · rw [if_pos scheduled]
        exact readable enabled scheduled
      · rw [if_neg scheduled]
        exact ⟨true,rfl⟩
    rw [Effect.ofExcept_bind _ s checked]
    cases active with
    | false => exact ⟨_,s,rfl,.skipped,_,rfl⟩
    | true => exact testRule_record h clock transaction ids n rule s
  · rw [if_neg enabled]
    exact ⟨_,s,rfl,.skipped,_,rfl⟩

theorem evaluateRule_raises (n : Nat) (rule : RuleDefinition) (s : VelocityTracker) (unreadable : ¬Readable h clock n rule) :
    ∃ e, evaluateRule h clock transaction ids n rule s = (.error e,s) := by
  simp only [Readable,not_forall] at unreadable
  obtain ⟨enabled,scheduled,fails⟩ := unreadable
  rcases checked : isScheduleActive h rule.schedule (clock.schedule n) with e | active
  · refine ⟨e,?_⟩
    rw [evaluateRule,if_pos enabled]
    exact Effect.ofExcept_failed _ s (by rw [if_pos scheduled,checked])
  · exact absurd ⟨active,checked⟩ fails

-- Everything the loop can do with a rule, whatever the setting: it raises, it adds the
-- record of a rule that did not trigger, or it adds one that did and may stop there.
theorem evaluateRules_cases (n : Nat) (rule : RuleDefinition) (rest : List RuleDefinition) (t : Tally) (s : VelocityTracker) :
    (¬Readable h clock n rule ∧ ∃ e, ∀ settings,
      evaluateRules h settings clock transaction ids n (rule :: rest) t s = (.error e,s)) ∨
    (Readable h clock n rule ∧ ∃ record u, RecordOf ids rule record ∧ record.outcome ≠ .triggered ∧ ∀ settings,
      evaluateRules h settings clock transaction ids n (rule :: rest) t s =
        evaluateRules h settings clock transaction ids (n + 1) rest (t.add record) u) ∨
    (Readable h clock n rule ∧ ∃ record u, RecordOf ids rule record ∧ record.outcome = .triggered ∧ ∀ settings,
      evaluateRules h settings clock transaction ids n (rule :: rest) t s =
        if settings.shortCircuit ∧ rule.action = .block then (.ok {t.triggered rule record with shortCircuited := true},u)
        else evaluateRules h settings clock transaction ids (n + 1) rest (t.triggered rule record) u) := by
  by_cases readable : Readable h clock n rule
  · right
    obtain ⟨record,u,ran,stated⟩ := evaluateRule_record h clock transaction ids n rule s readable
    have started : ∀ settings, evaluateRules h settings clock transaction ids n (rule :: rest) t s =
        (if record.outcome = .triggered then
          if settings.shortCircuit ∧ rule.action = .block then pure {t.triggered rule record with shortCircuited := true}
          else evaluateRules h settings clock transaction ids (n + 1) rest (t.triggered rule record)
        else evaluateRules h settings clock transaction ids (n + 1) rest (t.add record)) u :=
      fun settings => Effect.bind_ok _ ran
    by_cases triggered : record.outcome = .triggered
    · refine .inr ⟨readable,record,u,stated,triggered,fun settings => ?_⟩
      rw [started,if_pos triggered]
      split <;> rfl
    · refine .inl ⟨readable,record,u,stated,triggered,fun settings => ?_⟩
      rw [started,if_neg triggered]
  · obtain ⟨e,raised⟩ := evaluateRule_raises h clock transaction ids n rule s readable
    exact .inl ⟨readable,e,fun settings => Effect.bind_error _ raised⟩

def fired (records : List RuleRecord) : List RuleRecord := records.filter fun record => decide (record.outcome = .triggered)

-- Block if any record blocks, else flag if any flags, else allow.
def overall (records : List RuleRecord) : RuleAction :=
  if ∃ record ∈ records, record.action = some .block then .block
  else if ∃ record ∈ records, record.action = some .flag then .flag
  else .allow

def IsHighest (severities : List RuleSeverity) : Option RuleSeverity → Prop
  | none => severities = []
  | some top => top ∈ severities ∧ ∀ severity ∈ severities, severityOrder severity ≤ severityOrder top

-- The aggregates of the records of an evaluation.
structure Aggregated (records listed : List RuleRecord) (count : Nat) (action : RuleAction) (highest : Option RuleSeverity) :
    Prop where
  triggered : listed = fired records
  count : count = listed.length
  action : action = overall listed
  highest : IsHighest (listed.filterMap fun record => record.severity) highest

def Tally.Sums (t : Tally) : Prop := Aggregated t.evaluations t.triggeredRules t.totalRulesTriggered t.overallAction t.highestSeverity

theorem start_sums : Tally.start.Sums := ⟨rfl,rfl,rfl,rfl⟩

theorem add_sums (t : Tally) (record : RuleRecord) (sums : t.Sums) (other : record.outcome ≠ .triggered) : (t.add record).Sums := by
  refine ⟨?_,sums.count,sums.action,sums.highest⟩
  change t.triggeredRules = fired (t.evaluations ++ [record])
  rw [fired,List.filter_append,List.filter_cons_of_neg (by simpa using other),List.filter_nil,List.append_nil]
  exact sums.triggered

theorem overall_append (records : List RuleRecord) (record : RuleRecord) (action : RuleAction) (acts : record.action = some action) :
    overall (records ++ [record]) = raiseAction action (overall records) := by
  have exists_append : ∀ wanted : RuleAction, (∃ r ∈ records ++ [record], r.action = some wanted) ↔
      (∃ r ∈ records, r.action = some wanted) ∨ action = wanted := by
    intro wanted
    simp [or_and_right,exists_or,acts]
  simp only [overall,raiseAction,exists_append]
  by_cases blocked : ∃ r ∈ records, r.action = some .block
  · cases action <;> simp [blocked]
  · by_cases flagged : ∃ r ∈ records, r.action = some .flag <;> cases action <;> simp [blocked,flagged]

theorem highest_append (severities : List RuleSeverity) (severity : RuleSeverity) (holds : IsHighest severities highest) :
    IsHighest (severities ++ [severity]) (raiseSeverity severity highest) := by
  cases highest with
  | none =>
    have nothing : severities = [] := holds
    subst nothing
    exact ⟨by simp,by simp⟩
  | some top =>
    obtain ⟨member,above⟩ := holds
    unfold raiseSeverity
    simp only
    split
    · rename_i higher
      refine ⟨by simp,fun other inside => ?_⟩
      rcases List.mem_append.mp inside with old | new
      · exact (above other old).trans higher.le
      · rw [List.mem_singleton.mp new]
    · rename_i lower
      refine ⟨List.mem_append_left _ member,fun other inside => ?_⟩
      rcases List.mem_append.mp inside with old | new
      · exact above other old
      · rw [List.mem_singleton.mp new]
        exact not_lt.mp lower

theorem triggered_sums (t : Tally) (sums : t.Sums) (stated : RecordOf ids rule record) (hit : record.outcome = .triggered) :
    (t.triggered rule record).Sums := by
  obtain ⟨outcome,details,rfl⟩ := stated
  have same : outcome = .triggered := hit
  subst same
  refine ⟨?_,?_,?_,?_⟩
  · change t.triggeredRules ++ [_] = fired (t.evaluations ++ [_])
    rw [fired,List.filter_append,List.filter_cons_of_pos (by simpa using hit),List.filter_nil,sums.triggered]
    rfl
  · change t.totalRulesTriggered + 1 = (t.triggeredRules ++ [_]).length
    rw [List.length_append,List.length_singleton,sums.count]
  · change raiseAction rule.action t.overallAction = overall (t.triggeredRules ++ [_])
    rw [overall_append t.triggeredRules _ rule.action rfl,sums.action]
  · change IsHighest ((t.triggeredRules ++ [_]).filterMap _) (raiseSeverity rule.severity t.highestSeverity)
    rw [List.filterMap_append]
    exact highest_append _ rule.severity sums.highest

-- The loop keeps its aggregates those of the records it has made.
theorem evaluateRules_sums (settings : EngineSettings) (rules : List RuleDefinition) (n : Nat) (t : Tally)
    (s : VelocityTracker) (sums : t.Sums)
    (ran : evaluateRules h settings clock transaction ids n rules t s = (.ok u,v)) : u.Sums := by
  induction rules generalizing n t s with
  | nil => cases ran; exact sums
  | cons rule rest ih =>
    rcases evaluateRules_cases h clock transaction ids n rule rest t s with
      ⟨_,e,raised⟩ | ⟨_,record,w,_,other,goes⟩ | ⟨_,record,w,stated,hit,goes⟩
    · rw [raised settings] at ran
      cases ran
    · rw [goes settings] at ran
      exact ih (n + 1) (t.add record) w (add_sums t record sums other) ran
    · rw [goes settings] at ran
      have found := triggered_sums ids t sums stated hit
      split at ran
      · cases ran
        exact found
      · exact ih (n + 1) (t.triggered rule record) w found ran

-- Where every schedule can be read the loop comes to an end.
theorem evaluateRules_returns (settings : EngineSettings) (rules : List RuleDefinition) (n : Nat) (t : Tally)
    (s : VelocityTracker) (readable : ∀ i rule, rules[i]? = some rule → Readable h clock (n + i) rule) :
    ∃ u v, evaluateRules h settings clock transaction ids n rules t s = (.ok u,v) := by
  induction rules generalizing n t s with
  | nil => exact ⟨t,s,rfl⟩
  | cons rule rest ih =>
    have later : ∀ i other, rest[i]? = some other → Readable h clock (n + 1 + i) other := by
      intro i other found
      have step := readable (i + 1) other (by rw [List.getElem?_cons_succ]; exact found)
      rwa [show n + (i + 1) = n + 1 + i by omega] at step
    rcases evaluateRules_cases h clock transaction ids n rule rest t s with
      ⟨unreadable,_⟩ | ⟨_,record,w,_,_,goes⟩ | ⟨_,record,w,_,_,goes⟩
    · exact absurd (readable 0 rule rfl) unreadable
    · rw [goes settings]
      exact ih (n + 1) _ w later
    · rw [goes settings]
      split
      · exact ⟨_,w,rfl⟩
      · exact ih (n + 1) _ w later

-- Without the early stop the loop comes to every rule.
theorem evaluateRules_readable (settings : EngineSettings) (through : settings.shortCircuit = false)
    (rules : List RuleDefinition) (n : Nat) (t : Tally) (s : VelocityTracker)
    (ran : evaluateRules h settings clock transaction ids n rules t s = (.ok u,v)) (i : Nat) (rule : RuleDefinition)
    (found : rules[i]? = some rule) : Readable h clock (n + i) rule := by
  induction rules generalizing n t s i with
  | nil => simp at found
  | cons first rest ih =>
    have onward : Readable h clock n first ∧ ∃ next w,
        evaluateRules h settings clock transaction ids (n + 1) rest next w = (.ok u,v) := by
      rcases evaluateRules_cases h clock transaction ids n first rest t s with
        ⟨_,e,raised⟩ | ⟨readable,record,w,_,_,goes⟩ | ⟨readable,record,w,_,_,goes⟩
      · rw [raised settings] at ran
        cases ran
      · exact ⟨readable,_,w,(goes settings).symm.trans ran⟩
      · rw [goes settings,if_neg (by simp [through])] at ran
        exact ⟨readable,_,w,ran⟩
    obtain ⟨readable,next,w,later⟩ := onward
    cases i with
    | zero =>
      cases found
      exact readable
    | succ i =>
      have step := ih (n + 1) next w later i (by rwa [List.getElem?_cons_succ] at found)
      rwa [show n + 1 + i = n + (i + 1) by omega] at step

theorem raiseAction_block (action : RuleAction) : raiseAction action .block = .block := by
  cases action <;> rfl

-- Once an action blocks, no later rule changes it.
theorem evaluateRules_blocked (settings : EngineSettings) (rules : List RuleDefinition) (n : Nat) (t : Tally)
    (s : VelocityTracker) (blocked : t.overallAction = .block)
    (ran : evaluateRules h settings clock transaction ids n rules t s = (.ok u,v)) : u.overallAction = .block := by
  induction rules generalizing n t s with
  | nil => cases ran; exact blocked
  | cons rule rest ih =>
    rcases evaluateRules_cases h clock transaction ids n rule rest t s with
      ⟨_,e,raised⟩ | ⟨_,record,w,_,_,goes⟩ | ⟨_,record,w,_,_,goes⟩
    · rw [raised settings] at ran
      cases ran
    · rw [goes settings] at ran
      exact ih (n + 1) (t.add record) w blocked ran
    · rw [goes settings] at ran
      have stays : raiseAction rule.action t.overallAction = .block := by rw [blocked,raiseAction_block]
      split at ran
      · cases ran
        exact stays
      · exact ih (n + 1) (t.triggered rule record) w stays ran

-- The loop that stops at the first block has the action of the loop that goes on.
theorem evaluateRules_same_action (early late : EngineSettings) (through : late.shortCircuit = false)
    (rules : List RuleDefinition) (n : Nat) (t : Tally) (s : VelocityTracker)
    (whole : evaluateRules h late clock transaction ids n rules t s = (.ok u,v))
    (stopped : evaluateRules h early clock transaction ids n rules t s = (.ok w,x)) : w.overallAction = u.overallAction := by
  induction rules generalizing n t s with
  | nil => cases whole; cases stopped; rfl
  | cons rule rest ih =>
    rcases evaluateRules_cases h clock transaction ids n rule rest t s with
      ⟨_,e,raised⟩ | ⟨_,record,y,_,_,goes⟩ | ⟨_,record,y,_,_,goes⟩
    · rw [raised late] at whole
      cases whole
    · rw [goes late] at whole
      rw [goes early] at stopped
      exact ih (n + 1) (t.add record) y whole stopped
    · rw [goes late,if_neg (by simp [through])] at whole
      rw [goes early] at stopped
      split at stopped
      · rename_i stops
        cases stopped
        have blocks : (t.triggered rule record).overallAction = .block := by
          change raiseAction rule.action t.overallAction = .block
          rw [stops.2]
          rfl
        rw [evaluateRules_blocked h clock transaction ids late rest (n + 1) _ _ blocks whole]
        exact blocks
      · exact ih (n + 1) (t.triggered rule record) y whole stopped

-- The records are those of the rules in order, all of them without the early stop.
theorem evaluateRules_records (settings : EngineSettings) (rules : List RuleDefinition) (n : Nat) (t : Tally)
    (s : VelocityTracker) (ran : evaluateRules h settings clock transaction ids n rules t s = (.ok u,v)) :
    ∃ seen unseen records, rules = seen ++ unseen ∧ u.evaluations = t.evaluations ++ records ∧
      List.Forall₂ (RecordOf ids) seen records ∧ (settings.shortCircuit = false → unseen = []) := by
  induction rules generalizing n t s with
  | nil => cases ran; exact ⟨[],[],[],rfl,(List.append_nil _).symm,.nil,fun _ => rfl⟩
  | cons rule rest ih =>
    rcases evaluateRules_cases h clock transaction ids n rule rest t s with
      ⟨_,e,raised⟩ | ⟨_,record,w,stated,_,goes⟩ | ⟨_,record,w,stated,_,goes⟩
    · rw [raised settings] at ran
      cases ran
    · rw [goes settings] at ran
      obtain ⟨seen,unseen,records,split,made,stating,all⟩ := ih (n + 1) (t.add record) w ran
      refine ⟨rule :: seen,unseen,record :: records,by rw [split,List.cons_append],?_,.cons stated stating,all⟩
      rw [made]
      exact List.append_assoc _ [record] records
    · rw [goes settings] at ran
      split at ran
      · rename_i stops
        cases ran
        refine ⟨[rule],rest,[record],rfl,rfl,.cons stated .nil,fun through => ?_⟩
        rw [through] at stops
        cases stops.1
      · obtain ⟨seen,unseen,records,split,made,stating,all⟩ := ih (n + 1) (t.triggered rule record) w ran
        refine ⟨rule :: seen,unseen,record :: records,by rw [split,List.cons_append],?_,.cons stated stating,all⟩
        rw [made]
        exact List.append_assoc _ [record] records

-- The amount can be read as a number, and the card hashed where there is a device.
def Prepared : Prop :=
  (∃ amount, transactionAmount h transaction = .ok amount) ∧
    ((transaction.value "device_id").truthy = true → ∃ card, h.hash (transaction.getD "card_last_four" (.str "")) = .ok card)

theorem recordVelocity_prepared (accountId : Value) (s : VelocityTracker) :
    (∃ u, recordVelocity h clock transaction accountId s = (.ok (),u)) ↔ Prepared h transaction := by
  constructor
  · rintro ⟨u,ran⟩
    obtain ⟨amount,v,read,later⟩ := Effect.bind_returned ran
    refine ⟨⟨amount,Effect.ofExcept_returned read⟩,fun device => ?_⟩
    rw [Effect.modify_bind,if_pos device] at later
    obtain ⟨card,w,hashed,_⟩ := Effect.bind_returned later
    exact ⟨card,Effect.ofExcept_returned hashed⟩
  · rintro ⟨⟨amount,read⟩,hashes⟩
    rw [recordVelocity,Effect.ofExcept_bind _ s read,Effect.modify_bind]
    by_cases device : (transaction.value "device_id").truthy = true
    · obtain ⟨card,hashed⟩ := hashes device
      rw [if_pos device,Effect.ofExcept_bind _ _ hashed]
      exact ⟨_,rfl⟩
    · rw [if_neg device]
      exact ⟨_,rfl⟩

-- An evaluation returns when its events are recorded, the loop ends and, where there is
-- an audit trail, every record can be kept in it.
theorem evaluate_parts (uuid4 : String) (rules : List RuleDefinition) (s v : VelocityTracker) (r : RuleEngineResult) :
    evaluate h settings clock transaction uuid4 rules s = (.ok r,v) ↔
      ∃ u t, recordVelocity h clock transaction (identify uuid4 transaction).accountId s = (.ok (),u) ∧
        evaluateRules h settings clock transaction (identify uuid4 transaction) 0 rules .start u = (.ok t,v) ∧
        (settings.enableAudit = true → t.evaluations.all recordable = true) ∧ r = t.result (identify uuid4 transaction) := by
  constructor
  · intro ran
    obtain ⟨_,u,recorded,later⟩ := Effect.bind_returned ran
    obtain ⟨t,w,looped,last⟩ := Effect.bind_returned later
    split at last
    · cases last
    · rename_i kept
      cases last
      exact ⟨u,t,recorded,looped,by simpa using kept,rfl⟩
  · rintro ⟨u,t,recorded,looped,kept,rfl⟩
    rw [evaluate,Effect.bind_ok _ recorded,Effect.bind_ok _ looped,if_neg (by simpa using kept)]
    rfl

-- A result reports the aggregates of its records, which are those of a part of the rules
-- in order; the records of rules that raised make no difference.
def Reports (ids : Identified) (rules : List RuleDefinition) (r : RuleEngineResult) : Prop :=
  Aggregated r.allEvaluations r.triggeredRules r.totalRulesTriggered r.overallAction r.highestSeverity ∧
    Aggregated (r.allEvaluations.filter fun record => decide (record.outcome ≠ .error))
      r.triggeredRules r.totalRulesTriggered r.overallAction r.highestSeverity ∧
    ∃ seen, seen <+: rules ∧ List.Forall₂ (RecordOf ids) seen r.allEvaluations

theorem fired_without_errors (records : List RuleRecord) :
    fired (records.filter fun record => decide (record.outcome ≠ .error)) = fired records := by
  rw [fired,fired,List.filter_filter]
  apply List.filter_congr
  intro record _
  by_cases hit : record.outcome = .triggered <;> simp [hit]

theorem evaluateRules_reports (settings : EngineSettings) (rules : List RuleDefinition) (s : VelocityTracker)
    (ran : evaluateRules h settings clock transaction ids 0 rules .start s = (.ok t,v)) : Reports ids rules (t.result ids) := by
  have sums : t.Sums := evaluateRules_sums h clock transaction ids settings rules 0 .start s start_sums ran
  obtain ⟨seen,unseen,records,split,made,stating,_⟩ := evaluateRules_records h clock transaction ids settings rules 0 .start s ran
  refine ⟨sums,⟨?_,sums.count,sums.action,sums.highest⟩,seen,⟨unseen,split.symm⟩,?_⟩
  · exact sums.triggered.trans (fired_without_errors _).symm
  · change List.Forall₂ (RecordOf ids) seen t.evaluations
    rw [made]
    exact stating

-- Both settings report the aggregates, with one action.
def Consistent (audit : Bool) (uuid4 : String) (rules : List RuleDefinition) (s : VelocityTracker) : Prop :=
  ∃ on off v w, evaluate h ⟨true,audit⟩ clock transaction uuid4 rules s = (.ok on,v) ∧
    evaluate h ⟨false,audit⟩ clock transaction uuid4 rules s = (.ok off,w) ∧
    Reports (identify uuid4 transaction) rules on ∧ Reports (identify uuid4 transaction) rules off ∧
    on.overallAction = off.overallAction

-- The events can be recorded, the schedule of every enabled rule can be read when it is
-- checked, and with an audit trail the ids can be hashed.
def Evaluable (audit : Bool) (uuid4 : String) (rules : List RuleDefinition) : Prop :=
  Prepared h transaction ∧ (∀ n rule, rules[n]? = some rule → Readable h clock n rule) ∧
    (audit = true → ∀ rule ∈ rules, (identify uuid4 transaction).transactionId.hashable = true ∧ rule.id.hashable = true)

theorem record_recordable (stated : RecordOf ids rule record) :
    recordable record = true ↔ ids.transactionId.hashable = true ∧ rule.id.hashable = true := by
  obtain ⟨outcome,details,rfl⟩ := stated
  simp [recordable,ruleRecord]

theorem records_recordable (stating : List.Forall₂ (RecordOf ids) rules records) :
    records.all recordable = true ↔ ∀ rule ∈ rules, ids.transactionId.hashable = true ∧ rule.id.hashable = true := by
  induction stating with
  | nil => simp
  | cons stated _ ih => simp [ih,record_recordable ids stated]

theorem evaluation_exact (audit : Bool) (uuid4 : String) (rules : List RuleDefinition) (s : VelocityTracker) :
    Consistent h clock transaction audit uuid4 rules s ↔ Evaluable h clock transaction audit uuid4 rules := by
  constructor
  · rintro ⟨on,off,v,w,_,ran,_,_,_⟩
    obtain ⟨u,t,recorded,looped,kept,_⟩ := (evaluate_parts h _ clock transaction uuid4 rules s w off).mp ran
    obtain ⟨seen,unseen,records,split,made,stating,all⟩ := evaluateRules_records h clock transaction _ _ rules 0 .start u looped
    refine ⟨(recordVelocity_prepared h clock transaction _ s).mp ⟨u,recorded⟩,fun n rule found => ?_,fun audited => ?_⟩
    · have readable := evaluateRules_readable h clock transaction _ _ rfl rules 0 .start u looped n rule found
      rwa [Nat.zero_add] at readable
    · rw [all rfl,List.append_nil] at split
      subst split
      apply (records_recordable _ stating).mp
      have recordables := kept audited
      rw [made] at recordables
      exact recordables
  · rintro ⟨prepared,readable,hashable⟩
    obtain ⟨u,recorded⟩ := (recordVelocity_prepared h clock transaction (identify uuid4 transaction).accountId s).mpr prepared
    have everywhere : ∀ i rule, rules[i]? = some rule → Readable h clock (0 + i) rule := by
      intro i rule found
      rw [Nat.zero_add]
      exact readable i rule found
    have returns : ∀ stops : Bool, ∃ t v,
        evaluateRules h ⟨stops,audit⟩ clock transaction (identify uuid4 transaction) 0 rules .start u = (.ok t,v) ∧
        evaluate h ⟨stops,audit⟩ clock transaction uuid4 rules s = (.ok (t.result (identify uuid4 transaction)),v) := by
      intro stops
      obtain ⟨t,v,looped⟩ := evaluateRules_returns h clock transaction (identify uuid4 transaction) ⟨stops,audit⟩ rules 0 .start u
        everywhere
      refine ⟨t,v,looped,(evaluate_parts h _ clock transaction uuid4 rules s v _).mpr ⟨u,t,recorded,looped,fun audited => ?_,rfl⟩⟩
      obtain ⟨seen,unseen,records,split,made,stating,_⟩ := evaluateRules_records h clock transaction _ _ rules 0 .start u looped
      rw [made]
      apply (records_recordable _ stating).mpr
      intro rule member
      exact hashable audited rule (split ▸ List.mem_append_left _ member)
    obtain ⟨t,v,early,on⟩ := returns true
    obtain ⟨x,w,late,off⟩ := returns false
    exact ⟨_,_,v,w,on,off,evaluateRules_reports h clock transaction _ _ rules u early,
      evaluateRules_reports h clock transaction _ _ rules u late,
      evaluateRules_same_action h clock transaction _ _ _ rfl rules 0 .start u late early⟩

-- A library whose dates are texts it cannot read.
def plainHost : RulesHost where
  float v :=
    match v.number with
    | some x => .ok x
    | none => .error "could not convert to float"
  int v :=
    match v with
    | .int n => .ok n
    | _ => .error "invalid literal for int()"
  str v :=
    match v with
    | .str text => text
    | _ => ""
  lower text := text
  hash _ := .ok 0
  plus := PyFloat.exactly fun a b => a + b
  modulo _ _ := .ok (.finite 0)
  reMatch _ _ := .ok false
  fromisoformat _ := .error "Invalid isoformat string: 'soon'"
  zoneInfo _ := .missing
  recursionLimit := 1000

def stillClock : EvaluationClock := ⟨0,0,fun _ => 0,fun _ _ => 0⟩

def accountRule (id : String) (action : RuleAction) (schedule : Value) : RuleDefinition where
  id := .str id
  name := .str id
  description := .str ""
  version := .str "1.0.0"
  priority := .int 100
  enabled := .bool true
  severity := .high
  category := .str "general"
  condition := .dict [("field",.str "account_id"),("operator",.str "is_not_null")]
  action
  schedule
  tags := .list []

-- A schedule that cannot be read aborts the evaluation, also after a rule that blocks.
theorem unreadable_schedule_aborts :
    let rules := [accountRule "r-1" .block .none,accountRule "r-2" .flag (.dict [("start_date",.str "soon")])]
    let transaction : Record := .ofList [("transaction_id",.str "t-1"),("account_id",.str "a-1")]
    (evaluate plainHost ⟨true,true⟩ stillClock transaction "u-1" rules ⟨.empty,0⟩).1.map (fun r => r.overallAction) = .ok .block ∧
      ¬Consistent plainHost stillClock transaction true "u-1" rules ⟨.empty,0⟩ := by
  refine ⟨rfl,?_⟩
  rintro ⟨_,off,_,w,_,ran,_⟩
  have raised : (evaluate plainHost ⟨false,true⟩ stillClock (.ofList [("transaction_id",.str "t-1"),("account_id",.str "a-1")]) "u-1"
      [accountRule "r-1" .block .none,accountRule "r-2" .flag (.dict [("start_date",.str "soon")])] ⟨.empty,0⟩).1 =
        .error "Invalid isoformat string: 'soon'" := rfl
  rw [ran] at raised
  cases raised

end RulesEngine
end RiskPulse
