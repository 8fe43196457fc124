import RiskPulse.RuleAggregation
import RiskPulse.Library.ShortCircuit

namespace RiskPulse
namespace RulesEngine
open ShortCircuit (Tree Reordered holds first first_onward first_decided first_failed)

def entryOf (key : String) (entries : List (String × Value)) : Value := (OrderedDict.lookupEntry key entries).getD .none

-- The types of condition that are no comparison of a field.
def typed : Value → Bool
  | .str "velocity" => true
  | .str "cumulative_amount" => true
  | .str "geo_velocity" => true
  | .str "cardinality" => true
  | .str "time_window" => true
  | _ => false

def composite : Value → Bool
  | .str "and" => true
  | .str "or" => true
  | _ => false

-- The dictionary of a comparison, and what that of a composite condition has besides its
-- operator and its conditions.
structure FieldComparison where
  entries : List (String × Value)
  untyped : typed (entryOf "type" entries) = false
  simple : composite (entryOf "operator" entries) = false

structure Remarks where
  entries : List (String × Value)
  untyped : typed (entryOf "type" entries) = false

abbrev ConditionTree := Tree Remarks FieldComparison

def operatorName (stop : Bool) : String := if stop then "or" else "and"

mutual
def toValue : ConditionTree → Value
  | .leaf comparison => .dict comparison.entries
  | .node stop remarks conditions =>
    .dict (("operator",.str (operatorName stop)) :: ("conditions",.list (toValues conditions)) :: remarks.entries)
def toValues : List ConditionTree → List Value
  | [] => []
  | condition :: rest => toValue condition :: toValues rest
end

theorem toValues_map (conditions : List ConditionTree) : toValues conditions = conditions.map toValue := by
  induction conditions with
  | nil => rfl
  | cons condition rest ih => rw [toValues,ih,List.map_cons]

variable (h : RulesHost) (transaction : Record)

def compare (comparison : FieldComparison) : Except String Bool :=
  evaluateFieldCondition h (.dict comparison.entries) transaction

def tooDeep : String := "maximum recursion depth exceeded"

section Evaluation
variable (clock : Nat → Rat) (depth : Nat) (s : VelocityTracker)

-- A loop that takes the conditions in order, by induction on them.
theorem joined_first {value : ConditionTree → Except String Bool} {run : Value → Effect VelocityTracker Bool} {stop : Bool}
    (joined : List Value → Effect VelocityTracker Bool) (empty : joined [] = pure !stop)
    (more : ∀ condition rest, joined (condition :: rest) = run condition >>= fun holds => if holds = stop then pure stop else joined rest)
    (conditions : List ConditionTree) (each : ∀ condition ∈ conditions, ∀ s, run (toValue condition) s = (value condition,s)) :
    joined (conditions.map toValue) s = (first stop value conditions,s) := by
  induction conditions with
  | nil =>
    rw [List.map_nil,empty]
    rfl
  | cons condition rest ih =>
    have here := each condition List.mem_cons_self s
    have later := ih fun other member => each other (List.mem_cons_of_mem _ member)
    rw [List.map_cons,more]
    rcases found : value condition with e | b
    · rw [found] at here
      rw [Effect.bind_error _ here,first_failed condition rest found]
    · rw [found] at here
      rw [Effect.bind_ok _ here]
      by_cases decided : b = stop
      · subst decided
        rw [if_pos rfl,first_decided condition rest found]
        rfl
      · rw [Bool.eq_not.mpr decided] at found
        rw [if_neg decided,first_onward condition rest found]
        exact later

theorem allOf_first {value : ConditionTree → Except String Bool} {run : Value → Effect VelocityTracker Bool} (conditions : List ConditionTree)
    (each : ∀ condition ∈ conditions, ∀ s, run (toValue condition) s = (value condition,s)) :
    allOf run (conditions.map toValue) s = (first false value conditions,s) := by
  refine joined_first s (allOf run) rfl ?_ conditions each
  intro condition rest
  exact bind_congr fun holds => by cases holds <;> rfl

theorem anyOf_first {value : ConditionTree → Except String Bool} {run : Value → Effect VelocityTracker Bool} (conditions : List ConditionTree)
    (each : ∀ condition ∈ conditions, ∀ s, run (toValue condition) s = (value condition,s)) :
    anyOf run (conditions.map toValue) s = (first true value conditions,s) := by
  refine joined_first s (anyOf run) rfl ?_ conditions each
  intro condition rest
  exact bind_congr fun holds => by cases holds <;> rfl

theorem untyped_match (type : Value) (velocity amount geo cardinality window rest : α) : typed type = false →
    (match type with
      | .str "velocity" => velocity
      | .str "cumulative_amount" => amount
      | .str "geo_velocity" => geo
      | .str "cardinality" => cardinality
      | .str "time_window" => window
      | _ => rest) = rest := by
  intro untyped
  split
  next => cases untyped
  next => cases untyped
  next => cases untyped
  next => cases untyped
  next => cases untyped
  next => rfl

-- A condition of no special type is a composite one or the comparison of a field.
theorem evaluateCondition_untyped (entries : List (String × Value)) (untyped : typed (entryOf "type" entries) = false) :
    evaluateCondition h clock transaction (depth + 1) (.dict entries) s =
      (match entryOf "operator" entries with
      | .str "and" => do
        let conditions ← Effect.ofExcept ((Value.dict entries).attributeGet "conditions" (.list []) >>= Value.iterate)
        allOf (evaluateCondition h clock transaction depth) conditions
      | .str "or" => do
        let conditions ← Effect.ofExcept ((Value.dict entries).attributeGet "conditions" (.list []) >>= Value.iterate)
        anyOf (evaluateCondition h clock transaction depth) conditions
      | _ => Effect.ofExcept (evaluateFieldCondition h (.dict entries) transaction)) s := by
  have type : (Value.dict entries).attributeGet "type" .none = .ok (entryOf "type" entries) := rfl
  have operator : (Value.dict entries).attributeGet "operator" .none = .ok (entryOf "operator" entries) := rfl
  rw [evaluateCondition,Effect.ofExcept_bind _ s type]
  exact (congrFun (untyped_match _ _ _ _ _ _ _ untyped) s).trans (Effect.ofExcept_bind _ s operator)

theorem evaluateCondition_tree (t : ConditionTree) :
    evaluateCondition h clock transaction depth (toValue t) s = (ShortCircuit.evaluate (compare h transaction) tooDeep depth t,s) := by
  induction depth generalizing t s with
  | zero => rfl
  | succ depth ih =>
    cases t with
    | leaf comparison =>
      rw [toValue,evaluateCondition_untyped h transaction clock depth s _ comparison.untyped]
      have simple := comparison.simple
      unfold composite at simple
      split at simple
      next => cases simple
      next => cases simple
      next => rfl
    | node stop remarks conditions =>
      have untyped : typed (entryOf "type" (("operator",.str (operatorName stop)) :: ("conditions",.list (toValues conditions)) :: remarks.entries)) =
        false := remarks.untyped
      have passed := evaluateCondition_untyped h transaction clock depth s _ untyped
      rw [toValues_map] at passed
      rw [toValue,toValues_map]
      refine passed.trans ?_
      cases stop with
      | true => exact anyOf_first s conditions fun condition _ t => ih t condition
      | false => exact allOf_first s conditions fun condition _ t => ih t condition

end Evaluation
-- The outcome of a rule whose condition is tested.
def outcomeOf : Except String Bool → EvaluationOutcome
  | .ok true => .triggered
  | .ok false => .passed
  | .error _ => .error

theorem outcomeOf_triggered (x : Except String Bool) : outcomeOf x = .triggered ↔ x = .ok true := by
  rcases x with e | b
  · simp [outcomeOf]
  · cases b with
    | true => simp [outcomeOf]
    | false => simp [outcomeOf]

def truth (t : ConditionTree) : Except String Bool := ShortCircuit.evaluate (compare h transaction) tooDeep h.recursionLimit t

section Rule
variable (clock : EvaluationClock) (ids : Identified) (n : Nat) (rule : RuleDefinition) (s : VelocityTracker)

def withTree (rule : RuleDefinition) (t : ConditionTree) : RuleDefinition := {rule with condition := toValue t}

theorem testRule_tree (t : ConditionTree) : ∃ details, testRule h clock transaction ids n (withTree rule t) s =
    (.ok (ruleRecord ids rule (outcomeOf (truth h transaction t)) details),{s with readings := 0}) := by
  have ran : evaluateCondition h (clock.condition n) transaction h.recursionLimit (withTree rule t).condition {s with readings := 0} =
    (truth h transaction t,{s with readings := 0}) := evaluateCondition_tree h transaction _ _ _ t
  rcases found : truth h transaction t with e | b
  · refine ⟨[("error",.str e)],Effect.attempt_error _ ?_⟩
    rw [Effect.modify_bind]
    exact Effect.bind_error _ (by rw [ran,found])
  · refine ⟨[("condition",toValue t)],Effect.attempt_ok _ ?_⟩
    rw [found] at ran
    rw [Effect.modify_bind,Effect.bind_ok _ ran]
    cases b with
    | true => rfl
    | false => rfl

-- What the loop's body makes of the rule: it raises, or it gives a record.
theorem evaluateRule_tree (s : VelocityTracker) : (∀ t, ∃ e, evaluateRule h clock transaction ids n (withTree rule t) s = (.error e,s)) ∨
    (∃ details v, ∀ t, evaluateRule h clock transaction ids n (withTree rule t) s = (.ok (ruleRecord ids rule .skipped details),v)) ∨
    ∃ v, ∀ t, ∃ details, evaluateRule h clock transaction ids n (withTree rule t) s =
      (.ok (ruleRecord ids rule (outcomeOf (truth h transaction t)) details),v) := by
  by_cases enabled : rule.enabled.truthy = true
  · have body : ∀ t, evaluateRule h clock transaction ids n (withTree rule t) = _ := fun t => if_pos enabled
    rcases checked : (if rule.schedule.truthy then isScheduleActive h rule.schedule (clock.schedule n) else .ok true) with e | active
    · refine .inl fun t => ⟨e,?_⟩
      rw [body]
      exact Effect.ofExcept_failed _ s checked
    · have goes := fun t => (congrFun (body t) s).trans (Effect.ofExcept_bind _ s checked)
      cases active with
      | false => exact .inr (.inl ⟨_,s,goes⟩)
      | true =>
        refine .inr (.inr ⟨{s with readings := 0},fun t => ?_⟩)
        obtain ⟨details,tested⟩ := testRule_tree h transaction clock ids n rule s t
        exact ⟨details,(goes t).trans tested⟩
  · exact .inr (.inl ⟨_,s,fun t => congrFun (if_neg enabled) s⟩)

end Rule
-- What a later rule and the audit trail see of a record.
def shape (record : RuleRecord) : Bool × Bool := (decide (record.outcome = .triggered),recordable record)

def Alike (x y : Except String Tally × VelocityTracker) : Prop :=
  match x.1,y.1 with
  | .ok t,.ok u => t.evaluations.map shape = u.evaluations.map shape
  | .error _,.error _ => True
  | _,_ => False

section Loop
variable (settings : EngineSettings) (clock : EvaluationClock) (ids : Identified) {n : Nat} {rule : RuleDefinition} {s v : VelocityTracker}

def next (rule : RuleDefinition) (record : RuleRecord) (t : Tally) : Tally :=
  if record.outcome = .triggered then t.triggered rule record else t.add record

def stops (rule : RuleDefinition) (record : RuleRecord) : Bool :=
  decide (record.outcome = .triggered) && settings.shortCircuit && decide (rule.action = .block)

theorem next_evaluations (rule : RuleDefinition) (record : RuleRecord) (t : Tally) :
    (next rule record t).evaluations = t.evaluations ++ [record] := by
  unfold next
  split
  · rfl
  · rfl

theorem evaluateRules_ok (rest : List RuleDefinition) (t : Tally) (ran : evaluateRule h clock transaction ids n rule s = (.ok record,v)) :
    evaluateRules h settings clock transaction ids n (rule :: rest) t s =
      if stops settings rule record then (.ok {next rule record t with shortCircuited := true},v)
      else evaluateRules h settings clock transaction ids (n + 1) rest (next rule record t) v := by
  rw [evaluateRules,Effect.bind_ok _ ran]
  unfold next stops
  by_cases triggered : record.outcome = .triggered
  · simp only [triggered,if_true,decide_true,Bool.true_and,Bool.and_eq_true,decide_eq_true_eq]
    split
    · rfl
    · rfl
  · simp only [triggered,if_false,decide_false,Bool.false_and,Bool.false_eq_true]

theorem evaluateRules_raised (rest : List RuleDefinition) (t : Tally) (ran : evaluateRule h clock transaction ids n rule s = (.error e,v)) :
    evaluateRules h settings clock transaction ids n (rule :: rest) t s = (.error e,v) := Effect.bind_error _ ran

-- The rules after it do not see the records already made.
theorem rest_alike (rules : List RuleDefinition) (n : Nat) (t u : Tally) (s : VelocityTracker)
    (same : t.evaluations.map shape = u.evaluations.map shape) :
    Alike (evaluateRules h settings clock transaction ids n rules t s) (evaluateRules h settings clock transaction ids n rules u s) := by
  induction rules generalizing n t u s with
  | nil => exact same
  | cons rule rest ih =>
    rcases ran : evaluateRule h clock transaction ids n rule s with ⟨e | record,v⟩
    · rw [evaluateRules_raised h transaction settings clock ids rest t ran,evaluateRules_raised h transaction settings clock ids rest u ran]
      trivial
    · have added : (next rule record t).evaluations.map shape = (next rule record u).evaluations.map shape := by
        rw [next_evaluations,next_evaluations,List.map_append,List.map_append,same]
      rw [evaluateRules_ok h transaction settings clock ids rest t ran,evaluateRules_ok h transaction settings clock ids rest u ran]
      split
      · exact added
      · exact ih (n + 1) _ _ v added

-- Two trees that trigger alike leave alike evaluations.
-- Two rules that leave records of the same shape are followed by the same.
theorem head_alike (rule : RuleDefinition) (after : List RuleDefinition) (one other : ConditionTree) (n : Nat) (t : Tally) (s : VelocityTracker)
    (first : evaluateRule h clock transaction ids n (withTree rule one) s = (.ok record,v))
    (second : evaluateRule h clock transaction ids n (withTree rule other) s = (.ok record',v)) (shapes : shape record = shape record') :
    Alike (evaluateRules h settings clock transaction ids n (withTree rule one :: after) t s)
      (evaluateRules h settings clock transaction ids n (withTree rule other :: after) t s) := by
  have added : (next (withTree rule one) record t).evaluations.map shape = (next (withTree rule other) record' t).evaluations.map shape := by
    rw [next_evaluations,next_evaluations,List.map_append,List.map_append,List.map_singleton,List.map_singleton,shapes]
  have stopping : stops settings (withTree rule one) record = stops settings (withTree rule other) record' := by
    unfold stops
    rw [show decide (record.outcome = .triggered) = decide (record'.outcome = .triggered) from congrArg Prod.fst shapes]
    rfl
  rw [evaluateRules_ok h transaction settings clock ids after t first,evaluateRules_ok h transaction settings clock ids after t second,stopping]
  split
  · exact added
  · exact rest_alike h transaction settings clock ids after (n + 1) _ _ v added

theorem trees_alike (rule : RuleDefinition) (after : List RuleDefinition) (one other : ConditionTree)
    (same : truth h transaction one = .ok true ↔ truth h transaction other = .ok true) (before : List RuleDefinition) (n : Nat) (t : Tally)
    (s : VelocityTracker) :
    Alike (evaluateRules h settings clock transaction ids n (before ++ withTree rule one :: after) t s)
      (evaluateRules h settings clock transaction ids n (before ++ withTree rule other :: after) t s) := by
  induction before generalizing n t s with
  | nil =>
    rw [List.nil_append,List.nil_append]
    rcases evaluateRule_tree h transaction clock ids n rule s with raises | ⟨details,v,skips⟩ | ⟨v,tests⟩
    · obtain ⟨e,first⟩ := raises one
      obtain ⟨e',second⟩ := raises other
      rw [evaluateRules_raised h transaction settings clock ids after t first,
        evaluateRules_raised h transaction settings clock ids after t second]
      trivial
    · exact head_alike h transaction settings clock ids rule after one other n t s (skips one) (skips other) rfl
    · obtain ⟨details,first⟩ := tests one
      obtain ⟨details',second⟩ := tests other
      refine head_alike h transaction settings clock ids rule after one other n t s first second ?_
      have outcomes : decide (outcomeOf (truth h transaction one) = .triggered) = decide (outcomeOf (truth h transaction other) = .triggered) := by
        rw [decide_eq_decide,outcomeOf_triggered,outcomeOf_triggered]
        exact same
      exact congrArg (fun b => (b,recordable (ruleRecord ids rule .passed []))) outcomes
  | cons first before ih =>
    rw [List.cons_append,List.cons_append]
    rcases ran : evaluateRule h clock transaction ids n first s with ⟨e | record,v⟩
    · rw [evaluateRules_raised h transaction settings clock ids _ t ran,evaluateRules_raised h transaction settings clock ids _ t ran]
      trivial
    · rw [evaluateRules_ok h transaction settings clock ids _ t ran,evaluateRules_ok h transaction settings clock ids _ t ran]
      split
      · rfl
      · exact ih (n + 1) _ v

-- The record in the rule's place is the rule's own.
theorem head_record (first : RuleDefinition) (after : List RuleDefinition) (n : Nat) (t : Tally) (s : VelocityTracker)
    (here : evaluateRule h clock transaction ids n first s = (.ok made,w))
    (ran : evaluateRules h settings clock transaction ids n (first :: after) t s = (.ok u,v))
    (found : u.evaluations[t.evaluations.length]? = some record) : record = made := by
  rw [evaluateRules_ok h transaction settings clock ids after t here] at ran
  have prefixed : ∃ records, u.evaluations = t.evaluations ++ [made] ++ records := by
    split at ran
    · cases ran
      exact ⟨[],by rw [List.append_nil]; exact next_evaluations _ made t⟩
    · obtain ⟨_,_,records,_,made,_⟩ := evaluateRules_records h clock transaction ids settings after _ _ w ran
      exact ⟨records,by rw [made,next_evaluations]⟩
  obtain ⟨records,whole⟩ := prefixed
  rw [whole,List.append_assoc,List.getElem?_append_right (Nat.le_refl _),Nat.sub_self] at found
  exact (Option.some.inj found).symm

theorem rule_outcome (rule : RuleDefinition) (tree : ConditionTree) (after before : List RuleDefinition) (n : Nat) (t : Tally) (s : VelocityTracker)
    (ran : evaluateRules h settings clock transaction ids n (before ++ withTree rule tree :: after) t s = (.ok u,v))
    (found : u.evaluations[t.evaluations.length + before.length]? = some record) :
    record.outcome = .skipped ∨ record.outcome = outcomeOf (truth h transaction tree) := by
  induction before generalizing n t s with
  | nil =>
    rw [List.nil_append] at ran
    rcases evaluateRule_tree h transaction clock ids n rule s with raises | ⟨details,w,skips⟩ | ⟨w,tests⟩
    · obtain ⟨e,first⟩ := raises tree
      rw [evaluateRules_raised h transaction settings clock ids after t first] at ran
      cases ran
    · rw [head_record h transaction settings clock ids _ after n t s (skips tree) ran found]
      exact .inl rfl
    · obtain ⟨details,tested⟩ := tests tree
      rw [head_record h transaction settings clock ids _ after n t s tested ran found]
      exact .inr rfl
  | cons first before ih =>
    rw [List.cons_append] at ran
    rcases here : evaluateRule h clock transaction ids n first s with ⟨e | made,w⟩
    · rw [evaluateRules_raised h transaction settings clock ids _ t here] at ran
      cases ran
    · have longer : (next first made t).evaluations.length = t.evaluations.length + 1 := by
        rw [next_evaluations,List.length_append,List.length_singleton]
      rw [evaluateRules_ok h transaction settings clock ids _ t here] at ran
      split at ran
      · cases ran
        have short : (next first made t).evaluations[t.evaluations.length + (first :: before).length]? = none := by
          apply List.getElem?_eq_none
          rw [longer,List.length_cons]
          omega
        rw [short] at found
        cases found
      · apply ih (n + 1) _ w ran
        rw [longer,Nat.add_right_comm]
        exact found

end Loop
-- An evaluation of an engine in which the rule has its place among others.
structure EngineCall where
  settings : EngineSettings
  clock : EvaluationClock
  uuid4 : String
  before : List RuleDefinition
  rule : RuleDefinition
  after : List RuleDefinition
  state : VelocityTracker

def evaluated (call : EngineCall) (t : ConditionTree) : Except String RuleEngineResult × VelocityTracker :=
  evaluate h call.settings call.clock transaction call.uuid4 (call.before ++ withTree call.rule t :: call.after) call.state

-- The outcome reported for the rule with the tree, when the evaluation returns and has
-- come to it.
def reported (call : EngineCall) (t : ConditionTree) : Option EvaluationOutcome :=
  (evaluated h transaction call t).1.toOption.bind fun result => result.allEvaluations[call.before.length]?.map fun record => record.outcome

-- A sub-condition of a rule's condition is true.
def SubTrue (t : ConditionTree) : Prop :=
  ∃ depth, h.recursionLimit = depth + 1 ∧ ∀ clock s, (evaluateCondition h clock transaction depth (toValue t) s).1 = .ok true

-- Whatever the order of the sub-conditions the rule is triggered alike, and where its
-- condition is an or-node with a true sub-condition it is triggered when it is tested.
structure BooleanSemantics (t : ConditionTree) : Prop where
  orderFree : ∀ call u, Reordered t u → (reported h transaction call u = some .triggered ↔ reported h transaction call t = some .triggered)
  disjunction : ∀ remarks conditions condition, t = .node true remarks conditions → condition ∈ conditions → SubTrue h transaction condition →
    ∀ call outcome, reported h transaction call t = some outcome → outcome = .skipped ∨ outcome = .triggered

-- If the tree is true when what cannot be evaluated counts as false, everything in it can
-- be evaluated.
def Determined (t : ConditionTree) : Prop :=
  holds (compare h transaction) h.recursionLimit t = true → ShortCircuit.Evaluable (compare h transaction) h.recursionLimit t

section Engine
variable {h transaction}

theorem reported_some (call : EngineCall) (t : ConditionTree) : reported h transaction call t = some outcome ↔
    ∃ u made v record, recordVelocity h call.clock transaction (identify call.uuid4 transaction).accountId call.state = (.ok (),u) ∧
      evaluateRules h call.settings call.clock transaction (identify call.uuid4 transaction) 0
        (call.before ++ withTree call.rule t :: call.after) .start u = (.ok made,v) ∧
      (call.settings.enableAudit = true → made.evaluations.all recordable = true) ∧
      made.evaluations[call.before.length]? = some record ∧ record.outcome = outcome := by
  constructor
  · intro told
    obtain ⟨result,came,there⟩ := Option.bind_eq_some_iff.mp told
    obtain ⟨record,found,is⟩ := Option.map_eq_some_iff.mp there
    rcases ran : evaluated h transaction call t with ⟨e | r,v⟩
    · rw [ran] at came
      cases came
    · rw [ran] at came
      cases came
      obtain ⟨u,made,recorded,looped,kept,rfl⟩ := (evaluate_parts h call.settings call.clock transaction call.uuid4 _ call.state v result).mp ran
      exact ⟨u,made,v,record,recorded,looped,kept,found,is⟩
  · rintro ⟨u,made,v,record,recorded,looped,kept,found,is⟩
    have ran := (evaluate_parts h call.settings call.clock transaction call.uuid4 _ call.state v _).mpr ⟨u,made,recorded,looped,kept,rfl⟩
    rw [reported,evaluated,ran]
    exact Option.map_eq_some_iff.mpr ⟨record,found,is⟩

theorem shapes_recordable (records : List RuleRecord) : records.all recordable = (records.map shape).all fun pair => pair.2 := by
  rw [List.all_map]
  rfl

-- What triggers alike is reported alike.
theorem reported_alike (call : EngineCall) (one other : ConditionTree)
    (same : truth h transaction one = .ok true ↔ truth h transaction other = .ok true) (told : reported h transaction call one = some .triggered) :
    reported h transaction call other = some .triggered := by
  obtain ⟨u,made,v,record,recorded,looped,kept,found,is⟩ := (reported_some call one).mp told
  have alike := trees_alike h transaction call.settings call.clock (identify call.uuid4 transaction) call.rule call.after one other same call.before 0 .start u
  rw [looped] at alike
  rcases again : evaluateRules h call.settings call.clock transaction (identify call.uuid4 transaction) 0
      (call.before ++ withTree call.rule other :: call.after) .start u with ⟨e | made',w⟩
  · rw [again] at alike
    cases alike
  · rw [again] at alike
    have shapes : made.evaluations.map shape = made'.evaluations.map shape := alike
    have there : (made'.evaluations.map shape)[call.before.length]? = some (shape record) := by
      rw [← shapes,List.getElem?_map,found]
      rfl
    rw [List.getElem?_map] at there
    obtain ⟨record',found',form⟩ := Option.map_eq_some_iff.mp there
    have triggered : decide (record'.outcome = .triggered) = decide (record.outcome = .triggered) := congrArg Prod.fst form
    refine (reported_some call other).mpr ⟨u,made',w,record',recorded,again,fun audited => ?_,found',?_⟩
    · rw [shapes_recordable,← shapes,← shapes_recordable]
      exact kept audited
    · rw [is] at triggered
      exact of_decide_eq_true triggered

theorem reported_outcome (call : EngineCall) (t : ConditionTree) (told : reported h transaction call t = some outcome) :
    outcome = .skipped ∨ outcome = outcomeOf (truth h transaction t) := by
  obtain ⟨u,made,v,record,_,looped,_,found,rfl⟩ := (reported_some call t).mp told
  apply rule_outcome h transaction call.settings call.clock _ call.rule t call.after call.before 0 .start u looped
  rw [show Tally.start.evaluations.length = 0 from rfl,Nat.zero_add]
  exact found

-- An engine with the rule alone.
def aloneCall : EngineCall := ⟨⟨false,false⟩,stillClock,"",[],accountRule "r-1" .block .none,[],⟨.empty,0⟩⟩

theorem reported_alone (t : ConditionTree) (prepared : Prepared h transaction) :
    reported h transaction aloneCall t = some (outcomeOf (truth h transaction t)) := by
  obtain ⟨u,recorded⟩ := (recordVelocity_prepared h stillClock transaction (identify "" transaction).accountId ⟨.empty,0⟩).mpr prepared
  obtain ⟨details,tested⟩ := testRule_tree h transaction stillClock (identify "" transaction) 0 aloneCall.rule u t
  have ran : evaluateRule h stillClock transaction (identify "" transaction) 0 (withTree aloneCall.rule t) u = _ := tested
  have looped := evaluateRules_ok h transaction ⟨false,false⟩ stillClock (identify "" transaction) [] .start ran
  rw [if_neg (by simp [stops])] at looped
  have made := next_evaluations (withTree aloneCall.rule t) (ruleRecord (identify "" transaction) aloneCall.rule (outcomeOf (truth h transaction t)) details) .start
  refine (reported_some aloneCall t).mpr ⟨u,_,_,ruleRecord (identify "" transaction) aloneCall.rule (outcomeOf (truth h transaction t)) details,
    recorded,looped,fun audited => (by cases audited),?_,rfl⟩
  exact congrArg (fun records : List RuleRecord => records[0]?) made

theorem subTrue_holds (remarks : Remarks) (meets : SubTrue h transaction condition) (member : condition ∈ conditions) :
    holds (compare h transaction) h.recursionLimit (.node true remarks conditions) = true := by
  obtain ⟨depth,limit,came⟩ := meets
  have evaluated := came (fun _ => 0) ⟨.empty,0⟩
  rw [evaluateCondition_tree] at evaluated
  rw [limit,ShortCircuit.holds_node]
  exact ⟨condition,member,ShortCircuit.evaluate_holds depth condition evaluated⟩

-- Order makes no difference exactly when no event is recorded, so that no rule is
-- reported, or the condition is determined.
theorem boolean_semantics (h : RulesHost) (transaction : Record) (t : ConditionTree) :
    BooleanSemantics h transaction t ↔ (Prepared h transaction → Determined h transaction t) := by
  constructor
  · intro semantics prepared
    apply (ShortCircuit.order_free tooDeep h.recursionLimit t).mp
    intro u same
    have free := semantics.orderFree aloneCall u same
    rw [reported_alone u prepared,reported_alone t prepared,Option.some_inj,Option.some_inj,outcomeOf_triggered,outcomeOf_triggered] at free
    exact free
  · intro determined
    have prepares : ∀ call u outcome, reported h transaction call u = some outcome → Determined h transaction t := by
      intro call u outcome told
      obtain ⟨v,_,_,_,recorded,_⟩ := (reported_some call u).mp told
      exact determined ((recordVelocity_prepared h call.clock transaction _ call.state).mp ⟨v,recorded⟩)
    constructor
    · intro call u same
      constructor
      · intro told
        have free := (ShortCircuit.order_free tooDeep h.recursionLimit t).mpr (prepares call u _ told) u same
        exact reported_alike call u t free told
      · intro told
        have free := (ShortCircuit.order_free tooDeep h.recursionLimit t).mpr (prepares call t _ told) u same
        exact reported_alike call t u free.symm told
    · intro remarks conditions condition is member meets call outcome told
      subst is
      have truly := subTrue_holds remarks meets member
      have can := prepares call _ _ told truly
      have whole : truth h transaction (.node true remarks conditions) = .ok true :=
        (ShortCircuit.evaluate_evaluable h.recursionLimit _ can).trans (congrArg Except.ok truly)
      have outcomes := reported_outcome call _ told
      rwa [whole] at outcomes

end Engine

def comparison (field operator : String) (value : Value) (simple : composite (.str operator) = false) : FieldComparison where
  entries := [("field",.str field),("operator",.str operator),("value",value)]
  untyped := rfl
  simple := simple

def noMerchant : ConditionTree := .leaf (comparison "merchant_id" "is_null" .none rfl)

def bare : Remarks := ⟨[],rfl⟩

def riskCode : ConditionTree := .leaf (comparison "risk_code" "greater_than" (.int 5) rfl)

-- A transaction without a merchant whose risk code is no number.
def unknownRisk : Record := .ofList [("transaction_id",.str "t-1"),("account_id",.str "a-1"),("risk_code",.str "n/a")]

theorem rule_disabled_by_order :
    reported plainHost unknownRisk aloneCall (.node true bare [riskCode,noMerchant]) = some .error ∧
      reported plainHost unknownRisk aloneCall (.node true bare [noMerchant,riskCode]) = some .triggered ∧
      ¬BooleanSemantics plainHost unknownRisk (.node true bare [riskCode,noMerchant]) := by
  have failing : reported plainHost unknownRisk aloneCall (.node true bare [riskCode,noMerchant]) = some .error := rfl
  have triggering : reported plainHost unknownRisk aloneCall (.node true bare [noMerchant,riskCode]) = some .triggered := rfl
  refine ⟨failing,triggering,?_⟩
  intro semantics
  have swapped : Reordered (.node true bare [riskCode,noMerchant]) (.node true bare [noMerchant,riskCode]) :=
    .node true bare (.cons (.refl _) (.cons (.refl _) .nil)) (.swap _ _ _)
  have told := (semantics.orderFree aloneCall _ swapped).mp triggering
  rw [failing] at told
  cases told

end RulesEngine
end RiskPulse
