import RiskPulse.Library.FallibleSort
import RiskPulse.Library.Runs
import RiskPulse.RuleConditions

namespace RiskPulse

inductive RuleError where
  | keyError (key : String)
  | valueError (message : String)
  | typeError (message : String)
  | fileNotFound
  | yamlError (message : String)
  deriving DecidableEq

namespace Value

-- The key a value is in a dict, where values that compare equal are one; none for a
-- value that cannot be hashed.
def dictKey (v : Value) : Option Value :=
  match v with
  | .list _ | .dict _ => Option.none
  | .datetime wall (some offset) => some (.datetime (wall - offset * 1000000) (some 0))
  | _ =>
    match v.number with
    | some x => some (.float x)
    | Option.none => some v

-- Python's <, which raises for values of different kinds and for those without an order.
mutual
def less : Value → Value → Except RuleError Bool
  | .str a,.str b => .ok (decide (a < b))
  | .bytes a,.bytes b => .ok (decide (a < b))
  | .datetime a Option.none,.datetime b Option.none => .ok (decide (a < b))
  | .datetime a (some p),.datetime b (some q) => .ok (decide (a - p * 1000000 < b - q * 1000000))
  | .list a,.list b => lessItems a b
  | a,b =>
    match a.number,b.number with
    | some x,some y => .ok (y.greater x)
    | _,_ => .error (.typeError "'<' not supported between instances")
def lessItems : List Value → List Value → Except RuleError Bool
  | _,[] => .ok false
  | [],_ :: _ => .ok true
  | a :: as,b :: bs => if equals a b then lessItems as bs else less a b
end

end Value

structure RuleStore where
  rules : List RuleDefinition
  rulesById : OrderedDict Value RuleDefinition
  configHash : String

def RuleStore.start : RuleStore := ⟨[],.empty,""⟩

-- What the rules file holds: a document has the digest of its text.
inductive RulesFile where
  | missing
  | invalid (message : String)
  | content (digest : String) (data : Value)

namespace RulesEngine
open FallibleSort

def severityOf (v : Value) : Except RuleError RuleSeverity :=
  match v with
  | .str "low" => .ok .low
  | .str "medium" => .ok .medium
  | .str "high" => .ok .high
  | .str "critical" => .ok .critical
  | _ => .error (.valueError "is not a valid RuleSeverity")

def actionOf (v : Value) : Except RuleError RuleAction :=
  match v with
  | .str "block" => .ok .block
  | .str "flag" => .ok .flag
  | .str "allow" => .ok .allow
  | _ => .error (.valueError "is not a valid RuleAction")

def required (entries : List (String × Value)) (key : String) : Except RuleError Value :=
  match OrderedDict.lookupEntry key entries with
  | some v => .ok v
  | none => .error (.keyError key)

-- A loaded rule is in the category general by default, an added one in custom.
def ruleOf (category : String) (data : Value) : Except RuleError RuleDefinition :=
  match data with
  | .dict entries => do
    let get (key : String) (default : Value) : Value := (OrderedDict.lookupEntry key entries).getD default
    let id ← required entries "id"
    let name ← required entries "name"
    let severity ← severityOf (get "severity" (.str "medium"))
    let condition ← required entries "condition"
    let action ← actionOf (get "action" (.str "flag"))
    return {
      id
      name
      description := get "description" (.str "")
      version := get "version" (.str "1.0.0")
      priority := get "priority" (.int 100)
      enabled := get "enabled" (.bool true)
      severity
      category := get "category" (.str category)
      condition
      action
      schedule := get "schedule" .none
      tags := get "tags" (.list []) }
  | _ => .error (.typeError "object is not subscriptable by a text")

-- A rule with a missing key or an unknown severity or action is left out.
def parseRules : List Value → Except RuleError (List RuleDefinition)
  | [] => .ok []
  | data :: rest =>
    match ruleOf "general" data with
    | .ok rule => (parseRules rest).map fun rules => rule :: rules
    | .error (.keyError _) | .error (.valueError _) => parseRules rest
    | .error e => .error e

-- data["rules"], where the document is not empty and has it.
def documentRules (data : Value) : Except RuleError (Option (List Value)) :=
  if !data.truthy then .ok none
  else
    match data with
    | .dict entries =>
      match OrderedDict.lookupEntry "rules" entries with
      | none => .ok none
      | some rules => (rules.iterate.map some).mapError .typeError
    | .str text => if "rules".toList <:+: text.toList then .error (.typeError "string indices must be integers") else .ok none
    | .list items =>
      if items.any fun item => item.equals (.str "rules") then .error (.typeError "list indices must be integers") else .ok none
    | _ => .error (.typeError "argument is not iterable")

def byPriority (a b : RuleDefinition) : Except RuleError Bool := a.priority.less b.priority

-- {r.id: r for r in rules}
def indexOf : List RuleDefinition → OrderedDict Value RuleDefinition → Option (OrderedDict Value RuleDefinition)
  | [],index => some index
  | rule :: rest,index =>
    match rule.id.dictKey with
    | some key => indexOf rest (index.set key rule)
    | none => none

-- The list is stored before the index is built.
def loadRules (file : RulesFile) (s : RuleStore) : Except RuleError Unit × RuleStore :=
  match file with
  | .missing => (.error .fileNotFound,s)
  | .invalid message => (.error (.yamlError message),s)
  | .content digest data =>
    if digest = s.configHash then (.ok (),s)
    else
      match documentRules data with
      | .error e => (.error e,s)
      | .ok none => (.ok (),s)
      | .ok (some items) =>
        match parseRules items with
        | .error e => (.error e,s)
        | .ok rules =>
          match sort byPriority rules with
          | (.error e,_) => (.error e,s)
          | (.ok (),sorted) =>
            match indexOf sorted .empty with
            | some rulesById => (.ok (),⟨sorted,rulesById,digest⟩)
            | none => (.error (.typeError "unhashable type"),{s with rules := sorted})

-- The list is sorted after the rule is appended and before it is in the index.
def addRule (data : Value) (s : RuleStore) : Except RuleError RuleDefinition × RuleStore :=
  match ruleOf "custom" data with
  | .error e => (.error e,s)
  | .ok rule =>
    match rule.id.dictKey with
    | none => (.error (.typeError "unhashable type"),s)
    | some key =>
      if key ∈ s.rulesById.keys then (.error (.valueError "already exists"),s)
      else
        match sort byPriority (s.rules ++ [rule]) with
        | (.ok (),sorted) => (.ok rule,{s with rules := sorted, rulesById := s.rulesById.set key rule})
        | (.error e,left) => (.error e,{s with rules := left})

-- [new_rule if r.id == rule_id else r for r in self._rules]
def replaced (key : Value) (new : RuleDefinition) (rules : List RuleDefinition) : List RuleDefinition :=
  rules.map fun rule => if rule.id.dictKey = some key then new else rule

def setRuleEnabled (ruleId : Value) (enabled : Bool) (s : RuleStore) : Except RuleError Bool × RuleStore :=
  match ruleId.dictKey with
  | none => (.error (.typeError "unhashable type"),s)
  | some key =>
    match s.rulesById.get? key with
    | none => (.ok false,s)
    | some old =>
      let new := {old with enabled := .bool enabled}
      (.ok true,{s with rules := replaced key new s.rules, rulesById := s.rulesById.set key new})

def removeRule (ruleId : Value) (s : RuleStore) : Except RuleError Bool × RuleStore :=
  match ruleId.dictKey with
  | none => (.error (.typeError "unhashable type"),s)
  | some key =>
    if key ∈ s.rulesById.keys then
      (.ok true,{s with
        rules := s.rules.filter fun rule => decide (rule.id.dictKey ≠ some key)
        rulesById := s.rulesById.erase key})
    else (.ok false,s)

def severityIn (updates : Record) (old : RuleSeverity) : Except RuleError RuleSeverity :=
  if "severity" ∈ updates.keys then severityOf (updates.value "severity") else .ok old

def actionIn (updates : Record) (old : RuleAction) : Except RuleError RuleAction :=
  if "action" ∈ updates.keys then actionOf (updates.value "action") else .ok old

def revised (old : RuleDefinition) (updates : Record) : Except RuleError RuleDefinition := do
  let severity ← severityIn updates old.severity
  let action ← actionIn updates old.action
  return {
    id := old.id
    name := updates.getD "name" old.name
    description := updates.getD "description" old.description
    version := updates.getD "version" old.version
    priority := updates.getD "priority" old.priority
    enabled := updates.getD "enabled" old.enabled
    severity
    category := updates.getD "category" old.category
    condition := updates.getD "condition" old.condition
    action
    schedule := updates.getD "schedule" old.schedule
    tags := updates.getD "tags" old.tags }

-- The index and the list have the new rule before the list is sorted.
def updateRule (ruleId : Value) (updates : Record) (s : RuleStore) : Except RuleError (Option RuleDefinition) × RuleStore :=
  match ruleId.dictKey with
  | none => (.error (.typeError "unhashable type"),s)
  | some key =>
    match s.rulesById.get? key with
    | none => (.ok none,s)
    | some old =>
      match revised old updates with
      | .error e => (.error e,s)
      | .ok new =>
        let rulesById := s.rulesById.set key new
        match sort byPriority (replaced key new s.rules) with
        | (.ok (),sorted) => (.ok (rulesById.get? key),{s with rules := sorted, rulesById})
        | (.error e,left) => (.error e,{s with rules := left, rulesById})

inductive StoreCall where
  | loadRules (file : RulesFile)
  | addRule (data : Value)
  | updateRule (ruleId : Value) (updates : Record)
  | enableRule (ruleId : Value)
  | disableRule (ruleId : Value)
  | removeRule (ruleId : Value)

def perform (s : RuleStore) : StoreCall → Except RuleError Unit × RuleStore
  | .loadRules file => loadRules file s
  | .addRule data => ((addRule data s).1.map fun _ => (),(addRule data s).2)
  | .updateRule ruleId updates => ((updateRule ruleId updates s).1.map fun _ => (),(updateRule ruleId updates s).2)
  | .enableRule ruleId => ((setRuleEnabled ruleId true s).1.map fun _ => (),(setRuleEnabled ruleId true s).2)
  | .disableRule ruleId => ((setRuleEnabled ruleId false s).1.map fun _ => (),(setRuleEnabled ruleId false s).2)
  | .removeRule ruleId => ((removeRule ruleId s).1.map fun _ => (),(removeRule ruleId s).2)

-- The list and the index hold the same rules, with distinct ids, and the list is sorted.
structure Coherent (s : RuleStore) : Prop where
  hashable : ∀ rule ∈ s.rules, ∃ key, rule.id.dictKey = some key
  same : ∀ key rule, s.rulesById.get? key = some rule ↔ rule ∈ s.rules ∧ rule.id.dictKey = some key
  distinct : (s.rules.map fun rule => rule.id.dictKey).Nodup
  sorted : Sorted byPriority s.rules

theorem start_coherent : Coherent .start :=
  ⟨fun _ member => (by cases member),fun _ _ => ⟨fun found => (by cases found),fun held => (by cases held.1)⟩,.nil,.nil⟩

-- Reading the index a list of rules is made into, over what was there before.
theorem indexOf_get? (rules : List RuleDefinition) (index : OrderedDict Value RuleDefinition)
    (hashable : ∀ rule ∈ rules, ∃ key, rule.id.dictKey = some key)
    (distinct : (rules.map fun rule => rule.id.dictKey).Nodup) :
    ∃ built, indexOf rules index = some built ∧ ∀ key rule, built.get? key = some rule ↔
      (rule ∈ rules ∧ rule.id.dictKey = some key) ∨
        (index.get? key = some rule ∧ some key ∉ rules.map fun rule => rule.id.dictKey) := by
  induction rules generalizing index with
  | nil => exact ⟨index,rfl,by simp⟩
  | cons first rest ih =>
    obtain ⟨k,hashed⟩ := hashable first List.mem_cons_self
    obtain ⟨fresh,others⟩ := List.nodup_cons.mp distinct
    obtain ⟨built,made,reads⟩ := ih (index.set k first) (fun rule member => hashable rule (List.mem_cons_of_mem _ member)) others
    refine ⟨built,by simp only [indexOf,hashed]; exact made,fun key rule => ?_⟩
    rw [reads key rule,OrderedDict.get?_set,List.map_cons,List.mem_cons,List.mem_cons,hashed]
    have unheld : some k ∉ rest.map fun rule => rule.id.dictKey := hashed ▸ fresh
    by_cases same : key = k
    · subst same
      have absent : ∀ rule ∈ rest, rule.id.dictKey ≠ some key :=
        fun rule member equal => unheld (List.mem_map.mpr ⟨rule,member,equal⟩)
      rw [if_pos rfl]
      constructor
      · intro given
        rcases given with ⟨member,equal⟩ | ⟨found,_⟩
        · exact absurd equal (absent rule member)
        · cases found
          exact .inl ⟨.inl rfl,hashed⟩
      · intro given
        rcases given with ⟨rfl | member,equal⟩ | ⟨_,outside⟩
        · exact .inr ⟨rfl,unheld⟩
        · exact absurd equal (absent rule member)
        · exact absurd (Or.inl rfl) outside
    · have different : ¬some key = some k := fun equal => same (Option.some.inj equal)
      rw [if_neg same]
      constructor
      · intro given
        rcases given with ⟨member,equal⟩ | ⟨found,outside⟩
        · exact .inl ⟨.inr member,equal⟩
        · exact .inr ⟨found,fun either => either.elim different outside⟩
      · intro given
        rcases given with ⟨rfl | member,equal⟩ | ⟨found,outside⟩
        · rw [hashed] at equal
          exact absurd equal.symm different
        · exact .inl ⟨member,equal⟩
        · exact .inr ⟨found,fun inside => outside (.inr inside)⟩

-- A list of rules with distinct ids, sorted, and its index.
theorem loaded_coherent (rules : List RuleDefinition) (digest : String) (hashable : ∀ rule ∈ rules, ∃ key, rule.id.dictKey = some key)
    (distinct : (rules.map fun rule => rule.id.dictKey).Nodup) (sorted : Sorted byPriority rules) :
    ∃ built, indexOf rules .empty = some built ∧ Coherent ⟨rules,built,digest⟩ := by
  obtain ⟨built,made,reads⟩ := indexOf_get? rules .empty hashable distinct
  refine ⟨built,made,hashable,fun key rule => ?_,distinct,sorted⟩
  rw [reads]
  simp

theorem Coherent.keyed (coherent : Coherent s) (key : Value) :
    key ∈ s.rulesById.keys ↔ some key ∈ s.rules.map fun rule => rule.id.dictKey := by
  rw [OrderedDict.mem_keys,List.mem_map]
  exact exists_congr fun rule => coherent.same key rule

theorem replaced_keys (key : Value) (new : RuleDefinition) (rules : List RuleDefinition) (kept : new.id.dictKey = some key) :
    (replaced key new rules).map (fun rule => rule.id.dictKey) = rules.map fun rule => rule.id.dictKey := by
  rw [replaced,List.map_map]
  apply List.map_congr_left
  intro rule _
  by_cases same : rule.id.dictKey = some key
  · simp [same,kept]
  · simp [same]

theorem mem_replaced (key : Value) (new : RuleDefinition) (rules : List RuleDefinition) (rule : RuleDefinition)
    (held : some key ∈ rules.map fun rule => rule.id.dictKey) (kept : new.id.dictKey = some key) :
    rule ∈ replaced key new rules ↔ rule = new ∨ (rule ∈ rules ∧ rule.id.dictKey ≠ some key) := by
  rw [replaced,List.mem_map]
  constructor
  · intro given
    obtain ⟨old,member,rfl⟩ := given
    by_cases same : old.id.dictKey = some key
    · exact .inl (if_pos same)
    · rw [if_neg same]
      exact .inr ⟨member,same⟩
  · intro given
    rcases given with rfl | ⟨member,other⟩
    · obtain ⟨old,member,same⟩ := List.mem_map.mp held
      exact ⟨old,member,if_pos same⟩
    · exact ⟨rule,member,if_neg other⟩

-- The rule of a key replaced in the list and in the index, before any sorting.
theorem Coherent.replace (coherent : Coherent s) (found : s.rulesById.get? key = some old) (kept : new.id.dictKey = some key)
    (arranged : rules.Perm (replaced key new s.rules)) (sorted : Sorted byPriority rules) :
    Coherent {s with rules, rulesById := s.rulesById.set key new} := by
  have held : some key ∈ s.rules.map fun rule => rule.id.dictKey :=
    (coherent.keyed key).mp ((OrderedDict.mem_keys _ _).mpr ⟨old,found⟩)
  have members : ∀ rule, rule ∈ rules ↔ rule = new ∨ (rule ∈ s.rules ∧ rule.id.dictKey ≠ some key) :=
    fun rule => arranged.mem_iff.trans (mem_replaced key new s.rules rule held kept)
  refine ⟨fun rule member => ?_,fun k rule => ?_,?_,sorted⟩
  · rcases (members rule).mp member with rfl | ⟨inside,_⟩
    · exact ⟨key,kept⟩
    · exact coherent.hashable rule inside
  · change (s.rulesById.set key new).get? k = some rule ↔ rule ∈ rules ∧ _
    rw [OrderedDict.get?_set,members]
    by_cases same : k = key
    · subst same
      rw [if_pos rfl]
      constructor
      · intro equal
        cases equal
        exact ⟨.inl rfl,kept⟩
      · intro given
        obtain ⟨rfl | ⟨_,other⟩,equal⟩ := given
        · rfl
        · exact absurd equal other
    · rw [if_neg same,coherent.same]
      constructor
      · intro given
        obtain ⟨member,equal⟩ := given
        exact ⟨.inr ⟨member,fun other => same (Option.some.inj (equal.symm.trans other))⟩,equal⟩
      · intro given
        obtain ⟨rfl | ⟨member,_⟩,equal⟩ := given
        · exact absurd (Option.some.inj (kept.symm.trans equal)).symm same
        · exact ⟨member,equal⟩
  · rw [((arranged.map _).nodup_iff),replaced_keys key new s.rules kept]
    exact coherent.distinct

theorem revised_id (old : RuleDefinition) (updates : Record) (came : revised old updates = .ok new) : new.id = old.id := by
  rw [revised] at came
  obtain ⟨severity,_,later⟩ := Fallible.bind_ok.mp came
  obtain ⟨action,_,last⟩ := Fallible.bind_ok.mp later
  cases last
  rfl

-- What keeps a call from going wrong: a loaded list has distinct ids that can be hashed,
-- and whenever the list in force is sorted its priorities can be compared.
def Safe (s : RuleStore) : StoreCall → Prop
  | .loadRules (.content digest data) => digest ≠ s.configHash → ∀ items rules,
      documentRules data = .ok (some items) → parseRules items = .ok rules → (sort byPriority rules).1 = .ok () →
        (∀ rule ∈ rules, ∃ key, rule.id.dictKey = some key) ∧ (rules.map fun rule => rule.id.dictKey).Nodup ∧
          Sortable byPriority rules
  | .addRule data => ∀ rule key, ruleOf "custom" data = .ok rule → rule.id.dictKey = some key → key ∉ s.rulesById.keys →
      Sortable byPriority (s.rules ++ [rule])
  | .updateRule ruleId updates => ∀ key old new, ruleId.dictKey = some key → s.rulesById.get? key = some old →
      revised old updates = .ok new → Sortable byPriority (replaced key new s.rules)
  | _ => True

-- The call leaves the store coherent, and as it was when it raises.
def Holds (s : RuleStore) (call : StoreCall) : Prop :=
  Coherent (perform s call).2 ∧ ∀ e, (perform s call).1 = .error e → (perform s call).2 = s

theorem unchanged_holds (coherent : Coherent s) (same : (perform s call).2 = s) : Holds s call :=
  ⟨same.symm ▸ coherent,fun _ _ => same⟩

theorem returned_holds (returned : (perform s call).1 = .ok ()) (coherent : Coherent (perform s call).2) : Holds s call :=
  ⟨coherent,fun _ raised => by rw [returned] at raised; cases raised⟩

theorem loadRules_holds (coherent : Coherent s) (file : RulesFile) (safe : Safe s (.loadRules file)) : Holds s (.loadRules file) := by
  cases file with
  | missing => exact unchanged_holds coherent rfl
  | invalid message => exact unchanged_holds coherent rfl
  | content digest data =>
    by_cases known : digest = s.configHash
    · exact unchanged_holds coherent (by simp only [perform,loadRules,if_pos known])
    · rcases document : documentRules data with e | found
      · exact unchanged_holds coherent (by simp only [perform,loadRules,if_neg known,document])
      · cases found with
        | none => exact unchanged_holds coherent (by simp only [perform,loadRules,if_neg known,document])
        | some items =>
          rcases parsed : parseRules items with e | rules
          · exact unchanged_holds coherent (by simp only [perform,loadRules,if_neg known,document,parsed])
          · rcases arranged : sort byPriority rules with ⟨e | done,sorted⟩
            · exact unchanged_holds coherent (by simp only [perform,loadRules,if_neg known,document,parsed,arranged])
            · obtain ⟨hashable,distinct,sortable⟩ := safe known items rules document parsed (by rw [arranged])
              have order := (sort_sorted rules sortable).2
              have same : (sort byPriority rules).2.Perm rules := sort_perm rules
              rw [arranged] at order same
              obtain ⟨built,made,whole⟩ := loaded_coherent sorted digest (fun rule member => hashable rule (same.mem_iff.mp member))
                (((same.map _).nodup_iff).mpr distinct) order
              have ran : loadRules (.content digest data) s = (.ok (),⟨sorted,built,digest⟩) := by
                simp only [loadRules,if_neg known,document,parsed,arranged,made]
              apply returned_holds
              · rw [perform,ran]
              · rw [perform,ran]
                exact whole

-- A rule of a new id at the end of the list and in the index, then sorted.
theorem Coherent.append (coherent : Coherent s) (hashed : rule.id.dictKey = some key) (fresh : key ∉ s.rulesById.keys)
    (same : rules.Perm (s.rules ++ [rule])) (sorted : Sorted byPriority rules) :
    Coherent {s with rules, rulesById := s.rulesById.set key rule} := by
  have unheld : some key ∉ s.rules.map fun rule => rule.id.dictKey := mt (coherent.keyed key).mpr fresh
  refine ⟨fun other member => ?_,fun k other => ?_,?_,sorted⟩
  · rcases List.mem_append.mp (same.mem_iff.mp member) with old | new
    · exact coherent.hashable other old
    · exact ⟨key,by rw [List.mem_singleton.mp new]; exact hashed⟩
  · change (s.rulesById.set key rule).get? k = some other ↔ other ∈ rules ∧ _
    rw [OrderedDict.get?_set,same.mem_iff,List.mem_append,List.mem_singleton]
    by_cases equal : k = key
    · subst equal
      rw [if_pos rfl]
      constructor
      · intro found
        cases found
        exact ⟨.inr rfl,hashed⟩
      · intro given
        obtain ⟨old | rfl,keyed⟩ := given
        · exact absurd (List.mem_map.mpr ⟨other,old,keyed⟩) unheld
        · rfl
    · rw [if_neg equal,coherent.same]
      constructor
      · intro given
        obtain ⟨old,keyed⟩ := given
        exact ⟨.inl old,keyed⟩
      · intro given
        obtain ⟨old | rfl,keyed⟩ := given
        · exact ⟨old,keyed⟩
        · exact absurd (Option.some.inj (hashed.symm.trans keyed)).symm equal
  · change (rules.map fun rule => rule.id.dictKey).Nodup
    rw [((same.map _).nodup_iff),List.map_append,List.map_singleton,hashed]
    apply List.nodup_append.mpr
    refine ⟨coherent.distinct,List.nodup_singleton _,?_⟩
    intro a old b single equal
    rw [List.mem_singleton.mp single] at equal
    exact unheld (equal ▸ old)

theorem addRule_holds (coherent : Coherent s) (data : Value) (safe : Safe s (.addRule data)) : Holds s (.addRule data) := by
  rcases made : ruleOf "custom" data with e | rule
  · exact unchanged_holds coherent (by simp only [perform,addRule,made])
  · rcases hashed : rule.id.dictKey with _ | key
    · exact unchanged_holds coherent (by simp only [perform,addRule,made,hashed])
    · by_cases taken : key ∈ s.rulesById.keys
      · exact unchanged_holds coherent (by simp only [perform,addRule,made,hashed,if_pos taken])
      · obtain ⟨answered,order⟩ := sort_sorted (s.rules ++ [rule]) (safe rule key made hashed taken)
        have same : (sort byPriority (s.rules ++ [rule])).2.Perm (s.rules ++ [rule]) := sort_perm _
        rcases arranged : sort byPriority (s.rules ++ [rule]) with ⟨outcome,sorted⟩
        rw [arranged] at answered order same
        cases answered
        have ran : addRule data s = (.ok rule,{s with rules := sorted, rulesById := s.rulesById.set key rule}) := by
          simp only [addRule,made,hashed,if_neg taken,arranged]
        apply returned_holds
        · rw [perform,ran]
          rfl
        · rw [perform,ran]
          exact coherent.append hashed taken same order

theorem updateRule_holds (coherent : Coherent s) (ruleId : Value) (updates : Record) (safe : Safe s (.updateRule ruleId updates)) :
    Holds s (.updateRule ruleId updates) := by
  rcases hashed : ruleId.dictKey with _ | key
  · exact unchanged_holds coherent (by simp only [perform,updateRule,hashed])
  · rcases found : s.rulesById.get? key with _ | old
    · exact unchanged_holds coherent (by simp only [perform,updateRule,hashed,found])
    · rcases made : revised old updates with e | new
      · exact unchanged_holds coherent (by simp only [perform,updateRule,hashed,found,made])
      · obtain ⟨answered,order⟩ := sort_sorted (replaced key new s.rules) (safe key old new hashed found made)
        have same : (sort byPriority (replaced key new s.rules)).2.Perm (replaced key new s.rules) := sort_perm _
        have kept : new.id.dictKey = some key := by
          rw [revised_id old updates made]
          exact ((coherent.same key old).mp found).2
        rcases arranged : sort byPriority (replaced key new s.rules) with ⟨outcome,sorted⟩
        rw [arranged] at answered order same
        cases answered
        have ran : updateRule ruleId updates s =
            (.ok ((s.rulesById.set key new).get? key),{s with rules := sorted, rulesById := s.rulesById.set key new}) := by
          simp only [updateRule,hashed,found,made,arranged]
        apply returned_holds
        · rw [perform,ran]
          rfl
        · rw [perform,ran]
          exact coherent.replace found kept same order

-- Replacing a rule by one of its priority keeps the order.
theorem replaced_sorted (distinct : (rules.map fun rule => rule.id.dictKey).Nodup) (sorted : Sorted byPriority rules)
    (held : old ∈ rules) (keyed : old.id.dictKey = some key) (level : new.priority = old.priority) :
    Sorted byPriority (replaced key new rules) := by
  apply List.pairwise_map.mpr
  have only : ∀ rule ∈ rules, rule.id.dictKey = some key → rule = old :=
    fun rule member same => List.inj_on_of_nodup_map distinct member held (same.trans keyed.symm)
  have priority : ∀ rule ∈ rules, (if rule.id.dictKey = some key then new else rule).priority = rule.priority := by
    intro rule member
    by_cases same : rule.id.dictKey = some key
    · rw [if_pos same,level,only rule member same]
    · rw [if_neg same]
  apply List.Pairwise.imp_of_mem _ sorted
  intro a b first second ordered
  rw [byPriority,priority a first,priority b second]
  exact ordered

theorem setRuleEnabled_holds (coherent : Coherent s) (ruleId : Value) (enabled : Bool) :
    Coherent (setRuleEnabled ruleId enabled s).2 ∧
      ∀ e, (setRuleEnabled ruleId enabled s).1 = .error e → (setRuleEnabled ruleId enabled s).2 = s := by
  rcases hashed : ruleId.dictKey with _ | key
  · simp only [setRuleEnabled,hashed]
    exact ⟨coherent,fun _ _ => trivial⟩
  · rcases found : s.rulesById.get? key with _ | old
    · simp only [setRuleEnabled,hashed,found]
      exact ⟨coherent,fun _ _ => trivial⟩
    · simp only [setRuleEnabled,hashed,found]
      obtain ⟨held,keyed⟩ := (coherent.same key old).mp found
      have order : Sorted byPriority (replaced key {old with enabled := .bool enabled} s.rules) :=
        replaced_sorted coherent.distinct coherent.sorted held keyed rfl
      exact ⟨coherent.replace found keyed (.refl _) order,fun _ raised => by cases raised⟩

theorem removeRule_holds (coherent : Coherent s) (ruleId : Value) : Holds s (.removeRule ruleId) := by
  rcases hashed : ruleId.dictKey with _ | key
  · exact unchanged_holds coherent (by simp only [perform,removeRule,hashed])
  · by_cases held : key ∈ s.rulesById.keys
    · have ran : removeRule ruleId s = (.ok true,{s with
          rules := s.rules.filter fun rule => decide (rule.id.dictKey ≠ some key)
          rulesById := s.rulesById.erase key}) := by
        simp only [removeRule,hashed,if_pos held]
      apply returned_holds
      · rw [perform,ran]
        rfl
      · rw [perform,ran]
        have kept : (s.rules.filter fun rule => decide (rule.id.dictKey ≠ some key)).Sublist s.rules := List.filter_sublist
        refine ⟨fun rule member => coherent.hashable rule (kept.subset member),fun k rule => ?_,
          coherent.distinct.sublist (kept.map _),coherent.sorted.sublist kept⟩
        change (s.rulesById.erase key).get? k = some rule ↔ _
        rw [OrderedDict.get?_erase,List.mem_filter,decide_eq_true_iff]
        by_cases same : k = key
        · subst same
          rw [if_pos rfl]
          exact ⟨fun nothing => (by cases nothing),fun ⟨⟨_,other⟩,keyed⟩ => absurd keyed other⟩
        · rw [if_neg same,coherent.same]
          constructor
          · intro given
            obtain ⟨member,keyed⟩ := given
            exact ⟨⟨member,fun other => same (Option.some.inj (keyed.symm.trans other))⟩,keyed⟩
          · intro given
            obtain ⟨⟨member,_⟩,keyed⟩ := given
            exact ⟨member,keyed⟩
    · exact unchanged_holds coherent (by simp only [perform,removeRule,hashed,if_neg held])

theorem perform_holds (coherent : Coherent s) (call : StoreCall) (safe : Safe s call) : Holds s call := by
  have toggled : ∀ ruleId enabled (e : RuleError), (setRuleEnabled ruleId enabled s).1.map (fun _ => ()) = .error e →
      (setRuleEnabled ruleId enabled s).2 = s := by
    intro ruleId enabled e raised
    rcases outcome : (setRuleEnabled ruleId enabled s).1 with f | done
    · exact (setRuleEnabled_holds coherent ruleId enabled).2 f outcome
    · rw [outcome] at raised
      cases raised
  cases call with
  | loadRules file => exact loadRules_holds coherent file safe
  | addRule data => exact addRule_holds coherent data safe
  | updateRule ruleId updates => exact updateRule_holds coherent ruleId updates safe
  | enableRule ruleId => exact ⟨(setRuleEnabled_holds coherent ruleId true).1,toggled ruleId true⟩
  | disableRule ruleId => exact ⟨(setRuleEnabled_holds coherent ruleId false).1,toggled ruleId false⟩
  | removeRule ruleId => exact removeRule_holds coherent ruleId

def storeStep (s : RuleStore) (call : StoreCall) : RuleStore := (perform s call).2

-- In a run of safe calls every call leaves the store coherent, and as it was if it raises.
theorem store_atomic (calls : List StoreCall) (safe : Runs.Along storeStep Safe .start calls) :
    Runs.Along storeStep Holds .start calls := by
  have keeps : ∀ s call, Coherent s → Safe s call → Coherent (storeStep s call) :=
    fun s call coherent safe => (perform_holds coherent call safe).1
  have gives : ∀ s call, Coherent s → Safe s call → Holds s call :=
    fun s call coherent safe => perform_holds coherent call safe
  exact Runs.along_gives keeps gives start_coherent safe

-- Integer priorities can always be compared.
theorem sortable_ints (rules : List RuleDefinition) (ints : ∀ rule ∈ rules, ∃ n, rule.priority = .int n) :
    Sortable byPriority rules := by
  have compared : ∀ a ∈ rules, ∀ b ∈ rules, ∃ m n : Int, a.priority = .int m ∧ b.priority = .int n ∧
      byPriority a b = .ok (decide (m < n)) := by
    intro a first b second
    obtain ⟨m,left⟩ := ints a first
    obtain ⟨n,right⟩ := ints b second
    refine ⟨m,n,left,right,?_⟩
    rw [byPriority,left,right]
    simp [Value.less,Value.number,PyFloat.greater]
  constructor
  · apply List.pairwise_of_forall_mem_list
    intro a first b second
    obtain ⟨m,n,left,right,forth⟩ := compared a first b second
    obtain ⟨n',m',right',left',back⟩ := compared b second a first
    cases left.symm.trans left'
    cases right.symm.trans right'
    refine ⟨_,_,forth,back,?_⟩
    by_cases smaller : m < n
    · simp [smaller,smaller.le]
    · simp [smaller]
  · intro a first b second c third ba cb
    obtain ⟨n,m,right,left,back⟩ := compared b second a first
    obtain ⟨k,n',top,right',up⟩ := compared c third b second
    obtain ⟨k',m',top',left',whole⟩ := compared c third a first
    cases left.symm.trans left'
    cases right.symm.trans right'
    cases top.symm.trans top'
    rw [back] at ba
    rw [up] at cb
    rw [whole]
    have first := of_decide_eq_false (Except.ok.inj ba)
    have second := of_decide_eq_false (Except.ok.inj cb)
    rw [decide_eq_false (by omega)]

def ruleData (id : String) (priority : Value) : Value :=
  .dict [("id",.str id),("name",.str id),("priority",priority),("condition",.dict [])]

theorem added_and_updated : Runs.Along storeStep Safe .start
      [.addRule (ruleData "r-1" (.int 20)),.updateRule (.str "r-1") (.ofList [("priority",.int 5)]),.disableRule (.str "r-1")] ∧
    Runs.Along storeStep Holds .start
      [.addRule (ruleData "r-1" (.int 20)),.updateRule (.str "r-1") (.ofList [("priority",.int 5)]),.disableRule (.str "r-1")] := by
  have safe : Runs.Along storeStep Safe .start
      [.addRule (ruleData "r-1" (.int 20)),.updateRule (.str "r-1") (.ofList [("priority",.int 5)]),.disableRule (.str "r-1")] := by
    refine ⟨?_,?_,trivial,trivial⟩
    · intro rule key made _ _
      cases made
      apply sortable_ints
      intro rule member
      cases List.mem_singleton.mp member
      exact ⟨20,rfl⟩
    · intro key old new hashed found made
      cases hashed
      cases found
      cases made
      apply sortable_ints
      intro rule member
      cases List.mem_singleton.mp member
      exact ⟨5,rfl⟩
  exact ⟨safe,store_atomic _ safe⟩

-- A file with a repeated id, and an update to a priority that cannot be compared.
theorem calls_break_store :
    ¬Runs.Along storeStep Holds .start [.loadRules (.content "d" (.dict
      [("rules",.list [ruleData "r-1" (.int 10),ruleData "r-1" (.int 20)])]))] ∧
    ¬Runs.Along storeStep Holds .start [.addRule (ruleData "r-1" (.int 10)),.addRule (ruleData "r-2" (.int 20)),
      .updateRule (.str "r-2") (.ofList [("priority",.none)])] := by
  constructor
  · intro along
    have distinct := along.1.1.distinct
    revert distinct
    decide +kernel
  · intro along
    have same := along.2.2.1.2 _ (by with_unfolding_all rfl)
    have priority := congrArg (fun s : RuleStore => (s.rulesById.get? (.str "r-2")).map fun rule => rule.priority) same
    revert priority
    decide +kernel

end RulesEngine
end RiskPulse
