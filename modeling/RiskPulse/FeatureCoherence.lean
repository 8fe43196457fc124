import RiskPulse.FeatureStore

namespace RiskPulse.FeatureStore
open OrderedDict
variable (c : FeatureStore)

-- The number that a cached or stored value stands for.
def usable (v : Value) : Option PyFloat := (c.host.float v).toOption

def held (items : List (String × Value)) (name : String) : Option PyFloat := (lookupEntry name items).bind c.usable

def spoiled (items : List (String × Value)) : Bool := items.any fun item => (c.usable item.2).isNone

-- What is left of the values where one that is not a number spoils all of them.
def survivor (items : List (String × Value)) (name : String) : Option PyFloat := if c.spoiled items then none else c.held items name

theorem floats_unspoiled (items : List (String × Value)) (clean : c.spoiled items = false) :
    ∃ numbers, c.floats items = .ok numbers ∧ numbers.map Prod.fst = items.map Prod.fst ∧
      ∀ name, lookupEntry name numbers = c.held items name := by
  induction items with
  | nil => exact ⟨[],rfl,rfl,fun _ => rfl⟩
  | cons item rest ih =>
    obtain ⟨key,v⟩ := item
    rw [spoiled,List.any_cons,Bool.or_eq_false_iff] at clean
    obtain ⟨numbers,ran,keys,same⟩ := ih clean.2
    cases number : c.host.float v with
    | error e => simp [usable,number,Except.toOption] at clean
    | ok x =>
      refine ⟨(key,x) :: numbers,?_,congrArg (key :: ·) keys,?_⟩
      · simp only [floats,number,ran]
        rfl
      · intro name
        unfold held at same ⊢
        simp only [lookupEntry]
        split
        · simp [usable,number,Except.toOption]
        · exact same name

theorem floats_spoiled (items : List (String × Value)) (bad : c.spoiled items = true) : ∃ e, c.floats items = .error e := by
  induction items with
  | nil => cases bad
  | cons item rest ih =>
    obtain ⟨key,v⟩ := item
    rw [spoiled,List.any_cons,Bool.or_eq_true] at bad
    cases number : c.host.float v with
    | error e => exact ⟨e,by simp only [floats,number]; rfl⟩
    | ok x =>
      have later : c.spoiled rest = true := by
        rcases bad with here | later
        · simp [usable,number,Except.toOption] at here
        · exact later
      obtain ⟨e,ran⟩ := ih later
      exact ⟨e,by simp only [floats,number,ran]; rfl⟩

-- What comes of converting the values, and of dropping them where that fails.
def recovered (items : List (String × Value)) : Features :=
  match c.converted items with
  | .ok features => features
  | .error _ => .empty

theorem recovered_get (items : List (String × Value)) (unique : (items.map Prod.fst).Nodup) (name : String) :
    (c.recovered items).get? name = c.survivor items name := by
  unfold recovered converted survivor
  cases clean : c.spoiled items with
  | false =>
    obtain ⟨numbers,ran,keys,same⟩ := c.floats_unspoiled items clean
    rw [ran]
    have others : (numbers.map Prod.fst).Nodup := keys ▸ unique
    exact (get?_ofList numbers others name).trans (same name)
  | true =>
    obtain ⟨e,ran⟩ := c.floats_spoiled items clean
    rw [ran]
    rfl

def chosenEntry (transactionId customerId : Value) : Option Record :=
  c.cache.bind fun get =>
    match get ("features:" ++ c.host.str transactionId) with
    | .error _ => none
    | .ok cached =>
      match filled cached with
      | some entry => some entry
      | none =>
        match get ("customer_profile:" ++ c.host.str customerId) with
        | .error _ => none
        | .ok profile => filled profile

def storedEntry (transactionId : Value) : Option Record :=
  c.db.bind fun getTransactionFeatures =>
    match getTransactionFeatures transactionId with
    | .error _ => none
    | .ok result => filled result

def chosenItems (transactionId customerId : Value) : List (String × Value) :=
  match c.chosenEntry transactionId customerId with
  | some entry => c.catalogued entry
  | none => []

def storedItems (transactionId : Value) : List (String × Value) :=
  match c.storedEntry transactionId with
  | some entry => entry.entries.filter fun item => item.2 ≠ .none
  | none => []

theorem getFromCache_chosen (transactionId customerId : Value) :
    c.getFromCache transactionId customerId = c.recovered (c.chosenItems transactionId customerId) := by
  unfold getFromCache chosenItems chosenEntry
  cases c.cache with
  | none => rfl
  | some get =>
    simp only [Option.bind_some]
    cases first : get ("features:" ++ c.host.str transactionId) with
    | error e => rfl
    | ok cached =>
      cases chosen : filled cached with
      | some entry => simp only [bind,Except.bind,chosen]; rfl
      | none =>
        cases second : get ("customer_profile:" ++ c.host.str customerId) with
        | error e => simp only [bind,Except.bind,chosen]; rfl
        | ok profile =>
          cases other : filled profile with
          | some entry => simp only [bind,Except.bind,chosen,other]; rfl
          | none => simp only [bind,Except.bind,chosen,other]; rfl

theorem getFromDb_stored (transactionId : Value) (names : List String) :
    c.getFromDb transactionId names = c.recovered ((c.storedItems transactionId).filter fun item => item.1 ∈ names) := by
  unfold getFromDb storedItems storedEntry
  cases c.db with
  | none => rfl
  | some getTransactionFeatures =>
    simp only [Option.bind_some]
    cases result : getTransactionFeatures transactionId with
    | error e => rfl
    | ok reply =>
      cases chosen : filled reply with
      | none => simp only [bind,Except.bind,chosen]; rfl
      | some entry =>
        simp only [bind,Except.bind,chosen,List.filter_filter]
        have same : entry.entries.filter (fun item => decide (item.1 ∈ names ∧ item.2 ≠ .none)) =
            entry.entries.filter fun item => decide (item.1 ∈ names) && decide (item.2 ≠ .none) := by
          simp only [Bool.decide_and]
        exact congrArg c.recovered same

theorem chosenItems_unique (transactionId customerId : Value) : ((c.chosenItems transactionId customerId).map Prod.fst).Nodup := by
  unfold chosenItems
  split
  · rename_i entry _
    exact entry.unique.sublist (List.filter_sublist.map Prod.fst)
  · exact List.nodup_nil

theorem storedItems_unique (transactionId : Value) : ((c.storedItems transactionId).map Prod.fst).Nodup := by
  unfold storedItems
  split
  · rename_i entry _
    exact entry.unique.sublist (List.filter_sublist.map Prod.fst)
  · exact List.nodup_nil

-- The names that the database is asked for.
def asked (transactionId customerId : Value) : List String :=
  let items := c.chosenItems transactionId customerId
  c.featureNames.filter fun name => c.spoiled items || decide (name ∉ items.map Prod.fst)

-- What the code has for a name before it computes anything.
def available (transactionId customerId : Value) (name : String) : Option PyFloat :=
  (c.survivor (c.chosenItems transactionId customerId) name).or
    (c.survivor ((c.storedItems transactionId).filter fun item => item.1 ∈ c.asked transactionId customerId) name)

-- The cached value if the chosen entry holds a usable one, else the stored value.
def resolved (transactionId customerId : Value) (name : String) : Option PyFloat :=
  (c.held (c.chosenItems transactionId customerId) name).or (c.held (c.storedItems transactionId) name)

theorem recovered_keys (items : List (String × Value)) (unique : (items.map Prod.fst).Nodup) (name : String) :
    name ∈ (c.recovered items).keys ↔ c.spoiled items = false ∧ name ∈ items.map Prod.fst := by
  have found := c.recovered_get items unique name
  unfold survivor at found
  cases clean : c.spoiled items with
  | true =>
    rw [clean,if_pos rfl,get?_eq_none] at found
    simp [found]
  | false =>
    rw [clean,if_neg Bool.false_ne_true] at found
    have known : name ∈ items.map Prod.fst ↔ ∃ v, lookupEntry name items = some v := mem_keys ⟨items,unique⟩ name
    rw [mem_keys,found,known]
    simp only [true_and]
    constructor
    · intro ⟨x,number⟩
      obtain ⟨v,here,_⟩ := Option.bind_eq_some_iff.mp number
      exact ⟨v,here⟩
    · intro ⟨v,here⟩
      have inside : (name,v) ∈ items := (get?_entry ⟨items,unique⟩ name v).mpr here
      have number : ¬(c.usable v).isNone = true := List.any_eq_false.mp clean _ inside
      obtain ⟨x,same⟩ := Option.ne_none_iff_exists'.mp fun none => number (Option.isNone_iff_eq_none.mpr none)
      exact ⟨x,by unfold held; rw [here]; exact same⟩

theorem retrieved_get (transactionId customerId : Value) (name : String) :
    (c.retrieved transactionId customerId).get? name = c.available transactionId customerId name := by
  have unique := c.chosenItems_unique transactionId customerId
  have asks : (c.featureNames.filter fun name => name ∉ (c.getFromCache transactionId customerId).keys) = c.asked transactionId customerId := by
    apply List.filter_congr
    intro other _
    have known := c.recovered_keys _ unique other
    rw [← c.getFromCache_chosen] at known
    simp only [known]
    cases c.spoiled (c.chosenItems transactionId customerId) <;> simp
  unfold retrieved available
  simp only
  rw [asks,get?_update,c.getFromDb_stored,c.recovered_get _ ((c.storedItems_unique transactionId).sublist (List.filter_sublist.map Prod.fst)),
    c.getFromCache_chosen,c.recovered_get _ unique]
  cases found : c.survivor (c.chosenItems transactionId customerId) name with
  | none => simp
  | some x =>
    have kept : name ∈ (c.recovered (c.chosenItems transactionId customerId)).keys :=
      (mem_keys _ _).mpr ⟨x,(c.recovered_get _ unique name).trans found⟩
    obtain ⟨clean,inside⟩ := (c.recovered_keys _ unique name).mp kept
    have unasked : name ∉ c.asked transactionId customerId := by
      intro member
      have condition := (List.mem_filter.mp member).2
      simp [clean,inside] at condition
    have absent : c.survivor ((c.storedItems transactionId).filter fun item => item.1 ∈ c.asked transactionId customerId) name = none := by
      unfold survivor held
      split
      · rfl
      · rw [lookupEntry_filter _ _ (c.storedItems_unique transactionId)]
        simp [unasked]
    rw [absent]
    rfl

theorem applyDefaults_get (features : Features) (names : List String) (name : String) :
    (applyDefaults features names).2.get? name =
        (features.get? name).or (if name ∈ names then some (featureDefault name) else none) ∧
      (name ∈ (applyDefaults features names).1 ↔ name ∈ names ∧ features.get? name = none) := by
  induction names generalizing features with
  | nil => simp [applyDefaults]
  | cons first rest ih =>
    unfold applyDefaults
    cases found : features.get? first with
    | some x =>
      obtain ⟨value,missing⟩ := ih features
      simp only [value,missing,List.mem_cons]
      by_cases same : name = first
      · subst same
        simp [found]
      · simp [same]
    | none =>
      obtain ⟨value,missing⟩ := ih (features.set first (featureDefault first))
      simp only [value,missing,List.mem_cons,get?_set]
      by_cases same : name = first
      · subst same
        simp [found]
      · simp [same]

def computedNames : List String := ["transaction_amount","amount_log","amount_zscore","amount_to_avg_ratio",
  "amount_deviation_from_mean","hour_of_day","day_of_week","is_weekend","minutes_since_midnight","unusual_hour_flag",
  "is_international","channel_switch_flag"]

def crossNames : List String := ["amount_x_velocity","amount_x_hour_risk","international_x_new_merchant","high_amount_x_unusual_hour"]

-- The features that are computed from the transaction, given the average of the account.
def decided (transactionData : Record) (avg : PyFloat) : List String :=
  (if transactionData.value "transaction_amount" = .none then []
    else ["transaction_amount","amount_log","amount_zscore"] ++
      (if avg.greater (.finite 0) then ["amount_to_avg_ratio"] else []) ++ ["amount_deviation_from_mean"]) ++
  (c.timestampFeatures (transactionData.value "transaction_timestamp")).map Prod.fst ++
  (geographicFeatures (transactionData.value "is_international")).map Prod.fst ++
  (channelFeatures (transactionData.value "channel") (transactionData.value "last_channel")).map Prod.fst

theorem timestamp_names (timestamp : Value) : ((c.timestampFeatures timestamp).map Prod.fst).Sublist
    ["hour_of_day","day_of_week","is_weekend","minutes_since_midnight","unusual_hour_flag"] := by
  unfold timestampFeatures
  split
  · split
    · exact List.nil_sublist _
    · split
      · exact List.Sublist.refl _
      · exact List.nil_sublist _
  · exact List.nil_sublist _

theorem country_names (isInternational : Value) : ((geographicFeatures isInternational).map Prod.fst).Sublist ["is_international"] := by
  unfold geographicFeatures
  split
  · exact List.nil_sublist _
  · exact List.Sublist.refl _

theorem switch_names (channel lastChannel : Value) :
    ((channelFeatures channel lastChannel).map Prod.fst).Sublist ["channel_switch_flag"] := by
  unfold channelFeatures
  split
  · exact List.Sublist.refl _
  · exact List.nil_sublist _

theorem other_names (transactionData : Record) :
    ((c.timestampFeatures (transactionData.value "transaction_timestamp")).map Prod.fst ++
      (geographicFeatures (transactionData.value "is_international")).map Prod.fst ++
      (channelFeatures (transactionData.value "channel") (transactionData.value "last_channel")).map Prod.fst).Sublist
    ["hour_of_day","day_of_week","is_weekend","minutes_since_midnight","unusual_hour_flag","is_international","channel_switch_flag"] :=
  ((c.timestamp_names _).append (country_names _)).append (switch_names _ _)

theorem decided_names (transactionData : Record) (avg : PyFloat) : (c.decided transactionData avg).Sublist computedNames := by
  have amount : (if transactionData.value "transaction_amount" = .none then []
      else ["transaction_amount","amount_log","amount_zscore"] ++
        (if avg.greater (.finite 0) then ["amount_to_avg_ratio"] else []) ++ ["amount_deviation_from_mean"]).Sublist
      ["transaction_amount","amount_log","amount_zscore","amount_to_avg_ratio","amount_deviation_from_mean"] := by
    split
    · exact List.nil_sublist _
    · split
      · exact List.Sublist.refl _
      · decide
  have joined : List.Sublist _ computedNames := amount.append (c.other_names transactionData)
  simpa only [decided,List.append_assoc] using joined

theorem decided_absent (outside : name ∉ computedNames) (transactionData : Record) (avg : PyFloat) :
    name ∉ c.decided transactionData avg :=
  fun member => outside ((c.decided_names transactionData avg).mem member)

theorem amount_names (x avg std : PyFloat) : (c.amountFeatures x avg std).map Prod.fst =
    ["transaction_amount","amount_log","amount_zscore"] ++
      (if avg.greater (.finite 0) then ["amount_to_avg_ratio"] else []) ++ ["amount_deviation_from_mean"] := by
  by_cases positive : avg.greater (.finite 0) = true <;> simp [amountFeatures,positive]

theorem amount_undecided (absent : transactionData.value "transaction_amount" = .none) (avg : PyFloat) :
    "transaction_amount" ∉ c.decided transactionData avg := by
  unfold decided
  rw [if_pos absent,List.nil_append]
  exact fun member => absurd ((c.other_names transactionData).mem member) (by decide)

-- What is computed, in the parts it is made of.
theorem computed_entries (ran : c.computeTransactionFeatures transactionData existing = .ok computed) :
    ∃ amountPart, computed = .ofList (amountPart ++ c.timestampFeatures (transactionData.value "transaction_timestamp") ++
        geographicFeatures (transactionData.value "is_international") ++
        channelFeatures (transactionData.value "channel") (transactionData.value "last_channel")) ∧
      (transactionData.value "transaction_amount" = .none → amountPart = []) ∧
      (transactionData.value "transaction_amount" ≠ .none → ∃ x, c.host.float (transactionData.value "transaction_amount") = .ok x ∧
        amountPart = c.amountFeatures x (existing.getD "account_avg_amount" (featureDefault "account_avg_amount"))
          (existing.getD "account_std_amount" (featureDefault "account_std_amount"))) := by
  unfold computeTransactionFeatures at ran
  simp only at ran
  by_cases given : transactionData.value "transaction_amount" = .none
  · rw [if_pos given] at ran
    cases ran
    exact ⟨[],rfl,fun _ => rfl,fun other => absurd given other⟩
  · rw [if_neg given] at ran
    cases number : c.host.float (transactionData.value "transaction_amount") with
    | error e =>
      rw [number] at ran
      cases ran
    | ok x =>
      rw [number] at ran
      cases ran
      exact ⟨_,rfl,fun other => absurd other given,fun _ => ⟨x,rfl,rfl⟩⟩

-- The names of the parts, of which each stands for one value.
theorem computed_lookup (ran : c.computeTransactionFeatures transactionData existing = .ok computed) :
    ∃ amountPart, (∀ name, name ∈ computed.keys ↔
        name ∈ c.decided transactionData (existing.getD "account_avg_amount" (featureDefault "account_avg_amount"))) ∧
      (∀ name, computed.get? name = lookupEntry name (amountPart ++ c.timestampFeatures (transactionData.value "transaction_timestamp") ++
        geographicFeatures (transactionData.value "is_international") ++
        channelFeatures (transactionData.value "channel") (transactionData.value "last_channel"))) ∧
      (transactionData.value "transaction_amount" = .none → amountPart = []) ∧
      (transactionData.value "transaction_amount" ≠ .none → ∃ x, c.host.float (transactionData.value "transaction_amount") = .ok x ∧
        amountPart = c.amountFeatures x (existing.getD "account_avg_amount" (featureDefault "account_avg_amount"))
          (existing.getD "account_std_amount" (featureDefault "account_std_amount"))) := by
  obtain ⟨amountPart,same,absent,given⟩ := c.computed_entries ran
  have names : (amountPart ++ c.timestampFeatures (transactionData.value "transaction_timestamp") ++
        geographicFeatures (transactionData.value "is_international") ++
        channelFeatures (transactionData.value "channel") (transactionData.value "last_channel")).map Prod.fst =
      c.decided transactionData (existing.getD "account_avg_amount" (featureDefault "account_avg_amount")) := by
    by_cases missing : transactionData.value "transaction_amount" = .none
    · rw [absent missing]
      simp [decided,missing]
    · obtain ⟨x,_,part⟩ := given missing
      rw [part]
      simp only [List.map_append,c.amount_names,decided,if_neg missing]
  refine ⟨amountPart,?_,?_,absent,given⟩
  · intro name
    rw [same,mem_keys_ofList,names]
  · intro name
    rw [same,get?_ofList _ (names ▸ (by decide : computedNames.Nodup).sublist (c.decided_names _ _))]

-- What is computed, and of it the amount.
theorem computed_exact (ran : c.computeTransactionFeatures transactionData existing = .ok computed) :
    (∀ name, name ∈ computed.keys ↔ name ∈ c.decided transactionData (existing.getD "account_avg_amount" (featureDefault "account_avg_amount"))) ∧
      (transactionData.value "transaction_amount" ≠ .none →
        ∃ x, c.usable (transactionData.value "transaction_amount") = some x ∧ computed.get? "transaction_amount" = some x) := by
  obtain ⟨amountPart,names,lookup,_,given⟩ := c.computed_lookup ran
  refine ⟨names,?_⟩
  intro there
  obtain ⟨x,number,part⟩ := given there
  refine ⟨x,by rw [usable,number]; rfl,?_⟩
  rw [lookup,part]
  rfl

theorem cross_keys (features : Features) (name : String) : name ∈ (c.computeCrossFeatures features).keys ↔ name ∈ crossNames := by
  unfold computeCrossFeatures
  rw [mem_keys_ofList]
  rfl

-- The vector, read from what was retrieved and computed.
theorem getFeatures_exact (returned : c.getFeatures transactionId customerId transactionData = .ok v) :
    ∃ computed, c.computeTransactionFeatures transactionData (c.retrieved transactionId customerId) = .ok computed ∧
      (∀ name ∈ c.featureNames, name ∉ crossNames →
        v.features.get? name = some (((c.retrieved transactionId customerId).update computed).getD name (featureDefault name)) ∧
        (name ∈ v.missing ↔ ((c.retrieved transactionId customerId).update computed).get? name = none)) ∧
      ∀ name ∈ crossNames, v.features.get? name =
        (c.computeCrossFeatures ((c.retrieved transactionId customerId).update computed)).get? name := by
  unfold getFeatures at returned
  simp only at returned
  cases ran : c.computeTransactionFeatures transactionData (c.retrieved transactionId customerId) with
  | error e =>
    rw [ran] at returned
    cases returned
  | ok computed =>
    rw [ran] at returned
    cases returned
    refine ⟨computed,rfl,?_,?_⟩
    · intro name known plain
      have untouched := (get?_eq_none _ _).mpr (mt (c.cross_keys ((c.retrieved transactionId customerId).update computed) name).mp plain)
      obtain ⟨value,missing⟩ := applyDefaults_get
        (((c.retrieved transactionId customerId).update computed).update
          (c.computeCrossFeatures ((c.retrieved transactionId customerId).update computed))) c.featureNames name
      rw [get?_update,untouched,Option.none_or] at value missing
      refine ⟨value.trans ?_,missing.trans (by simp [known])⟩
      rw [if_pos known,getD]
      cases ((c.retrieved transactionId customerId).update computed).get? name <;> rfl
    · intro name cross
      obtain ⟨x,found⟩ := (mem_keys _ _).mp ((c.cross_keys ((c.retrieved transactionId customerId).update computed) name).mpr cross)
      rw [(applyDefaults_get _ c.featureNames name).1,get?_update,found]
      rfl

end RiskPulse.FeatureStore

namespace RiskPulse

def FeatureVector.value (v : FeatureVector) (name : String) : PyFloat := v.features.getD name (featureDefault name)

namespace FeatureStore
open OrderedDict
variable (c : FeatureStore)

def unusualHour (v : FeatureVector) : PyFloat := .ofBool ((v.value "unusual_hour_flag").greater (.finite 0))

-- The cross features are those of the vector's own values, and what the transaction does
-- not decide comes from the cache, else from the database, else from the defaults.
structure Coherent (transactionId customerId : Value) (transactionData : Record) (v : FeatureVector) : Prop where
  velocity : v.features.get? "amount_x_velocity" =
    some (c.host.arithmetic.times (v.value "transaction_amount") (v.value "txn_count_1h"))
  hourRisk : v.features.get? "amount_x_hour_risk" = some (c.host.arithmetic.times (v.value "transaction_amount") (unusualHour v))
  newMerchant : v.features.get? "international_x_new_merchant" =
    some (c.host.arithmetic.times (v.value "is_international") (v.value "new_merchant_flag"))
  highAmount : v.features.get? "high_amount_x_unusual_hour" = some (c.host.arithmetic.times
    (.ofBool ((v.value "transaction_amount").greater (c.host.arithmetic.times (v.value "account_avg_amount") (.finite 3)))) (unusualHour v))
  base : ∀ name ∈ c.featureNames, name ∉ crossNames → name ∉ c.decided transactionData (v.value "account_avg_amount") →
    v.features.get? name = some ((c.resolved transactionId customerId name).getD (featureDefault name)) ∧
      (name ∈ v.missing ↔ c.resolved transactionId customerId name = none)

def resolvedValue (transactionId customerId : Value) (name : String) : PyFloat :=
  (c.resolved transactionId customerId name).getD (featureDefault name)

def amountOf (transactionId customerId : Value) (transactionData : Record) : PyFloat :=
  if transactionData.value "transaction_amount" = .none then c.resolvedValue transactionId customerId "transaction_amount"
  else (c.usable (transactionData.value "transaction_amount")).getD (.finite 0)

-- No usable value is lost with one that is not a number, and the velocity is known or
-- does not matter.
structure Sound (transactionId customerId : Value) (transactionData : Record) : Prop where
  kept : ∀ name ∈ c.featureNames, name ∉ crossNames →
    name ∉ c.decided transactionData (c.resolvedValue transactionId customerId "account_avg_amount") →
    c.available transactionId customerId name = c.resolved transactionId customerId name
  velocity : c.resolved transactionId customerId "txn_count_1h" = none →
    c.amountOf transactionId customerId transactionData = .finite 0 ∨ c.amountOf transactionId customerId transactionData = .nan

theorem times_unit (x : PyFloat) : c.host.arithmetic.times x (.finite 0) = c.host.arithmetic.times x (.finite 1) ↔ x = .finite 0 ∨ x = .nan := by
  rw [c.host.timesOne]
  cases x with
  | finite q =>
    rw [c.host.timesZero]
    simp [eq_comm]
  | nan =>
    rw [c.host.timesNan]
    simp
  | infinity negative =>
    rw [c.host.timesInfinity]
    simp

-- What the transaction does not decide is what was retrieved.
theorem undecided_get (ran : c.computeTransactionFeatures transactionData (c.retrieved transactionId customerId) = .ok computed)
    (open' : name ∉ c.decided transactionData
      ((c.retrieved transactionId customerId).getD "account_avg_amount" (featureDefault "account_avg_amount"))) :
    ((c.retrieved transactionId customerId).update computed).get? name = c.available transactionId customerId name := by
  have absent := (get?_eq_none _ _).mpr (mt ((c.computed_exact ran).1 name).mp open')
  rw [get?_update,absent,Option.none_or,c.retrieved_get]

section Vector
variable {c} {transactionId customerId : Value} {transactionData : Record} {v : FeatureVector} {computed : Features}

theorem cross_value (features : Features) :
    (c.computeCrossFeatures features).get? "amount_x_velocity" = some (c.host.arithmetic.times
        (features.getD "transaction_amount" (.finite 0)) (features.getD "txn_count_1h" (.finite 0))) ∧
      (c.computeCrossFeatures features).get? "amount_x_hour_risk" = some (c.host.arithmetic.times
        (features.getD "transaction_amount" (.finite 0)) (.ofBool ((features.getD "unusual_hour_flag" (.finite 0)).greater (.finite 0)))) ∧
      (c.computeCrossFeatures features).get? "international_x_new_merchant" = some (c.host.arithmetic.times
        (features.getD "is_international" (.finite 0)) (features.getD "new_merchant_flag" (.finite 0))) ∧
      (c.computeCrossFeatures features).get? "high_amount_x_unusual_hour" = some (c.host.arithmetic.times
        (.ofBool ((features.getD "transaction_amount" (.finite 0)).greater
          (c.host.arithmetic.times (features.getD "account_avg_amount" (.finite 50)) (.finite 3))))
        (.ofBool ((features.getD "unusual_hour_flag" (.finite 0)).greater (.finite 0)))) :=
  ⟨rfl,rfl,rfl,rfl⟩

-- The average that the ratio is made of is the one in the vector.
theorem average_exact (ran : c.computeTransactionFeatures transactionData (c.retrieved transactionId customerId) = .ok computed) :
    ((c.retrieved transactionId customerId).update computed).get? "account_avg_amount" =
      c.available transactionId customerId "account_avg_amount" ∧
    (c.retrieved transactionId customerId).getD "account_avg_amount" (featureDefault "account_avg_amount") =
      (c.available transactionId customerId "account_avg_amount").getD (featureDefault "account_avg_amount") := by
  refine ⟨c.undecided_get ran (c.decided_absent (by decide) _ _),?_⟩
  rw [getD,c.retrieved_get]

theorem amount_exact (ran : c.computeTransactionFeatures transactionData (c.retrieved transactionId customerId) = .ok computed)
    (kept : transactionData.value "transaction_amount" = .none →
      c.available transactionId customerId "transaction_amount" = c.resolved transactionId customerId "transaction_amount") :
    ((c.retrieved transactionId customerId).update computed).getD "transaction_amount" (.finite 0) =
      c.amountOf transactionId customerId transactionData := by
  unfold amountOf
  split
  · rename_i absent
    rw [getD,c.undecided_get ran (c.amount_undecided absent _),kept absent]
    rfl
  · rename_i given
    obtain ⟨x,number,found⟩ := (c.computed_exact ran).2 given
    rw [getD,get?_update,found,number]
    rfl

-- A value of the vector that is no cross feature.
theorem base_value {features : Features} (catalog : featureCatalog ⊆ c.featureNames)
    (plain : ∀ name ∈ c.featureNames, name ∉ crossNames →
      v.features.get? name = some (features.getD name (featureDefault name)) ∧ (name ∈ v.missing ↔ features.get? name = none))
    (name : String) (known : name ∈ featureCatalog) (base : name ∉ crossNames) : v.value name = features.getD name (featureDefault name) := by
  unfold FeatureVector.value
  rw [getD,(plain name (catalog known) base).1]
  rfl

-- Without a count the cross features take it to be 0, the vector takes it to be 1.
theorem count_defaults {features : Features} (absent : features.get? "txn_count_1h" = none) :
    features.getD "txn_count_1h" (.finite 0) = .finite 0 ∧
      features.getD "txn_count_1h" (featureDefault "txn_count_1h") = .finite 1 := by
  rw [getD,getD,absent]
  exact ⟨rfl,rfl⟩

theorem average_value (catalog : featureCatalog ⊆ c.featureNames)
    (ran : c.computeTransactionFeatures transactionData (c.retrieved transactionId customerId) = .ok computed)
    (plain : ∀ name ∈ c.featureNames, name ∉ crossNames →
      v.features.get? name = some (((c.retrieved transactionId customerId).update computed).getD name (featureDefault name)) ∧
        (name ∈ v.missing ↔ ((c.retrieved transactionId customerId).update computed).get? name = none)) :
    v.value "account_avg_amount" =
      (c.available transactionId customerId "account_avg_amount").getD (featureDefault "account_avg_amount") := by
  rw [base_value catalog plain "account_avg_amount" (by decide) (by decide),getD,(average_exact ran).1]

-- What a coherent vector holds was available.
theorem coherent_kept (catalog : featureCatalog ⊆ c.featureNames)
    (ran : c.computeTransactionFeatures transactionData (c.retrieved transactionId customerId) = .ok computed)
    (plain : ∀ name ∈ c.featureNames, name ∉ crossNames →
      v.features.get? name = some (((c.retrieved transactionId customerId).update computed).getD name (featureDefault name)) ∧
        (name ∈ v.missing ↔ ((c.retrieved transactionId customerId).update computed).get? name = none))
    (coherent : c.Coherent transactionId customerId transactionData v) (name : String) (known : name ∈ c.featureNames)
    (base : name ∉ crossNames)
    (undecided : name ∉ c.decided transactionData (c.resolvedValue transactionId customerId "account_avg_amount")) :
    c.available transactionId customerId name = c.resolved transactionId customerId name := by
  have avg := average_value catalog ran plain
  have avg_resolved : v.value "account_avg_amount" = c.resolvedValue transactionId customerId "account_avg_amount" := by
    have base := coherent.base "account_avg_amount" (catalog (by decide)) (by decide) (c.decided_absent (by decide) _ _)
    unfold FeatureVector.value
    rw [getD,base.1]
    rfl
  have same := coherent.base name known base (avg_resolved ▸ undecided)
  have held := plain name known base
  rw [getD,c.undecided_get ran (by rw [(average_exact ran).2,← avg,avg_resolved]; exact undecided)] at held
  have values := held.1.symm.trans same.1
  have lists := held.2.symm.trans same.2
  cases found : c.available transactionId customerId name with
  | none => exact (lists.mp found).symm
  | some x =>
    cases wanted : c.resolved transactionId customerId name with
    | none => rw [lists.mpr wanted] at found; cases found
    | some y =>
      rw [found,wanted] at values
      exact congrArg some (Option.some.inj values)

end Vector

-- Arithmetic that rounds nothing, on the numbers of the examples.
def exampleArithmetic : FloatArithmetic :=
  {FloatArithmetic.exact with
    times := fun x y => if y = .finite 1 then x else PyFloat.exactly (fun a b => a * b) x y
    divide := fun x y => if x = .finite 0 ∧ y.greater (.finite 0) then .finite 0 else PyFloat.exactly (fun a b => a / b) x y}

def exampleHost : FeatureHost where
  float v := match v.number with
    | some x => .ok x
    | none => .error "float() argument must be a string or a real number"
  str v := match v with
    | .str text => text
    | _ => "None"
  arithmetic := exampleArithmetic
  log1p x := if x = .finite 0 then .finite 0 else if x = .finite 100 then .finite (461512051684126 / 100000000000000) else .nan
  fromisoformat text := if text = "2026-01-05T13:00:00" then some (1767618000000000,none) else none
  isoEmpty := rfl
  floatNone := ⟨_,rfl⟩
  floatFloat _ := rfl
  timesZero q := by simp [exampleArithmetic,FloatArithmetic.exact,PyFloat.exactly]
  timesOne x := by simp [exampleArithmetic]
  timesNan x := by
    simp only [exampleArithmetic]
    split <;> rfl
  timesInfinity negative := by simp [exampleArithmetic,PyFloat.exactly]

def exampleStore : FeatureStore := ⟨exampleHost,none,none,featureCatalog,true,fun _ => none⟩

def exampleAmount (amount : Int) : Record := .ofList [("transaction_amount",.int amount)]

end FeatureStore
end RiskPulse
