import RiskPulse.FeatureCoherence
import RiskPulse.FeatureEngineer

namespace RiskPulse.FeatureEngineer
variable (c : FeatureEngineer)

def sharedNames : List String := ["amount_zscore","amount_to_avg_ratio","hour_of_day","day_of_week","is_weekend"]

-- Both sides are given the same average and deviation, and the serving side holds no value
-- of the features that it shares with the other.
structure SameStatistics (store : FeatureStore) (transactionId customerId : Value) (profile : Record) (avg std : PyFloat) : Prop where
  catalog : featureCatalog ⊆ store.featureNames
  host : store.host = c.host.toFeatureHost
  average : c.host.float (profile.getD "avg_transaction_amount" (.int 0)) = .ok avg
  deviation : c.host.float (profile.getD "std_transaction_amount" (.int 0)) = .ok std
  storedAverage : (store.retrieved transactionId customerId).get? "account_avg_amount" = some avg
  storedDeviation : (store.retrieved transactionId customerId).get? "account_std_amount" = some std
  fresh : ∀ name ∈ sharedNames, (store.retrieved transactionId customerId).get? name = none

-- The features of the same name are equal as numbers, up to the rounding of one side.
structure Agree (engineered : Record) (v : FeatureVector) : Prop where
  zscore : engineered.value "amount_zscore" = .float (c.host.arithmetic.round (v.value "amount_zscore") 6)
  ratio : engineered.value "amount_to_avg_ratio" = .float (c.host.arithmetic.round (v.value "amount_to_avg_ratio") 6)
  hour : (engineered.value "hour_of_day").number = some (v.value "hour_of_day")
  day : (engineered.value "day_of_week").number = some (v.value "day_of_week")
  weekend : (engineered.value "is_weekend").number = some (v.value "is_weekend")

section Engineered
variable {c} {transaction profile engineered : Record}

theorem engineered_exact (ran : c.computeTransactionFeatures transaction profile = .ok engineered)
    (dated : c.timestampOf transaction = .ok (some t))
    (average : c.host.float (profile.getD "avg_transaction_amount" (.int 0)) = .ok avg)
    (deviation : c.host.float (profile.getD "std_transaction_amount" (.int 0)) = .ok std) :
    ∃ amount, c.amountOf transaction = .ok amount ∧
      engineered.value "amount_zscore" = .float (c.host.arithmetic.round
        (if std.greater (.finite 0) then c.host.arithmetic.divide (c.host.arithmetic.minus amount avg) std else .finite 0) 6) ∧
      engineered.value "amount_to_avg_ratio" = .float (c.host.arithmetic.round
        (if avg.greater (.finite 0) then c.host.arithmetic.divide amount avg else .finite 0) 6) ∧
      engineered.value "hour_of_day" = .int (hourOfDay t.wall) ∧ engineered.value "day_of_week" = .int (dayOfWeek t.wall) ∧
      engineered.value "is_weekend" = .bool (decide (5 ≤ dayOfWeek t.wall)) := by
  unfold computeTransactionFeatures at ran
  obtain ⟨amount,number,ran⟩ := Fallible.bind_ok.mp ran
  obtain ⟨ts,stamp,ran⟩ := Fallible.bind_ok.mp ran
  obtain ⟨_,first,ran⟩ := Fallible.bind_ok.mp ran
  obtain ⟨_,second,ran⟩ := Fallible.bind_ok.mp ran
  obtain ⟨_,_,ran⟩ := Fallible.bind_ok.mp ran
  rw [dated] at stamp
  rw [average] at first
  rw [deviation] at second
  cases stamp
  cases first
  cases second
  cases ran
  exact ⟨amount,number,rfl,rfl,rfl,rfl,by rfl⟩

end Engineered

section Served
variable {c} {store : FeatureStore} {transactionId customerId : Value} {transaction profile : Record} {v : FeatureVector} {avg std : PyFloat}
open OrderedDict

-- A shared feature is what is computed from the transaction, or the default.
theorem served_value (given : c.SameStatistics store transactionId customerId profile avg std)
    (returned : store.getFeatures transactionId customerId transaction = .ok v) :
    ∃ amountPart, (∀ name ∈ sharedNames, v.value name =
        ((lookupEntry name (amountPart ++ store.timestampFeatures (transaction.value "transaction_timestamp") ++
          FeatureStore.geographicFeatures (transaction.value "is_international") ++
          FeatureStore.channelFeatures (transaction.value "channel") (transaction.value "last_channel"))).getD (featureDefault name))) ∧
      (transaction.value "transaction_amount" = .none → amountPart = []) ∧
      (transaction.value "transaction_amount" ≠ .none →
        ∃ x, c.host.float (transaction.value "transaction_amount") = .ok x ∧ amountPart = store.amountFeatures x avg std) := by
  obtain ⟨computed,ran,plain,_⟩ := store.getFeatures_exact returned
  obtain ⟨amountPart,_,lookup,absent,part⟩ := store.computed_lookup ran
  refine ⟨amountPart,?_,absent,?_⟩
  · intro name shared
    have known : name ∈ featureCatalog ∧ name ∉ FeatureStore.crossNames := by
      revert name
      decide
    have held := (plain name (given.catalog known.1) known.2).1
    rw [getD,get?_update,lookup,given.fresh name shared,Option.or_none] at held
    rw [FeatureVector.value,getD,held]
    rfl
  · intro there
    obtain ⟨x,number,same⟩ := part there
    rw [getD,getD,given.storedAverage,given.storedDeviation] at same
    rw [given.host] at number
    exact ⟨x,number,same⟩

-- Where a shared feature is found: with the amount, or with the clock.
theorem amount_lookup (c : FeatureStore) (amountPart : List (String × PyFloat)) (transaction : Record)
    (name : String) (named : name ∈ ["amount_zscore","amount_to_avg_ratio"]) :
    lookupEntry name (amountPart ++ c.timestampFeatures (transaction.value "transaction_timestamp") ++
      FeatureStore.geographicFeatures (transaction.value "is_international") ++
      FeatureStore.channelFeatures (transaction.value "channel") (transaction.value "last_channel")) = lookupEntry name amountPart := by
  have absent : name ∉ (c.timestampFeatures (transaction.value "transaction_timestamp")).map Prod.fst ++
      (FeatureStore.geographicFeatures (transaction.value "is_international")).map Prod.fst ++
      (FeatureStore.channelFeatures (transaction.value "channel") (transaction.value "last_channel")).map Prod.fst := by
    have apart : ∀ name ∈ ["amount_zscore","amount_to_avg_ratio"], name ∉ ["hour_of_day","day_of_week","is_weekend",
        "minutes_since_midnight","unusual_hour_flag","is_international","channel_switch_flag"] := by decide
    exact fun member => apart name named ((c.other_names transaction).mem member)
  rw [← List.map_append,← List.map_append] at absent
  rw [List.append_assoc,List.append_assoc,lookupEntry_append,← List.append_assoc,lookupEntry_absent _ absent,Option.or_none]

theorem clock_lookup (c : FeatureStore) (amountPart : List (String × PyFloat)) (transaction : Record)
    (part : amountPart = [] ∨ ∃ x avg std, amountPart = c.amountFeatures x avg std)
    (name : String) (named : name ∈ ["hour_of_day","day_of_week","is_weekend"]) :
    lookupEntry name (amountPart ++ c.timestampFeatures (transaction.value "transaction_timestamp") ++
      FeatureStore.geographicFeatures (transaction.value "is_international") ++
      FeatureStore.channelFeatures (transaction.value "channel") (transaction.value "last_channel")) =
    lookupEntry name (c.timestampFeatures (transaction.value "transaction_timestamp")) := by
  have first : name ∉ amountPart.map Prod.fst := by
    rcases part with same | ⟨x,avg,std,same⟩
    · rw [same]
      exact List.not_mem_nil
    · have apart : ∀ name ∈ ["hour_of_day","day_of_week","is_weekend"], name ∉ ["transaction_amount","amount_log","amount_zscore",
          "amount_to_avg_ratio","amount_deviation_from_mean"] := by decide
      rw [same,c.amount_names]
      intro member
      apply apart name named
      split at member
      · exact member
      · exact (by decide : ["transaction_amount","amount_log","amount_zscore","amount_deviation_from_mean"] ⊆
          ["transaction_amount","amount_log","amount_zscore","amount_to_avg_ratio","amount_deviation_from_mean"]) member
  have apart : ∀ name ∈ ["hour_of_day","day_of_week","is_weekend"], name ∉ ["is_international"] ∧ name ∉ ["channel_switch_flag"] := by decide
  have country : name ∉ (FeatureStore.geographicFeatures (transaction.value "is_international")).map Prod.fst :=
    fun member => (apart name named).1 ((FeatureStore.country_names _).mem member)
  have switch : name ∉ (FeatureStore.channelFeatures (transaction.value "channel") (transaction.value "last_channel")).map Prod.fst :=
    fun member => (apart name named).2 ((FeatureStore.switch_names _ _).mem member)
  rw [lookupEntry_append,lookupEntry_append,lookupEntry_append,lookupEntry_absent _ first,lookupEntry_absent _ country,
    lookupEntry_absent _ switch,Option.or_none,Option.or_none,Option.none_or]

theorem replaceZ_empty : replaceZ "" = "" := rfl

-- Only a text is read as a timestamp by both sides.
theorem timestamp_text (same : store.host = c.host.toFeatureHost) (dated : c.timestampOf transaction = .ok (some t))
    (written : transaction.value "transaction_timestamp" = .str text) :
    store.timestampFeatures (transaction.value "transaction_timestamp") = FeatureStore.clockFeatures t.wall := by
  unfold timestampOf parseTimestamp at dated
  rw [written] at dated ⊢
  simp only [Except.ok.injEq] at dated
  obtain ⟨parsed,found,made⟩ := Option.map_eq_some_iff.mp dated
  have filled : text ≠ "" := by
    intro empty
    rw [empty,replaceZ_empty,c.host.isoEmpty] at found
    cases found
  unfold FeatureStore.timestampFeatures
  simp only [if_neg filled,same,found]
  rw [← made]

theorem timestamp_other (value : Value) (other : ∀ text, value ≠ .str text) : store.timestampFeatures value = [] := by
  unfold FeatureStore.timestampFeatures
  split
  · rename_i text
    exact absurd rfl (other text)
  · rfl

theorem ofBool_number (b : Bool) : (Value.bool b).number = some (.ofBool b) := by
  cases b <;> rfl

-- The three features of the clock agree where the serving side reads it, or where its
-- defaults happen to be right.
theorem clock_agrees (same : store.host = c.host.toFeatureHost) (dated : c.timestampOf transaction = .ok (some t)) :
    ((Value.int (hourOfDay t.wall)).number = some ((lookupEntry "hour_of_day"
          (store.timestampFeatures (transaction.value "transaction_timestamp"))).getD (featureDefault "hour_of_day")) ∧
      (Value.int (dayOfWeek t.wall)).number = some ((lookupEntry "day_of_week"
          (store.timestampFeatures (transaction.value "transaction_timestamp"))).getD (featureDefault "day_of_week")) ∧
      (Value.bool (decide (5 ≤ dayOfWeek t.wall))).number = some ((lookupEntry "is_weekend"
          (store.timestampFeatures (transaction.value "transaction_timestamp"))).getD (featureDefault "is_weekend"))) ↔
    (∃ text, transaction.value "transaction_timestamp" = .str text) ∨ (hourOfDay t.wall = 12 ∧ dayOfWeek t.wall = 3) := by
  by_cases written : ∃ text, transaction.value "transaction_timestamp" = .str text
  · obtain ⟨text,found⟩ := written
    rw [timestamp_text same dated found,ofBool_number]
    exact ⟨fun _ => .inl ⟨text,found⟩,fun _ => ⟨rfl,rfl,rfl⟩⟩
  · rw [timestamp_other _ fun text found => written ⟨text,found⟩,ofBool_number]
    have defaults : featureDefault "hour_of_day" = .finite 12 ∧ featureDefault "day_of_week" = .finite 3 ∧
        featureDefault "is_weekend" = .finite 0 := ⟨rfl,rfl,rfl⟩
    simp only [lookupEntry,Option.getD_none,defaults,Value.number,Option.some.injEq,PyFloat.finite.injEq]
    constructor
    · intro given
      obtain ⟨hour,day,_⟩ := given
      exact .inr ⟨by exact_mod_cast hour,by exact_mod_cast day⟩
    · intro reads
      rcases reads with text | ⟨hour,day⟩
      · exact absurd text written
      · rw [hour,day]
        exact ⟨by norm_cast,by norm_cast,rfl⟩

theorem amount_missing (missing : transaction.value "transaction_amount" = .none) (number : c.amountOf transaction = .ok amount) :
    amount = .finite 0 := by
  unfold amountOf at number
  unfold Record.value at missing
  rw [getD] at missing number
  cases found : transaction.get? "transaction_amount" with
  | none =>
    rw [found,Option.getD_none,c.host.floatZero] at number
    exact (Except.ok.inj number).symm
  | some given =>
    rw [found,Option.getD_some] at missing number
    obtain ⟨e,raised⟩ := c.host.floatNone
    rw [missing,raised] at number
    cases number

theorem amount_present (there : transaction.value "transaction_amount" ≠ .none) :
    c.amountOf transaction = c.host.float (transaction.value "transaction_amount") := by
  unfold amountOf Record.value at *
  rw [getD] at there
  rw [getD,getD]
  cases found : transaction.get? "transaction_amount" with
  | none =>
    rw [found] at there
    exact absurd rfl there
  | some given => rfl

-- What the serving side delivers of the amount, where there is one.
theorem served_amount (same : store.host = c.host.toFeatureHost) (x avg std : PyFloat) :
    lookupEntry "amount_zscore" (store.amountFeatures x avg std) = some (if std.greater (.finite 0) then
        c.host.arithmetic.divide (c.host.arithmetic.minus x avg) std else .finite 0) ∧
      lookupEntry "amount_to_avg_ratio" (store.amountFeatures x avg std) =
        if avg.greater (.finite 0) then some (c.host.arithmetic.divide x avg) else none := by
  unfold FeatureStore.amountFeatures
  rw [same]
  refine ⟨rfl,?_⟩
  by_cases positive : avg.greater (.finite 0) = true
  · rw [if_pos positive,if_pos positive]
    rfl
  · rw [if_neg positive,if_neg positive]
    rfl

-- The amount is given, the average is positive, and the timestamp is a text or happens to
-- be what the defaults say.
def Comparable (transaction : Record) (avg : PyFloat) (t : AwareTime) : Prop :=
  transaction.value "transaction_amount" ≠ .none ∧ avg.greater (.finite 0) = true ∧
    ((∃ text, transaction.value "transaction_timestamp" = .str text) ∨ (hourOfDay t.wall = 12 ∧ dayOfWeek t.wall = 3))

-- What the serving side delivers of the shared features.
theorem served_exact (given : c.SameStatistics store transactionId customerId profile avg std)
    (returned : store.getFeatures transactionId customerId transaction = .ok v) :
    (∀ name ∈ ["hour_of_day","day_of_week","is_weekend"], v.value name = (lookupEntry name
      (store.timestampFeatures (transaction.value "transaction_timestamp"))).getD (featureDefault name)) ∧
    (transaction.value "transaction_amount" = .none → v.value "amount_to_avg_ratio" = .finite 1) ∧
    (transaction.value "transaction_amount" ≠ .none → ∃ x, c.host.float (transaction.value "transaction_amount") = .ok x ∧
      v.value "amount_zscore" = (if std.greater (.finite 0) then
        c.host.arithmetic.divide (c.host.arithmetic.minus x avg) std else .finite 0) ∧
      v.value "amount_to_avg_ratio" =
        if avg.greater (.finite 0) then c.host.arithmetic.divide x avg else .finite 1) := by
  obtain ⟨amountPart,value,absent,there⟩ := served_value given returned
  have shape : amountPart = [] ∨ ∃ x avg std, amountPart = store.amountFeatures x avg std := by
    by_cases missing : transaction.value "transaction_amount" = .none
    · exact .inl (absent missing)
    · obtain ⟨x,_,same⟩ := there missing
      exact .inr ⟨x,avg,std,same⟩
  have amounts : ∀ name ∈ ["amount_zscore","amount_to_avg_ratio"],
      v.value name = (lookupEntry name amountPart).getD (featureDefault name) := by
    intro name named
    rw [value name (by revert name; decide),amount_lookup store amountPart transaction name named]
  refine ⟨?_,?_,?_⟩
  · intro name named
    rw [value name (by revert name; decide),clock_lookup store amountPart transaction shape name named]
  · intro missing
    rw [amounts "amount_to_avg_ratio" (by decide),absent missing]
    rfl
  · intro present
    obtain ⟨x,found,part⟩ := there present
    obtain ⟨first,second⟩ := served_amount given.host x avg std
    rw [← part] at first second
    refine ⟨x,found,?_,?_⟩
    · rw [amounts "amount_zscore" (by decide),first]
      rfl
    · rw [amounts "amount_to_avg_ratio" (by decide),second]
      split <;> rfl

-- Without an amount the training side has a ratio of 0, the serving side its default.
theorem ratio_zero (c : FeatureEngineer) (avg : PyFloat) : c.host.arithmetic.round
    (if avg.greater (.finite 0) = true then c.host.arithmetic.divide (.finite 0) avg else .finite 0) 6 = .finite 0 := by
  split
  · rename_i positive
    rw [c.host.divideZero avg positive,c.host.arithmetic.zero]
  · exact c.host.arithmetic.zero 6

theorem training_serving_agree (given : c.SameStatistics store transactionId customerId profile avg std)
    (dated : c.timestampOf transaction = .ok (some t))
    (engineered : c.computeTransactionFeatures transaction profile = .ok features)
    (returned : store.getFeatures transactionId customerId transaction = .ok v) :
    c.Agree features v ↔ Comparable transaction avg t := by
  obtain ⟨amount,number,zscore,ratio,hour,day,weekend⟩ := engineered_exact engineered dated given.average given.deviation
  obtain ⟨clock,absent,there⟩ := served_exact given returned
  have times := clock_agrees given.host dated
  rw [← clock "hour_of_day" (by decide),← clock "day_of_week" (by decide),← clock "is_weekend" (by decide)] at times
  by_cases missing : transaction.value "transaction_amount" = .none
  · have zero := amount_missing missing number
    constructor
    · intro agree
      have equal := ratio.symm.trans agree.ratio
      rw [absent missing,c.host.roundOne,zero,ratio_zero] at equal
      cases equal
    · intro comparable
      exact absurd missing comparable.1
  · obtain ⟨x,found,score,served⟩ := there missing
    rw [amount_present missing,found] at number
    cases number
    constructor
    · intro agree
      refine ⟨missing,?_,times.mp ⟨hour ▸ agree.hour,day ▸ agree.day,weekend ▸ agree.weekend⟩⟩
      by_contra nonpositive
      have equal := ratio.symm.trans agree.ratio
      rw [served,if_neg nonpositive,if_neg nonpositive,c.host.arithmetic.zero,c.host.roundOne] at equal
      cases equal
    · intro ⟨_,positive,reads⟩
      obtain ⟨hours,days,weekends⟩ := times.mpr reads
      refine ⟨by rw [zscore,score],?_,hour ▸ hours,day ▸ days,weekend ▸ weekends⟩
      rw [ratio,served,if_pos positive,if_pos positive]

end Served

def exampleEngineer : FeatureEngineer where
  host := {
    toFeatureHost := FeatureStore.exampleHost
    plus := PyFloat.exactly fun a b => a + b
    fromtimestamp x := match x with
      | .finite q => .ok (q * 1000000).floor
      | _ => .error "cannot convert float to integer"
    monthDay _ := (1,5)
    floatZero := rfl
    roundOne _ := rfl
    divideZero _ positive := if_pos ⟨rfl,positive⟩ }
  unusualHours := [0,1,2,3,4,5]
  holidays := [(1,1),(1,20),(2,17),(5,26),(6,19),(7,4),(9,1),(10,13),(11,11),(11,27),(12,25)]
  rapidThreshold := 60

def statisticsStore : FeatureStore :=
  {FeatureStore.exampleStore with cache := some fun key => .ok (if key = "features:t1" then
    some (.ofList [("account_avg_amount",.float (.finite 50)),("account_std_amount",.float (.finite 25))]) else none)}

def exampleProfile : Record :=
  .ofList [("avg_transaction_amount",.float (.finite 50)),("std_transaction_amount",.float (.finite 25))]

def datedTransaction (timestamp : Value) : Record := .ofList [("transaction_amount",.int 100),("transaction_timestamp",timestamp)]

theorem same_statistics : exampleEngineer.SameStatistics statisticsStore (.str "t1") (.str "c1") exampleProfile (.finite 50) (.finite 25) :=
  ⟨fun _ member => member,rfl,rfl,rfl,rfl,rfl,by decide⟩

theorem training_serving_agree_text : ∃ features v,
    exampleEngineer.computeTransactionFeatures (datedTransaction (.str "2026-01-05T13:00:00")) exampleProfile = .ok features ∧
    statisticsStore.getFeatures (.str "t1") (.str "c1") (datedTransaction (.str "2026-01-05T13:00:00")) = .ok v ∧
    (exampleEngineer.Agree features v ↔ Comparable (datedTransaction (.str "2026-01-05T13:00:00")) (.finite 50) ⟨1767618000000000,0⟩) :=
  ⟨_,_,rfl,rfl,training_serving_agree same_statistics rfl rfl rfl⟩

theorem datetime_disagrees : ∃ features v,
    exampleEngineer.computeTransactionFeatures (datedTransaction (.datetime 1767618000000000 none)) exampleProfile = .ok features ∧
    statisticsStore.getFeatures (.str "t1") (.str "c1") (datedTransaction (.datetime 1767618000000000 none)) = .ok v ∧
    ¬exampleEngineer.Agree features v := by
  refine ⟨_,_,rfl,rfl,?_⟩
  intro agree
  have wrong := agree.hour
  revert wrong
  decide +kernel

end RiskPulse.FeatureEngineer
