import RiskPulse.RuleConditions

namespace RiskPulse

-- The wall clock of a datetime in microseconds since 1970-01-01, which was a Thursday.
def hourOfDay (wall : Int) : Int := wall / 3600000000 % 24

def minuteOfHour (wall : Int) : Int := wall / 60000000 % 60

def dayOfWeek (wall : Int) : Int := (wall / 86400000000 + 3) % 7

def PyFloat.ofBool (b : Bool) : PyFloat := if b then .finite 1 else .finite 0

-- What the features take from outside: float() and str(), the arithmetic of floats and
-- numpy's log1p, and what fromisoformat makes of a text, as a wall clock and an offset.
structure FeatureHost where
  float : Value → Except String PyFloat
  str : Value → String
  arithmetic : FloatArithmetic
  log1p : PyFloat → PyFloat
  fromisoformat : String → Option (Int × Option Int)
  isoEmpty : fromisoformat "" = none
  floatNone : ∃ e, float .none = .error e
  floatFloat : ∀ x, float (.float x) = .ok x
  timesZero : ∀ q, arithmetic.times (.finite q) (.finite 0) = .finite 0
  timesOne : ∀ x, arithmetic.times x (.finite 1) = x
  timesNan : ∀ x, arithmetic.times .nan x = .nan
  timesInfinity : ∀ negative, arithmetic.times (.infinity negative) (.finite 0) = .nan

-- value.replace("Z", "+00:00")
def replaceZ (text : String) : String :=
  String.ofList (text.toList.flatMap fun char => if char = 'Z' then ['+','0','0',':','0','0'] else [char])

def featureCatalog : List String := [
  "transaction_amount","amount_zscore","amount_to_avg_ratio","amount_percentile","amount_log",
  "hour_of_day","day_of_week","is_weekend","is_holiday","time_since_last_transaction","minutes_since_midnight",
  "txn_count_1h","txn_amount_sum_1h","txn_amount_avg_1h","txn_amount_max_1h",
  "txn_count_24h","txn_amount_sum_24h","txn_amount_avg_24h","txn_amount_max_24h","txn_amount_std_24h",
  "txn_count_7d","txn_amount_sum_7d","txn_amount_avg_7d",
  "unique_merchants_24h","unique_merchants_7d","new_merchant_flag","merchant_risk_score","merchant_txn_count_30d",
  "merchant_fraud_rate",
  "unique_countries_24h","is_international","country_risk_score","distance_from_last_location_km","impossible_travel_flag",
  "known_device_flag","device_age_days","device_txn_count","multiple_accounts_on_device",
  "unusual_hour_flag","channel_switch_flag","amount_deviation_from_mean","amount_deviation_from_median",
  "txn_frequency_deviation",
  "consecutive_declined_count","rapid_succession_flag","time_since_last_decline","decline_rate_24h",
  "account_age_days","account_total_txn_count","account_avg_amount","account_std_amount","account_max_amount",
  "amount_x_velocity","amount_x_hour_risk","international_x_new_merchant","high_amount_x_unusual_hour"]

-- The defaults other than 0.0.
def defaultTable : List (String × Rat) := [
  ("amount_to_avg_ratio",1),("amount_percentile",1 / 2),("hour_of_day",12),("day_of_week",3),
  ("time_since_last_transaction",3600),("minutes_since_midnight",720),("txn_count_1h",1),("txn_count_24h",5),
  ("txn_count_7d",20),("unique_merchants_24h",2),("unique_merchants_7d",5),("merchant_risk_score",1 / 10),
  ("merchant_txn_count_30d",100),("merchant_fraud_rate",1 / 1000),("unique_countries_24h",1),("country_risk_score",1 / 10),
  ("known_device_flag",1),("device_age_days",365),("device_txn_count",100),("time_since_last_decline",86400),
  ("account_age_days",365),("account_total_txn_count",500),("account_avg_amount",50),("account_std_amount",30),
  ("account_max_amount",200)]

-- FEATURE_DEFAULTS.get(name, 0.0)
def featureDefault (name : String) : PyFloat := .finite ((OrderedDict.lookupEntry name defaultTable).getD 0)

abbrev Features := OrderedDict String PyFloat

structure FeatureVector where
  transactionId : Value
  customerId : Value
  features : Features
  featureCount : Nat
  missing : List String
  stale : List String

-- What the cache and the database hold: for a key nothing or something other than a dict,
-- a dict, or an exception. The age of the last update is none where it cannot be read.
structure FeatureStore where
  host : FeatureHost
  cache : Option (String → Except String (Option Record))
  db : Option (Value → Except String (Option Record))
  featureNames : List String
  freshnessCheckEnabled : Bool
  updateAge : Value → Option Rat

namespace FeatureStore
variable (c : FeatureStore)

-- {k: float(v) for k, v in entries}
def floats : List (String × Value) → Except String (List (String × PyFloat))
  | [] => .ok []
  | (k,v) :: rest => do
    let x ← c.host.float v
    let others ← floats rest
    pure ((k,x) :: others)

def converted (entries : List (String × Value)) : Except String Features := (c.floats entries).map OrderedDict.ofList

-- cached and isinstance(cached, dict)
def filled (reply : Option Record) : Option Record := reply.filter fun entry => !entry.entries.isEmpty

def catalogued (entry : Record) : List (String × Value) := entry.entries.filter fun item => item.1 ∈ c.featureNames

def getFromCache (transactionId customerId : Value) : Features :=
  match c.cache with
  | none => .empty
  | some get =>
    let read : Except String Features := do
      let cached ← get ("features:" ++ c.host.str transactionId)
      match filled cached with
      | some entry => c.converted (c.catalogued entry)
      | none =>
        let profile ← get ("customer_profile:" ++ c.host.str customerId)
        match filled profile with
        | some entry => c.converted (c.catalogued entry)
        | none => pure .empty
    match read with
    | .ok features => features
    | .error _ => .empty

def getFromDb (transactionId : Value) (featureNames : List String) : Features :=
  match c.db with
  | none => .empty
  | some getTransactionFeatures =>
    let read : Except String Features := do
      let result ← getTransactionFeatures transactionId
      match filled result with
      | some entry => c.converted (entry.entries.filter fun item => item.1 ∈ featureNames ∧ item.2 ≠ .none)
      | none => pure .empty
    match read with
    | .ok features => features
    | .error _ => .empty

def amountFeatures (amount avg std : PyFloat) : List (String × PyFloat) :=
  [("transaction_amount",amount),
    ("amount_log",c.host.log1p amount),
    ("amount_zscore",if std.greater (.finite 0) then c.host.arithmetic.divide (c.host.arithmetic.minus amount avg) std else .finite 0)] ++
  (if avg.greater (.finite 0) then [("amount_to_avg_ratio",c.host.arithmetic.divide amount avg)] else []) ++
  [("amount_deviation_from_mean",c.host.arithmetic.minus amount avg)]

def clockFeatures (wall : Int) : List (String × PyFloat) :=
  [("hour_of_day",.finite (hourOfDay wall)),
    ("day_of_week",.finite (dayOfWeek wall)),
    ("is_weekend",.ofBool (decide (5 ≤ dayOfWeek wall))),
    ("minutes_since_midnight",.finite (hourOfDay wall * 60 + minuteOfHour wall)),
    ("unusual_hour_flag",.ofBool (decide (hourOfDay wall < 6 ∨ 23 < hourOfDay wall)))]

-- Only text is read as a timestamp.
def timestampFeatures (timestamp : Value) : List (String × PyFloat) :=
  match timestamp with
  | .str text =>
    if text = "" then []
    else
      match c.host.fromisoformat (replaceZ text) with
      | some (wall,_) => clockFeatures wall
      | none => []
  | _ => []

def geographicFeatures (isInternational : Value) : List (String × PyFloat) :=
  if isInternational = .none then [] else [("is_international",.ofBool isInternational.truthy)]

def channelFeatures (channel lastChannel : Value) : List (String × PyFloat) :=
  if channel.truthy ∧ lastChannel.truthy ∧ channel.equals lastChannel = false then [("channel_switch_flag",.finite 1)] else []

def computeTransactionFeatures (transactionData : Record) (existing : Features) : Except String Features := do
  let amount := transactionData.value "transaction_amount"
  let amountPart ←
    if amount = .none then pure []
    else do
      let x ← c.host.float amount
      pure (c.amountFeatures x (existing.getD "account_avg_amount" (featureDefault "account_avg_amount"))
        (existing.getD "account_std_amount" (featureDefault "account_std_amount")))
  pure (.ofList (amountPart ++ c.timestampFeatures (transactionData.value "transaction_timestamp") ++
    geographicFeatures (transactionData.value "is_international") ++
    channelFeatures (transactionData.value "channel") (transactionData.value "last_channel")))

def computeCrossFeatures (features : Features) : Features :=
  let amount := features.getD "transaction_amount" (.finite 0)
  let velocity1h := features.getD "txn_count_1h" (.finite 0)
  let hourRisk := PyFloat.ofBool ((features.getD "unusual_hour_flag" (.finite 0)).greater (.finite 0))
  let isIntl := features.getD "is_international" (.finite 0)
  let newMerchant := features.getD "new_merchant_flag" (.finite 0)
  let times := c.host.arithmetic.times
  .ofList [("amount_x_velocity",times amount velocity1h),
    ("amount_x_hour_risk",times amount hourRisk),
    ("international_x_new_merchant",times isIntl newMerchant),
    ("high_amount_x_unusual_hour",
      times (.ofBool (amount.greater (times (features.getD "account_avg_amount" (.finite 50)) (.finite 3)))) hourRisk)]

def applyDefaults (features : Features) : List String → List String × Features
  | [] => ([],features)
  | name :: rest =>
    match features.get? name with
    | some _ => applyDefaults features rest
    | none =>
      let (missing,all) := applyDefaults (features.set name (featureDefault name)) rest
      (name :: missing,all)

def named (part : List Char) : List String := c.featureNames.filter fun name => part <:+: name.toList

def checkFreshness (customerId : Value) : List String :=
  match c.cache,c.updateAge customerId with
  | some _,some age => (if 300 < age then c.named ['1','h'] else []) ++ if 900 < age then c.named ['2','4','h'] else []
  | _,_ => []

-- What the cache and the database give, before anything is computed.
def retrieved (transactionId customerId : Value) : Features :=
  let cached := c.getFromCache transactionId customerId
  cached.update (c.getFromDb transactionId (c.featureNames.filter fun name => name ∉ cached.keys))

def getFeatures (transactionId customerId : Value) (transactionData : Record) : Except String FeatureVector := do
  let features := c.retrieved transactionId customerId
  let computed ← c.computeTransactionFeatures transactionData features
  let features := features.update computed
  let features := features.update (c.computeCrossFeatures features)
  let (missing,features) := applyDefaults features c.featureNames
  let stale := if c.freshnessCheckEnabled then c.checkFreshness customerId else []
  pure ⟨transactionId,customerId,features,features.keys.length,missing,stale⟩

end FeatureStore
end RiskPulse
