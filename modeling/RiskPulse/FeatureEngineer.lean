import RiskPulse.FeatureStore
import RiskPulse.Library.Fallible
import RiskPulse.RuleStore

namespace RiskPulse

-- An aware datetime: its wall clock in microseconds and its UTC offset in seconds.
structure AwareTime where
  wall : Int
  offset : Int

namespace AwareTime

def instant (t : AwareTime) : Int := t.wall - t.offset * 1000000

-- (later - earlier).total_seconds()
def totalSeconds (later earlier : AwareTime) : Rat := (later.instant - earlier.instant : Int) / 1000000

end AwareTime

structure EngineerHost extends FeatureHost where
  plus : PyFloat → PyFloat → PyFloat
  fromtimestamp : PyFloat → Except String Int
  monthDay : Int → Int × Int
  floatZero : float (.int 0) = .ok (.finite 0)
  roundOne : ∀ digits, arithmetic.round (.finite 1) digits = .finite 1
  divideZero : ∀ x, x.greater (.finite 0) = true → arithmetic.divide (.finite 0) x = .finite 0

structure FeatureEngineer where
  host : EngineerHost
  unusualHours : List Int
  holidays : List (Int × Int)
  rapidThreshold : Int

structure VelocityTotals where
  count1h : Nat
  count24h : Nat
  count7d : Nat
  sum1h : PyFloat
  sum24h : PyFloat
  merchants24h : List Value
  countries24h : List Value

namespace FeatureEngineer

structure FeatureResult where
  transactionId : Value
  features : Record
  error : Option String

variable (c : FeatureEngineer)

def parseTimestamp (value : Value) : Except String (Option AwareTime) :=
  match value with
  | .datetime wall offset => .ok (some ⟨wall,offset.getD 0⟩)
  | .bool b => (c.host.fromtimestamp (.ofBool b)).map fun wall => some ⟨wall,0⟩
  | .int n => (c.host.fromtimestamp (.finite n)).map fun wall => some ⟨wall,0⟩
  | .float x => (c.host.fromtimestamp x).map fun wall => some ⟨wall,0⟩
  | .str text => .ok ((c.host.fromisoformat (replaceZ text)).map fun parsed => ⟨parsed.1,parsed.2.getD 0⟩)
  | _ => .ok none

def timestampOf (transaction : Record) : Except String (Option AwareTime) :=
  c.parseTimestamp (transaction.value "transaction_timestamp")

-- float(transaction.get("transaction_amount", 0))
def amountOf (transaction : Record) : Except String PyFloat := c.host.float (transaction.getD "transaction_amount" (.int 0))

def timeSinceLast (ts : Option AwareTime) (lastTxnTs : Value) : Except String PyFloat :=
  match ts with
  | none => .ok (.finite 0)
  | some now =>
    if lastTxnTs.truthy then do
      match ← c.parseTimestamp lastTxnTs with
      | some last => pure (.finite (now.totalSeconds last))
      | none => pure (.finite 0)
    else .ok (.finite 0)

def computeTransactionFeatures (transaction profile : Record) : Except String Record := do
  let amount ← c.amountOf transaction
  let ts ← c.timestampOf transaction
  let avgAmount ← c.host.float (profile.getD "avg_transaction_amount" (.int 0))
  let stdAmount ← c.host.float (profile.getD "std_transaction_amount" (.int 0))
  let amountZscore :=
    if stdAmount.greater (.finite 0) then c.host.arithmetic.divide (c.host.arithmetic.minus amount avgAmount) stdAmount
    else .finite 0
  let dayOfWeek := match ts with
    | some t => dayOfWeek t.wall
    | none => 0
  let timeSinceLast ← c.timeSinceLast ts (profile.value "last_transaction_timestamp")
  let amountToAvgRatio := if avgAmount.greater (.finite 0) then c.host.arithmetic.divide amount avgAmount else .finite 0
  pure (.ofList [
    ("amount_zscore",.float (c.host.arithmetic.round amountZscore 6)),
    ("hour_of_day",.int (match ts with
      | some t => hourOfDay t.wall
      | none => 0)),
    ("day_of_week",.int dayOfWeek),
    ("is_weekend",.bool (ts.isSome && decide (5 ≤ dayOfWeek))),
    ("is_holiday",.bool (match ts with
      | some t => decide (c.host.monthDay t.wall ∈ c.holidays)
      | none => false)),
    ("time_since_last_transaction",.float (c.host.arithmetic.round timeSinceLast 2)),
    ("amount_to_avg_ratio",.float (c.host.arithmetic.round amountToAvgRatio 6))])

-- seen.add(v), where v is not empty
def addTruthy (seen : List Value) (v : Value) : Except String (List Value) :=
  if v.truthy then
    match v.dictKey with
    | some key => .ok (if key ∈ seen then seen else seen ++ [key])
    | none => .error "unhashable type"
  else .ok seen

def velocityStep (ts : AwareTime) (totals : VelocityTotals) (h : Record) : Except String VelocityTotals := do
  match ← c.timestampOf h with
  | none => pure totals
  | some at_ =>
    let delta := ts.totalSeconds at_
    -- Future transactions are skipped.
    if delta < 0 then pure totals
    else do
      let amount ← c.amountOf h
      let merchants ← if delta ≤ 86400 then addTruthy totals.merchants24h (h.getD "merchant_id" (.str "")) else pure totals.merchants24h
      let countries ← if delta ≤ 86400 then addTruthy totals.countries24h (h.getD "geo_country" (.str "")) else pure totals.countries24h
      pure ⟨if delta ≤ 3600 then totals.count1h + 1 else totals.count1h,
        if delta ≤ 86400 then totals.count24h + 1 else totals.count24h,
        if delta ≤ 604800 then totals.count7d + 1 else totals.count7d,
        if delta ≤ 3600 then c.host.plus totals.sum1h amount else totals.sum1h,
        if delta ≤ 86400 then c.host.plus totals.sum24h amount else totals.sum24h,
        merchants,countries⟩

def velocityRecord (totals : VelocityTotals) : Record := .ofList [
  ("txn_count_1h",.int totals.count1h),
  ("txn_count_24h",.int totals.count24h),
  ("txn_count_7d",.int totals.count7d),
  ("txn_amount_sum_1h",.float (c.host.arithmetic.round totals.sum1h 2)),
  ("txn_amount_sum_24h",.float (c.host.arithmetic.round totals.sum24h 2)),
  ("unique_merchants_24h",.int totals.merchants24h.length),
  ("unique_countries_24h",.int totals.countries24h.length)]

def noTotals : VelocityTotals := ⟨0,0,0,.finite 0,.finite 0,[],[]⟩

-- Where there is no timestamp or no history the sums are 0.0, which rounding keeps.
def computeVelocityFeatures (transaction : Record) (history : List Record) : Except String Record := do
  match ← c.timestampOf transaction with
  | none => pure (c.velocityRecord noTotals)
  | some ts =>
    let totals ← history.foldlM (c.velocityStep ts) noTotals
    pure (c.velocityRecord totals)

def newMerchant (merchantId : Value) (known : List Value) : Except String Bool :=
  if merchantId.truthy then
    match merchantId.dictKey with
    | some key => .ok (decide (key ∉ known))
    | none => .error "unhashable type"
  else .ok false

def amountPercentile (amounts : List PyFloat) (amount : PyFloat) : PyFloat :=
  if amounts = [] then .finite (1 / 2)
  else c.host.arithmetic.divide (.finite (amounts.countP fun a => amount.ge a)) (.finite amounts.length)

def channelSwitch (history : List Record) (channel : Value) : Bool :=
  match history with
  | last :: _ =>
    let lastChannel := last.getD "channel" (.str "")
    channel.truthy && lastChannel.truthy && !(lastChannel.equals channel)
  | [] => false

def computeBehavioralFeatures (transaction : Record) (history : List Record) : Except String Record := do
  let amount ← c.amountOf transaction
  let ts ← c.timestampOf transaction
  let known ← history.foldlM (fun known h => addTruthy known (h.getD "merchant_id" (.str ""))) []
  let newMerchantFlag ← newMerchant (transaction.getD "merchant_id" (.str "")) known
  let amounts ← (history.filter fun h => h.value "transaction_amount" ≠ .none).mapM c.amountOf
  pure (.ofList [
    ("new_merchant_flag",.bool newMerchantFlag),
    ("unusual_hour_flag",.bool (match ts with
      | some t => decide (hourOfDay t.wall ∈ c.unusualHours)
      | none => false)),
    ("amount_percentile",.float (c.host.arithmetic.round (c.amountPercentile amounts amount) 6)),
    ("channel_switch_flag",.bool (channelSwitch history (transaction.getD "channel" (.str ""))))])

def consecutiveDeclined (history : List Record) : Nat :=
  (history.takeWhile fun h => h.value "status" = .str "declined").length

def rapidSuccession (ts : AwareTime) : List Record → Except String Bool
  | [] => .ok false
  | h :: rest => do
    match ← c.timestampOf h with
    | none => rapidSuccession ts rest
    | some at_ =>
      let delta := ts.totalSeconds at_
      if 0 < delta ∧ delta ≤ c.rapidThreshold then pure true
      else if (c.rapidThreshold : Rat) < delta then pure false
      else rapidSuccession ts rest

def computeSequenceFeatures (transaction : Record) (history : List Record) : Except String Record := do
  let ts ← c.timestampOf transaction
  let rapid ← (match ts with
    | some t => c.rapidSuccession t history
    | none => .ok false)
  pure (.ofList [("consecutive_declined_count",.int (consecutiveDeclined history)),("rapid_succession_flag",.bool rapid)])

def computeAll (transaction profile : Record) (history : List Record) : Except String Record := do
  let features ← c.computeTransactionFeatures transaction profile
  let velocity ← c.computeVelocityFeatures transaction history
  let behavioral ← c.computeBehavioralFeatures transaction history
  let sequence ← c.computeSequenceFeatures transaction history
  pure (((features.update velocity).update behavioral).update sequence)

def computeFeatures (transaction : Record) (customerProfile : Option Record) (transactionHistory : Option (List Record)) : FeatureResult :=
  let transactionId := transaction.getD "external_transaction_id" (transaction.getD "transaction_id" (.str "unknown"))
  match c.computeAll transaction (customerProfile.getD .empty) (transactionHistory.getD []) with
  | .ok features => ⟨transactionId,features,none⟩
  | .error e => ⟨transactionId,.empty,some e⟩

end FeatureEngineer
end RiskPulse
