import RiskPulse.FeatureEngineer

namespace RiskPulse

-- How float() can fail: with a TypeError or ValueError, or with an OverflowError.
inductive FloatError where
  | refused
  | overflow

-- What the fraud rules take of Python: float(), the first format of strptime that reads a
-- text, the arithmetic of floats, and list.sort(), whose order depends on the algorithm
-- where nan is among the numbers.
structure FraudRuleHost where
  float : Value → Except FloatError PyFloat
  strptime : String → Option AwareTime
  times : PyFloat → PyFloat → PyFloat
  minus : PyFloat → PyFloat → PyFloat
  sort : List PyFloat → List PyFloat
  sorted : ∀ amounts, (sort amounts).Perm amounts
  floatFloat : ∀ x, float (.float x) = .ok x
  tooLarge : ∃ n, float (.int n) = .error .overflow

namespace PyFloat

-- a * b and a - b where nothing is rounded; the infinities are as the machine's.
def product : PyFloat → PyFloat → PyFloat
  | .finite a,.finite b => .finite (a * b)
  | .infinity s,.infinity t => .infinity (s != t)
  | .finite a,.infinity t => if a = 0 then .nan else .infinity (decide (a < 0) != t)
  | .infinity s,.finite b => if b = 0 then .nan else .infinity (s != decide (b < 0))
  | _,_ => .nan

def difference : PyFloat → PyFloat → PyFloat
  | .finite a,.finite b => .finite (a - b)
  | .infinity s,.infinity t => if s = t then .nan else .infinity s
  | .finite _,.infinity t => .infinity !t
  | .infinity s,.finite _ => .infinity s
  | _,_ => .nan

end PyFloat

-- Python on numbers, with arithmetic that rounds nothing.
def FraudRuleHost.exact : FraudRuleHost where
  float v := match v with
    | .int n => if n < 10 ^ 309 then .ok (.finite n) else .error .overflow
    | v => match v.number with
      | some x => .ok x
      | none => .error .refused
  strptime _ := none
  times := PyFloat.product
  minus := PyFloat.difference
  sort amounts := amounts.mergeSort fun a b => b.ge a
  sorted amounts := amounts.mergeSort_perm _
  floatFloat _ := rfl
  tooLarge := ⟨10 ^ 309,if_neg (lt_irrefl _)⟩

-- The entries of a rule's parameters that the rules over recent transactions read.
structure RuleParameters where
  maxCount : Option Int
  minDeclines : Option Int
  minTransactions : Option Int
  escalationFactor : Option PyFloat
  windowMinutes : Option PyFloat
  smallAmountThreshold : Option PyFloat
  minSmallCount : Option Int
  largeAmountThreshold : Option PyFloat
  silenceHours : Option PyFloat
  burstCount : Option Int
  burstWindowMinutes : Option PyFloat

structure FraudRule where
  id : String
  name : String
  category : String
  severity : String
  confidence : PyFloat
  parameters : RuleParameters

namespace FraudRuleEngine

structure RuleMatch where
  ruleId : String
  ruleName : String
  category : String
  severity : String
  confidence : PyFloat
  parameters : Record

def matched (rule : FraudRule) (parameters : List (String × Value)) : Option RuleMatch :=
  some ⟨rule.id,rule.name,rule.category,rule.severity,rule.confidence,.ofList parameters⟩

variable (h : FraudRuleHost)

def safeFloat (value : Value) : Except String PyFloat :=
  match h.float value with
  | .ok x => .ok x
  | .error .refused => .ok (.finite 0)
  | .error .overflow => .error "int too large to convert to float"

def parseTimestamp (ts : Value) : Option AwareTime :=
  match ts with
  | .datetime wall offset => some ⟨wall,offset.getD 0⟩
  | .str text => h.strptime text
  | _ => none

def timestampOf (txn : Record) : Option AwareTime := parseTimestamp h (txn.value "transaction_timestamp")

def amountOf (txn : Record) : Except String PyFloat := safeFloat h (txn.value "transaction_amount")

def statusOf (txn : Record) : Value := txn.getD "status" (txn.getD "transaction_status" (.str ""))

-- abs((txn_ts - rt_ts).total_seconds()) <= window_seconds, where the entry has a timestamp
def inWindow (txnTs : AwareTime) (windowSeconds : PyFloat) (rt : Record) : Bool :=
  match timestampOf h rt with
  | some rtTs => windowSeconds.ge (.finite |txnTs.totalSeconds rtTs|)
  | none => false

def windowSeconds (rule : FraudRule) (fallback : Rat) : PyFloat :=
  h.times (rule.parameters.windowMinutes.getD (.finite fallback)) (.finite 60)

def evalRapidTransactions (rule : FraudRule) (txn : Record) (recent : List Record) : Except String (Option RuleMatch) :=
  let maxCount := rule.parameters.maxCount.getD 5
  match timestampOf h txn with
  | none => .ok none
  | some txnTs =>
    if recent = [] then .ok none
    else
      let count := recent.countP (inWindow h txnTs (windowSeconds h rule 10))
      if maxCount ≤ count then
        .ok (matched rule [("count",.int count),("window_minutes",.float (rule.parameters.windowMinutes.getD (.finite 10)))])
      else .ok none

def evalDeclinedThenApproved (rule : FraudRule) (txn : Record) (recent : List Record) : Except String (Option RuleMatch) :=
  let minDeclines := rule.parameters.minDeclines.getD 3
  if statusOf txn ≠ .str "approved" then .ok none
  else
    match timestampOf h txn with
    | none => .ok none
    | some txnTs =>
      let declineCount := recent.countP fun rt => inWindow h txnTs (windowSeconds h rule 30) rt && decide (statusOf rt = .str "declined")
      if minDeclines ≤ declineCount then .ok (matched rule [("decline_count",.int declineCount)]) else .ok none

-- amounts[-min_txns:]
def lastFew (minTxns : Int) (amounts : List PyFloat) : List PyFloat :=
  if 0 < minTxns then amounts.drop (amounts.length - minTxns.toNat) else amounts.drop (-minTxns).toNat

def isEscalating (factor : PyFloat) : List PyFloat → Bool
  | a :: b :: rest => (if a.greater (.finite 0) then b.ge (h.times a factor) else true) && isEscalating factor (b :: rest)
  | _ => true

-- Whether the sorted amounts escalate.
def escalatingMatch (rule : FraudRule) (amounts : List PyFloat) : Except String (Option RuleMatch) :=
  let minTxns := rule.parameters.minTransactions.getD 3
  let factor := rule.parameters.escalationFactor.getD (.finite 2)
  if (amounts.length : Int) < minTxns then .ok none
  else
    let few := lastFew minTxns amounts
    if isEscalating h factor few then
      match few with
      | [] => .error "list index out of range"
      | smallest :: _ =>
        if smallest.greater (.finite 0) then
          .ok (matched rule [("amounts",.list (few.map .float)),("factor",.float factor)])
        else .ok none
    else .ok none

def evalEscalatingAmounts (rule : FraudRule) (txn : Record) (recent : List Record) : Except String (Option RuleMatch) :=
  match timestampOf h txn with
  | none => .ok none
  | some txnTs =>
    if (recent.length : Int) < rule.parameters.minTransactions.getD 3 - 1 then .ok none
    else do
      let before ← (recent.filter (inWindow h txnTs (windowSeconds h rule 60))).mapM (amountOf h)
      let own ← amountOf h txn
      escalatingMatch h rule (h.sort (before ++ [own]))

def smallStep (txnTs : AwareTime) (windowSeconds smallThreshold : PyFloat) (smallCount : Nat) (rt : Record) : Except String Nat :=
  match timestampOf h rt with
  | none => .ok smallCount
  | some rtTs => do
    let rtAmount ← amountOf h rt
    if windowSeconds.ge (.finite |txnTs.totalSeconds rtTs|) ∧ smallThreshold.ge rtAmount then pure (smallCount + 1) else pure smallCount

def evalCardTesting (rule : FraudRule) (txn : Record) (recent : List Record) : Except String (Option RuleMatch) := do
  let smallThreshold := rule.parameters.smallAmountThreshold.getD (.finite 5)
  let minSmall := rule.parameters.minSmallCount.getD 3
  let largeThreshold := rule.parameters.largeAmountThreshold.getD (.finite 500)
  let amount ← amountOf h txn
  if largeThreshold.greater amount then pure none
  else
    match timestampOf h txn with
    | none => pure none
    | some txnTs => do
      let smallCount ← recent.foldlM (smallStep h txnTs (windowSeconds h rule 30) smallThreshold) 0
      if minSmall ≤ smallCount then pure (matched rule [("small_count",.int smallCount),("large_amount",.float amount)])
      else pure none

-- max(timestamps), where there are any
def latest : List AwareTime → Option AwareTime
  | [] => none
  | first :: rest => some (rest.foldl (fun best ts => if best.instant < ts.instant then ts else best) first)

-- Whether the time before the burst was silent: since the last transaction before it, or as
-- the context says where there is none.
def silent (rule : FraudRule) (txnTs : AwareTime) (ctx : Record) (burstWindow : PyFloat) (preBurst : List AwareTime) : Except String Bool :=
  let silenceSec := h.times (rule.parameters.silenceHours.getD (.finite 48)) (.finite 3600)
  match latest preBurst with
  | some last => .ok (!silenceSec.greater (h.minus (.finite (txnTs.totalSeconds last)) burstWindow))
  | none => do
    let daysSince ← safeFloat h (ctx.getD "days_since_last_transaction" (.int 0))
    pure (!silenceSec.greater (h.times daysSince (.finite 86400)))

def evalBurstAfterSilence (rule : FraudRule) (txn ctx : Record) (recent : List Record) : Except String (Option RuleMatch) :=
  let burstCount := rule.parameters.burstCount.getD 5
  let burstWindow := h.times (rule.parameters.burstWindowMinutes.getD (.finite 30)) (.finite 60)
  match timestampOf h txn with
  | none => .ok none
  | some txnTs =>
    if recent = [] then .ok none
    else
      let timestamps := (recent.filterMap (timestampOf h)).mergeSort fun a b => decide (a.instant ≤ b.instant)
      if timestamps = [] then .ok none
      else
        let inBurst := timestamps.countP fun ts => burstWindow.ge (.finite |txnTs.totalSeconds ts|)
        if (inBurst : Int) < burstCount - 1 then .ok none
        else do
          let preBurst := timestamps.filter fun ts => (PyFloat.finite (txnTs.totalSeconds ts)).greater burstWindow
          if ← silent h rule txnTs ctx burstWindow preBurst then
            pure (matched rule [("burst_count",.int (inBurst + 1)),
              ("silence_hours",.float (rule.parameters.silenceHours.getD (.finite 48)))])
          else pure none

end FraudRuleEngine
end RiskPulse
