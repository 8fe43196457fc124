import Mathlib.Algebra.Order.Field.Rat
import RiskPulse.Alerts
import RiskPulse.Library.SlidingWindow

namespace RiskPulse
open SlidingWindow

-- The digest of a key text and the text an f-string prints for a value come from
-- Python's library; distinct key texts have distinct digests.
structure DeduplicationEngine where
  windowSeconds : Rat
  maxEntries : Int
  str : Value → String
  digest : String → String
  injective : Function.Injective digest

abbrev Seen := OrderedDict String (List Rat)

namespace DeduplicationEngine

def rawKey (e : DeduplicationEngine) (accountId ruleId : Value) (alertType : AlertType) : String :=
  e.str accountId ++ ":" ++ (if ruleId.truthy then e.str ruleId else "none") ++ ":" ++ alertType.value

def generateDedupKey (e : DeduplicationEngine) (accountId ruleId : Value) (alertType : AlertType) : String :=
  e.digest (rawKey e accountId ruleId alertType)

-- Remove entries with all timestamps expired.
def evictExpired (e : DeduplicationEngine) (now : Rat) (seen : Seen) : Seen :=
  let expired := seen.entries.filter fun entry => entry.2.all fun ts => decide (e.windowSeconds ≤ now - ts)
  (expired.map Prod.fst).foldl OrderedDict.erase seen

-- Record this alert, then evict when over capacity.
def record (e : DeduplicationEngine) (key : String) (now : Rat) (seen : Seen) : Seen :=
  let seen := seen.set key (seen.getD key [] ++ [now])
  if e.maxEntries < seen.entries.length then evictExpired e now seen else seen

def isDuplicate (e : DeduplicationEngine) (accountId ruleId : Value) (alertType : AlertType) (now : Rat) (seen : Seen) :
    Bool × Seen :=
  let key := generateDedupKey e accountId ruleId alertType
  match seen.get? key with
  | some stamps =>
    let fresh := recent e.windowSeconds now stamps
    let seen := seen.set key fresh
    if fresh.isEmpty then (false,record e key now seen) else (true,seen)
  | none => (false,record e key now seen)

end DeduplicationEngine

-- The accounts whose alerts are suppressed, with the reason and when it was set.
abbrev SuppressedAccounts := Value → Option (String × Rat)

structure SuppressionEngine where
  cooldownSeconds : Rat

namespace SuppressionEngine

def addSuppression (accountId : Value) (reason : String) (now : Rat) (accounts : SuppressedAccounts) :
    SuppressedAccounts := Function.update accounts accountId (some (reason,now))

def isSuppressed (e : SuppressionEngine) (accountId : Value) (now : Rat) (accounts : SuppressedAccounts) :
    Bool × SuppressedAccounts :=
  match accounts accountId with
  | none => (false,accounts)
  | some (_,timestamp) =>
    if e.cooldownSeconds < now - timestamp then (false,Function.update accounts accountId none) else (true,accounts)

end SuppressionEngine

structure ThrottleEngine where
  maxPerAccountPerHour : Int
  maxPerRulePerHour : Int
  maxTotalPerMinute : Int
  stormThreshold : Int
  str : Value → String

structure ThrottleState where
  accountCounts : Value → List Rat
  ruleCounts : Value → List Rat
  totalTimestamps : List Rat
  stormActive : Bool
  stormCooldownUntil : Rat

def ThrottleState.start : ThrottleState := ⟨fun _ => [],fun _ => [],[],false,0⟩

namespace ThrottleEngine

def pruneTotal (now : Rat) (s : ThrottleState) : ThrottleState :=
  {s with totalTimestamps := recent 60 now s.totalTimestamps}

def pruneAccount (now : Rat) (accountId : Value) (s : ThrottleState) : ThrottleState :=
  {s with accountCounts := Function.update s.accountCounts accountId (recent 3600 now (s.accountCounts accountId))}

def pruneRule (now : Rat) (ruleId : Value) (s : ThrottleState) : ThrottleState :=
  {s with ruleCounts := Function.update s.ruleCounts ruleId (recent 3600 now (s.ruleCounts ruleId))}

def recordAlert (now : Rat) (accountId : Value) (s : ThrottleState) : ThrottleState :=
  {s with
    totalTimestamps := s.totalTimestamps ++ [now]
    accountCounts := Function.update s.accountCounts accountId (s.accountCounts accountId ++ [now])}

def recordRule (now : Rat) (ruleId : Value) (s : ThrottleState) : ThrottleState :=
  {s with ruleCounts := Function.update s.ruleCounts ruleId (s.ruleCounts ruleId ++ [now])}

def startStorm (now : Rat) (s : ThrottleState) : ThrottleState :=
  {s with stormActive := true,stormCooldownUntil := now + 300}

-- Whether the alert is throttled, and why. A key that cannot be hashed raises where
-- it is first looked up; an alert with no rule id has no rule to be limited by.
def shouldThrottle (e : ThrottleEngine) (accountId ruleId : Value) (now : Rat) (s : ThrottleState) :
    Except String (Bool × String) × ThrottleState :=
  if s.stormActive = true ∧ now < s.stormCooldownUntil then (.ok (true,"alert_storm_active"),s)
  else
    let s := pruneTotal now s
    if e.maxTotalPerMinute ≤ s.totalTimestamps.length then (.ok (true,"total_rate_exceeded"),s)
    else if e.stormThreshold ≤ s.totalTimestamps.length then
      (.ok (true,"alert_storm_triggered"),startStorm now s)
    else if accountId.hashable = false then (.error "unhashable type",s)
    else
      let s := pruneAccount now accountId s
      if e.maxPerAccountPerHour ≤ (s.accountCounts accountId).length then
        (.ok (true,"account_rate_exceeded:" ++ e.str accountId),s)
      else if ruleId.truthy = false then (.ok (false,""),recordAlert now accountId s)
      else if ruleId.hashable = false then (.error "unhashable type",s)
      else
        let s := pruneRule now ruleId s
        if e.maxPerRulePerHour ≤ (s.ruleCounts ruleId).length then
          (.ok (true,"rule_rate_exceeded:" ++ e.str ruleId),s)
        else (.ok (false,""),recordRule now ruleId (recordAlert now accountId s))

end ThrottleEngine
end RiskPulse
