import Mathlib.Algebra.Order.Field.Rat
import Mathlib.Logic.Function.Basic
import RiskPulse.Library.Glob
import RiskPulse.Library.JsonText
import RiskPulse.Library.Runs
import RiskPulse.ProcessingLock
import RiskPulse.RateLimiter

-- Values under keys, each until its deadline, and the clock that the deadlines are read
-- against.
structure ExpiringStore (κ β : Type) where
  now : Rat
  entries : κ → Option (β × Rat)

namespace ExpiringStore
variable {κ β : Type}

def empty (now : Rat) : ExpiringStore κ β := ⟨now,fun _ => none⟩

def get? (s : ExpiringStore κ β) (key : κ) : Option β :=
  match s.entries key with
  | some (value,deadline) => if s.now < deadline then some value else none
  | none => none

def put [DecidableEq κ] (s : ExpiringStore κ β) (key : κ) (value : β) (deadline : Rat) : ExpiringStore κ β :=
  {s with entries := Function.update s.entries key (some (value,deadline))}

-- The keys that are chosen are deleted.
def discard (s : ExpiringStore κ β) (chosen : κ → Bool) : ExpiringStore κ β :=
  {s with entries := fun key => if chosen key = true then none else s.entries key}

def elapse (s : ExpiringStore κ β) (time : Rat) : ExpiringStore κ β := {s with now := s.now + time}

section Laws
variable {s : ExpiringStore κ β} {key other : κ}

theorem entries_kept (s : ExpiringStore κ β) (left : chosen key = false) : (s.discard chosen).entries key = s.entries key :=
  if_neg (ne_true_of_eq_false left)

variable [DecidableEq κ]

theorem entries_put (s : ExpiringStore κ β) (key : κ) (value : β) (deadline : Rat) : (s.put key value deadline).entries key = some (value,deadline) :=
  Function.update_self _ _ _

theorem entries_put_other (s : ExpiringStore κ β) (value : β) (deadline : Rat) (different : other ≠ key) :
    (s.put key value deadline).entries other = s.entries other := Function.update_of_ne different _ _

end Laws
end ExpiringStore

namespace RiskPulse

-- Keys and identifiers by the bytes that Redis gets of them.
abbrev RedisText := List UInt8

def utf8 (text : String) : RedisText := text.toUTF8.data.toList

def RedisOutcome.executed : RedisOutcome → Bool
  | .answered => true
  | .raised executed => executed

-- The velocity counters: each a number and when it expires.
structure VelocityStore where
  now : Rat
  counters : RedisText → Option (Nat × Rat)
  errors : Nat

-- The keys that are in the cache, each once.
structure CacheContent where
  keys : List RedisText
  distinct : keys.Nodup
  errors : Nat

def CacheContent.without (c : CacheContent) (targets : List RedisText) : CacheContent where
  keys := c.keys.filter fun key => decide (key ∉ targets)
  distinct := c.distinct.filter _
  errors := c.errors

-- A page of a SCAN, and what comes of deleting its keys where there are any.
inductive ScanReply where
  | raised
  | page (keys : List RedisText) (deleting : RedisOutcome)

-- The pages of a SCAN for a pattern up to the one with the cursor 0, and the outcome of a
-- DEL.
structure CacheClient where
  scan : RedisText → CacheContent → List ScanReply
  delete : RedisText → RedisOutcome

namespace CacheHandler

def prefixCustomerProfile : RedisText := utf8 "cp:"
def prefixVelocity : RedisText := utf8 "vel:"

def velocityKey (customerId windowKey : RedisText) : RedisText := prefixVelocity ++ customerId ++ utf8 ":" ++ windowKey

def counter (s : VelocityStore) (key : RedisText) : Nat :=
  match s.counters key with
  | some (count,deadline) => if s.now < deadline then count else 0
  | none => 0

-- INCR and EXPIRE in one transaction. A time to live that is not positive deletes the key.
def incrAndExpire (key : RedisText) (ttl : Int) (s : VelocityStore) : VelocityStore :=
  {s with counters := Function.update s.counters key (if 0 < ttl then some (counter s key + 1,s.now + ttl) else none)}

def recordError (s : VelocityStore) : VelocityStore := {s with errors := s.errors + 1}

def incrementVelocityCounter (customerId windowKey : RedisText) (ttl : Int) (outcome : RedisOutcome) (s : VelocityStore) : Nat × VelocityStore :=
  let key := velocityKey customerId windowKey
  let t := if outcome.executed then incrAndExpire key ttl s else s
  match outcome with
  | .answered => (counter s key + 1,t)
  | .raised _ => (0,recordError t)

def getVelocityCount (customerId windowKey : RedisText) (outcome : RedisOutcome) (s : VelocityStore) : Nat × VelocityStore :=
  match outcome with
  | .answered => (counter s (velocityKey customerId windowKey),s)
  | .raised _ => (0,recordError s)

-- DEL, with the number of keys it has removed.
def delete (targets : List RedisText) (outcome : RedisOutcome) (c : CacheContent) : Nat × CacheContent :=
  match outcome with
  | .answered => (c.keys.length - (c.without targets).keys.length,c.without targets)
  | .raised executed => (0,if executed then c.without targets else c)

def invalidationFailed (c : CacheContent) : CacheContent := {c with errors := c.errors + 1}

-- The loop over the pages.
def invalidateByPattern : List ScanReply → Nat → CacheContent → Nat × CacheContent
  | [],deleted,c => (deleted,c)
  | .raised :: _,deleted,c => (deleted,invalidationFailed c)
  | .page keys deleting :: rest,deleted,c =>
    if keys = [] then invalidateByPattern rest deleted c
    else
      match deleting with
      | .answered => invalidateByPattern rest (deleted + keys.length) (delete keys .answered c).2
      | .raised executed => (deleted,invalidationFailed (delete keys (.raised executed) c).2)

def patterns (customerId : RedisText) : List RedisText :=
  [prefixCustomerProfile ++ customerId,prefixVelocity ++ customerId ++ utf8 ":*"]

-- A pattern with a star is scanned for, another one is deleted as a key.
def invalidatePattern (client : CacheClient) (r : Nat × CacheContent) (pattern : RedisText) : Nat × CacheContent :=
  let (deleted,c) := r
  if 42 ∈ pattern then
    let (more,left) := invalidateByPattern (client.scan pattern c) 0 c
    (deleted + more,left)
  else
    let (more,left) := delete [pattern] (client.delete pattern) c
    (deleted + more,left)

def invalidateCustomerData (client : CacheClient) (customerId : RedisText) (c : CacheContent) : Nat × CacheContent :=
  (patterns customerId).foldl (invalidatePattern client) (0,c)

end CacheHandler

-- The times to live that a handler was made with, and how deep its JSON decoder goes.
structure CacheTtls where
  ttlCustomerProfile : Int
  ttlRecentTransactions : Int
  ttlModelPredictions : Int
  recursionLimit : Nat

structure CacheMetrics where
  hits : Nat
  misses : Nat
  sets : Nat
  deletes : Nat
  errors : Nat
  deriving DecidableEq

namespace CacheMetrics

def reset : CacheMetrics := ⟨0,0,0,0,0⟩
def recordHit (m : CacheMetrics) : CacheMetrics := {m with hits := m.hits + 1}
def recordMiss (m : CacheMetrics) : CacheMetrics := {m with misses := m.misses + 1}
def recordSet (m : CacheMetrics) : CacheMetrics := {m with sets := m.sets + 1}
def recordDelete (m : CacheMetrics) : CacheMetrics := {m with deletes := m.deletes + 1}
def recordError (m : CacheMetrics) : CacheMetrics := {m with errors := m.errors + 1}

end CacheMetrics

-- A dictionary as json.dumps with default=str writes it and json.loads reads it back.
structure CacheDocument (limit : Nat) where
  value : Json
  fits : Json.representable value = true
  shallow : Json.depth value ≤ limit

-- The commands of a pipeline have all been executed, or as many as the server had read when
-- the connection failed.
inductive PipelineOutcome where
  | answered
  | raised (executed : Nat)

-- What a method returns, or that it raises an error that is no RedisError.
inductive CacheReply where
  | flag (value : Bool)
  | document (value : Option Json)
  | number (value : Int)
  | raised

-- The keys of the server with their texts, those of other programs among them, and the
-- handler's metrics.
structure CacheKeyspace where
  store : ExpiringStore RedisText String
  metrics : CacheMetrics

inductive CacheAction (limit : Nat) where
  | setCustomerProfile (customerId : RedisText) (profile : CacheDocument limit) (ttl : Option Int) (outcome : RedisOutcome)
  | getCustomerProfile (customerId : RedisText) (outcome : RedisOutcome)
  | invalidateCustomerProfile (customerId : RedisText) (outcome : RedisOutcome)
  | cacheRecentTransaction (transactionId : RedisText) (transactionData : CacheDocument limit) (ttl : Option Int) (outcome : RedisOutcome)
  | isDuplicateTransaction (transactionId : RedisText) (outcome : RedisOutcome)
  | getRecentTransaction (transactionId : RedisText) (outcome : RedisOutcome)
  | cachePrediction (transactionFingerprint : RedisText) (prediction : CacheDocument limit) (ttl : Option Int) (outcome : RedisOutcome)
  | getCachedPrediction (transactionFingerprint : RedisText) (outcome : RedisOutcome)
  | incrementVelocityCounter (customerId windowKey : RedisText) (ttl : Int) (outcome : RedisOutcome)
  | getVelocityCount (customerId windowKey : RedisText) (outcome : RedisOutcome)
  | acquireProcessingLock (transactionId : RedisText) (lockTtl : Int) (outcome : LockOutcome)
  | releaseProcessingLock (transactionId : RedisText) (outcome : LockOutcome)
  | bulkSetCustomerProfiles (profiles : List (RedisText × CacheDocument limit)) (ttl : Option Int) (outcome : PipelineOutcome)
  | bulkCacheTransactions (transactions : List (RedisText × CacheDocument limit)) (ttl : Option Int) (outcome : PipelineOutcome)
  | invalidateByPattern (pattern : RedisText) (pages : List ScanReply)
  | invalidateCustomerData (customerId : RedisText) (scan : RedisText → List ScanReply) (deleting : RedisOutcome)
  | flushAllCaches (scan : RedisText → List ScanReply)
  | writeAheadCache (transactionId : RedisText) (data : CacheDocument limit) (ttl : Int) (outcome : RedisOutcome)
  | getWriteAheadData (transactionId : RedisText) (outcome : RedisOutcome)
  | confirmWriteAhead (transactionId : RedisText) (outcome : RedisOutcome)
  | resetMetrics
  | elapse (time : {q : Rat // 0 ≤ q})

namespace CacheHandler

def prefixRecentTransactions : RedisText := utf8 "rtx:"
def prefixModelPrediction : RedisText := utf8 "pred:"
def prefixDedup : RedisText := utf8 "dedup:"
def prefixLock : RedisText := utf8 "lock:"

-- The prefixes in the order in which flush_all_caches goes through them.
def prefixes : List RedisText :=
  [prefixCustomerProfile,prefixRecentTransactions,prefixModelPrediction,prefixVelocity,prefixLock,prefixDedup]

end CacheHandler

namespace CacheKeyspace
open CacheHandler

def recordHit (c : CacheKeyspace) : CacheKeyspace := {c with metrics := c.metrics.recordHit}
def recordMiss (c : CacheKeyspace) : CacheKeyspace := {c with metrics := c.metrics.recordMiss}
def recordSet (c : CacheKeyspace) : CacheKeyspace := {c with metrics := c.metrics.recordSet}
def recordDelete (c : CacheKeyspace) : CacheKeyspace := {c with metrics := c.metrics.recordDelete}
def recordError (c : CacheKeyspace) : CacheKeyspace := {c with metrics := c.metrics.recordError}

-- ttl or self._ttl
def effectiveTtl (ttl : Option Int) (configured : Int) : Int :=
  match ttl with
  | some seconds => if seconds = 0 then configured else seconds
  | none => configured

-- SETEX. The server refuses a time to live that is not positive.
def setex (key : RedisText) (ttl : Int) (value : String) (s : ExpiringStore RedisText String) : ExpiringStore RedisText String :=
  if 0 < ttl then s.put key value (s.now + ttl) else s

def del (targets : List RedisText) (s : ExpiringStore RedisText String) : ExpiringStore RedisText String :=
  s.discard fun key => decide (key ∈ targets)

def setDocument (key : RedisText) (ttl : Int) (document : Json) (outcome : RedisOutcome) (c : CacheKeyspace) : CacheReply × CacheKeyspace :=
  let left := if outcome.executed then {c with store := setex key ttl (Json.dumpsLine document) c.store} else c
  match outcome with
  | .answered => if 0 < ttl then (.flag true,left.recordSet) else (.flag false,left.recordError)
  | .raised _ => (.flag false,left.recordError)

def getDocument (limit : Nat) (key : RedisText) (outcome : RedisOutcome) (c : CacheKeyspace) : CacheReply × CacheKeyspace :=
  match outcome with
  | .answered =>
    match c.store.get? key with
    | none => (.document none,c.recordMiss)
    | some data =>
      match Json.loads limit data with
      | .ok value => (.document (some value),c.recordHit)
      | .error _ => (.raised,c.recordHit)
  | .raised _ => (.document none,c.recordError)

def existsDocument (key : RedisText) (outcome : RedisOutcome) (c : CacheKeyspace) : CacheReply × CacheKeyspace :=
  match outcome with
  | .answered => if (c.store.get? key).isSome then (.flag true,c.recordHit) else (.flag false,c.recordMiss)
  | .raised _ => (.flag false,c.recordError)

def deleteDocument (key : RedisText) (outcome : RedisOutcome) (c : CacheKeyspace) : CacheReply × CacheKeyspace :=
  let left := if outcome.executed then {c with store := del [key] c.store} else c
  match outcome with
  | .answered => (.flag true,left.recordDelete)
  | .raised _ => (.flag false,left.recordError)

-- A pipeline of SETEX commands. An empty one is not sent.
def bulkSet (place : RedisText → RedisText) (ttl : Int) (documents : List (RedisText × Json)) (outcome : PipelineOutcome)
    (c : CacheKeyspace) : CacheReply × CacheKeyspace :=
  let setAll (sent : List (RedisText × Json)) : CacheKeyspace :=
    {c with store := sent.foldl (fun s entry => setex (place entry.1) ttl (Json.dumpsLine entry.2) s) c.store}
  if documents = [] then (.number 0,c)
  else
    match outcome with
    | .answered => if 0 < ttl then (.number documents.length,setAll documents) else (.number 0,(setAll documents).recordError)
    | .raised executed => (.number 0,(setAll (documents.take executed)).recordError)

-- A decimal number, as INCR and int read it and INCR writes it.
def integer? (text : String) : Option Int :=
  match Json.numberPart text.toList with
  | some .zero | some .digits => some (Json.integerOf text.toList)
  | _ => none

def numberText (n : Int) : String := String.ofList (Json.encodeInt n)

-- A key that is written and given a time to live: one that is not positive deletes it.
def expire (key : RedisText) (value : String) (ttl : Int) (s : ExpiringStore RedisText String) : ExpiringStore RedisText String :=
  if 0 < ttl then s.put key value (s.now + ttl) else del [key] s

-- INCR and EXPIRE in one transaction. EXPIRE is executed also where INCR fails.
def incrAndExpire (key : RedisText) (ttl : Int) (s : ExpiringStore RedisText String) : Option Int × ExpiringStore RedisText String :=
  match s.get? key with
  | none => (some 1,expire key (numberText 1) ttl s)
  | some text =>
    match integer? text with
    | some value => (some (value + 1),expire key (numberText (value + 1)) ttl s)
    | none => (none,expire key text ttl s)

def incrementVelocityCounter (customerId windowKey : RedisText) (ttl : Int) (outcome : RedisOutcome) (c : CacheKeyspace) : CacheReply × CacheKeyspace :=
  let (value,store) := incrAndExpire (velocityKey customerId windowKey) ttl c.store
  match outcome,value with
  | .answered,some count => (.number count,{c with store := store})
  | .answered,none => (.number 0,recordError {c with store := store})
  | .raised executed,_ => (.number 0,(if executed then {c with store := store} else c).recordError)

def getVelocityCount (customerId windowKey : RedisText) (outcome : RedisOutcome) (c : CacheKeyspace) : CacheReply × CacheKeyspace :=
  match outcome with
  | .answered =>
    match c.store.get? (velocityKey customerId windowKey) with
    | none => (.number 0,c)
    | some value =>
      if value = "" then (.number 0,c)
      else
        match integer? value with
        | some count => (.number count,c)
        | none => (.raised,c)
  | .raised _ => (.number 0,c.recordError)

-- SET key "1" NX EX ttl
def acquireProcessingLock (transactionId : RedisText) (lockTtl : Int) (outcome : LockOutcome) (c : CacheKeyspace) : CacheReply × CacheKeyspace :=
  let key := prefixLock ++ transactionId
  let free := decide (0 < lockTtl) && (c.store.get? key).isNone
  let left := if outcome.executed && free then {c with store := c.store.put key "1" (c.store.now + lockTtl)} else c
  match outcome with
  | .answered => if 0 < lockTtl then (.flag free,left) else (.flag false,left.recordError)
  | .raised _ => (.flag false,left.recordError)

def releaseProcessingLock (transactionId : RedisText) (outcome : LockOutcome) (c : CacheKeyspace) : CacheReply × CacheKeyspace :=
  let left := if outcome.executed then {c with store := del [prefixLock ++ transactionId] c.store} else c
  match outcome with
  | .answered => (.flag true,left)
  | .raised _ => (.flag false,left.recordError)

-- The loop over the pages that a SCAN for the pattern has.
def invalidateByPattern : List ScanReply → Nat → CacheKeyspace → Nat × CacheKeyspace
  | [],deleted,c => (deleted,c)
  | .raised :: _,deleted,c => (deleted,c.recordError)
  | .page keys deleting :: rest,deleted,c =>
    if keys = [] then invalidateByPattern rest deleted c
    else
      match deleting with
      | .answered => invalidateByPattern rest (deleted + keys.length) {c with store := del keys c.store}
      | .raised executed => (deleted,(if executed then {c with store := del keys c.store} else c).recordError)

-- A DEL of one key, of which the metrics learn nothing.
def deletePattern (key : RedisText) (outcome : RedisOutcome) (c : CacheKeyspace) : Nat × CacheKeyspace :=
  match outcome with
  | .answered => (if (c.store.get? key).isSome then 1 else 0,{c with store := del [key] c.store})
  | .raised executed => (0,if executed then {c with store := del [key] c.store} else c)

def invalidateCustomerData (customerId : RedisText) (scan : RedisText → List ScanReply) (deleting : RedisOutcome) (c : CacheKeyspace) : Nat × CacheKeyspace :=
  (patterns customerId).foldl (fun r pattern =>
    let (more,left) := if 42 ∈ pattern then invalidateByPattern (scan pattern) 0 r.2 else deletePattern pattern deleting r.2
    (r.1 + more,left)) (0,c)

-- How many keys are deleted only goes to the log.
def flushAllCaches (scan : RedisText → List ScanReply) (c : CacheKeyspace) : CacheReply × CacheKeyspace :=
  (.flag true,prefixes.foldl (fun c name => (invalidateByPattern (scan (name ++ utf8 "*")) 0 c).2) c)

section Methods
variable (h : CacheTtls)

def setCustomerProfile (customerId : RedisText) (profile : Json) (ttl : Option Int) (outcome : RedisOutcome) : CacheKeyspace → CacheReply × CacheKeyspace :=
  setDocument (prefixCustomerProfile ++ customerId) (effectiveTtl ttl h.ttlCustomerProfile) profile outcome

def getCustomerProfile (customerId : RedisText) (outcome : RedisOutcome) : CacheKeyspace → CacheReply × CacheKeyspace :=
  getDocument h.recursionLimit (prefixCustomerProfile ++ customerId) outcome

def invalidateCustomerProfile (customerId : RedisText) (outcome : RedisOutcome) : CacheKeyspace → CacheReply × CacheKeyspace :=
  deleteDocument (prefixCustomerProfile ++ customerId) outcome

def cacheRecentTransaction (transactionId : RedisText) (transactionData : Json) (ttl : Option Int) (outcome : RedisOutcome) : CacheKeyspace → CacheReply × CacheKeyspace :=
  setDocument (prefixRecentTransactions ++ transactionId) (effectiveTtl ttl h.ttlRecentTransactions) transactionData outcome

def isDuplicateTransaction (transactionId : RedisText) (outcome : RedisOutcome) : CacheKeyspace → CacheReply × CacheKeyspace :=
  existsDocument (prefixRecentTransactions ++ transactionId) outcome

def getRecentTransaction (transactionId : RedisText) (outcome : RedisOutcome) : CacheKeyspace → CacheReply × CacheKeyspace :=
  getDocument h.recursionLimit (prefixRecentTransactions ++ transactionId) outcome

def cachePrediction (transactionFingerprint : RedisText) (prediction : Json) (ttl : Option Int) (outcome : RedisOutcome) : CacheKeyspace → CacheReply × CacheKeyspace :=
  setDocument (prefixModelPrediction ++ transactionFingerprint) (effectiveTtl ttl h.ttlModelPredictions) prediction outcome

def getCachedPrediction (transactionFingerprint : RedisText) (outcome : RedisOutcome) : CacheKeyspace → CacheReply × CacheKeyspace :=
  getDocument h.recursionLimit (prefixModelPrediction ++ transactionFingerprint) outcome

def bulkSetCustomerProfiles (profiles : List (RedisText × Json)) (ttl : Option Int) (outcome : PipelineOutcome) : CacheKeyspace → CacheReply × CacheKeyspace :=
  bulkSet (prefixCustomerProfile ++ ·) (effectiveTtl ttl h.ttlCustomerProfile) profiles outcome

def bulkCacheTransactions (transactions : List (RedisText × Json)) (ttl : Option Int) (outcome : PipelineOutcome) : CacheKeyspace → CacheReply × CacheKeyspace :=
  bulkSet (prefixRecentTransactions ++ ·) (effectiveTtl ttl h.ttlRecentTransactions) transactions outcome

def writeAheadCache (transactionId : RedisText) (data : Json) (ttl : Int) (outcome : RedisOutcome) : CacheKeyspace → CacheReply × CacheKeyspace :=
  setDocument (prefixDedup ++ transactionId) ttl data outcome

def getWriteAheadData (transactionId : RedisText) (outcome : RedisOutcome) : CacheKeyspace → CacheReply × CacheKeyspace :=
  getDocument h.recursionLimit (prefixDedup ++ transactionId) outcome

def confirmWriteAhead (transactionId : RedisText) (outcome : RedisOutcome) : CacheKeyspace → CacheReply × CacheKeyspace :=
  deleteDocument (prefixDedup ++ transactionId) outcome

def counted (result : Nat × CacheKeyspace) : CacheReply × CacheKeyspace := (.number result.1,result.2)

def values (documents : List (RedisText × CacheDocument limit)) : List (RedisText × Json) := documents.map fun entry => (entry.1,entry.2.value)

-- The server also does what the clock does.
def perform (c : CacheKeyspace) : CacheAction h.recursionLimit → CacheReply × CacheKeyspace
  | .setCustomerProfile customerId profile ttl outcome => setCustomerProfile h customerId profile.value ttl outcome c
  | .getCustomerProfile customerId outcome => getCustomerProfile h customerId outcome c
  | .invalidateCustomerProfile customerId outcome => invalidateCustomerProfile customerId outcome c
  | .cacheRecentTransaction transactionId transactionData ttl outcome => cacheRecentTransaction h transactionId transactionData.value ttl outcome c
  | .isDuplicateTransaction transactionId outcome => isDuplicateTransaction transactionId outcome c
  | .getRecentTransaction transactionId outcome => getRecentTransaction h transactionId outcome c
  | .cachePrediction fingerprint prediction ttl outcome => cachePrediction h fingerprint prediction.value ttl outcome c
  | .getCachedPrediction fingerprint outcome => getCachedPrediction h fingerprint outcome c
  | .incrementVelocityCounter customerId windowKey ttl outcome => incrementVelocityCounter customerId windowKey ttl outcome c
  | .getVelocityCount customerId windowKey outcome => getVelocityCount customerId windowKey outcome c
  | .acquireProcessingLock transactionId lockTtl outcome => acquireProcessingLock transactionId lockTtl outcome c
  | .releaseProcessingLock transactionId outcome => releaseProcessingLock transactionId outcome c
  | .bulkSetCustomerProfiles profiles ttl outcome => bulkSetCustomerProfiles h (values profiles) ttl outcome c
  | .bulkCacheTransactions transactions ttl outcome => bulkCacheTransactions h (values transactions) ttl outcome c
  | .invalidateByPattern _ pages => counted (invalidateByPattern pages 0 c)
  | .invalidateCustomerData customerId scan deleting => counted (invalidateCustomerData customerId scan deleting c)
  | .flushAllCaches scan => flushAllCaches scan c
  | .writeAheadCache transactionId data ttl outcome => writeAheadCache transactionId data.value ttl outcome c
  | .getWriteAheadData transactionId outcome => getWriteAheadData h transactionId outcome c
  | .confirmWriteAhead transactionId outcome => confirmWriteAhead transactionId outcome c
  | .resetMetrics => (.flag true,{c with metrics := .reset})
  | .elapse time => (.flag true,{c with store := c.store.elapse time.val})

end Methods
end CacheKeyspace
end RiskPulse
