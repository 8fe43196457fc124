import Mathlib.Algebra.Field.Rat
import Mathlib.Data.Multiset.AddSub
import RiskPulse.Library.Interleaving
import RiskPulse.Record

namespace RiskPulse

inductive StorageBackend where
  | redis
  | postgres
  | s3
  | snowflake
  deriving DecidableEq

-- The two backends written in batches.
inductive BatchBackend where
  | s3
  | snowflake
  deriving DecidableEq

def BatchBackend.backend : BatchBackend → StorageBackend
  | .s3 => .s3
  | .snowflake => .snowflake

inductive StorageState where
  | healthy
  | degraded
  | unavailable
  deriving DecidableEq

structure BackendHealth where
  state : StorageState
  lastSuccess : Rat
  lastFailure : Rat
  consecutiveFailures : Nat
  totalFailures : Nat
  totalSuccesses : Nat
  avgLatencyMs : Rat
  latencySamples : List Rat

namespace BackendHealth

def start : BackendHealth := ⟨.healthy,0,0,0,0,0,0,[]⟩

-- The samples are a deque of at most 100.
def recordSuccess (health : BackendHealth) (now latencyMs : Rat) : BackendHealth :=
  let samples := health.latencySamples ++ [latencyMs]
  let kept := samples.drop (samples.length - 100)
  {health with
    lastSuccess := now
    consecutiveFailures := 0
    totalSuccesses := health.totalSuccesses + 1
    latencySamples := kept
    avgLatencyMs := kept.sum / kept.length
    state := .healthy}

def recordFailure (health : BackendHealth) (now : Rat) : BackendHealth :=
  let failures := health.consecutiveFailures + 1
  {health with
    lastFailure := now
    consecutiveFailures := failures
    totalFailures := health.totalFailures + 1
    state := if 5 ≤ failures then .unavailable else if 2 ≤ failures then .degraded else health.state}

end BackendHealth

-- What the orchestrator was built with: which handlers it has and its settings.
-- The text of a transaction id, as an f-string prints it, is a parameter.
structure StorageOrchestrator where
  cache : Bool
  postgres : Bool
  s3 : Bool
  snowflake : Bool
  s3BatchSize : Int
  snowflakeBatchSize : Int
  enableWriteAhead : Bool
  cbThreshold : Int
  cbTimeout : Rat
  str : Value → String

-- The state the calls share. The first four fields are the clock, the health
-- records, the buffers and the write-ahead entries in Redis by their key. The
-- others are for the proofs only: the records ever buffered, those of uploads
-- that returned, those whose Postgres write returned, and the backends contacted.
structure Storage where
  now : Rat
  health : StorageBackend → BackendHealth
  buffers : BatchBackend → List Record
  writeAhead : String → Option Record
  buffered : BatchBackend → Multiset Record
  uploaded : BatchBackend → Multiset Record
  persisted : List Record
  contacted : List StorageBackend

def Storage.start : Storage := ⟨0,fun _ => .start,fun _ => [],fun _ => none,fun _ => 0,fun _ => 0,[],[]⟩

-- What a call to a backend comes back with: success, a failure the code catches
-- (a False or an exception of the caught kinds), or one that ends the call. A
-- cache operation that did not succeed may still have taken effect.
inductive Answer where
  | returned (latencyMs : Rat)
  | failed
  | aborted

structure Outcome where
  answer : Answer
  took : Bool

def Outcome.effective (outcome : Outcome) : Bool :=
  match outcome.answer with
  | .returned _ => true
  | _ => outcome.took

-- The atomic steps of the calls. Nothing else runs between two awaits of one
-- call, or inside one of its locked sections.
inductive Task where
  | writeToCache (transactionId : Value) (record : Record)
  | beginPostgres (transactionId : Value) (record : Record)
  | awaitPostgres (transactionId : Value) (record : Record)
  | confirmWriteAhead (transactionId : Value) (record : Record)
  | buffer (b : BatchBackend) (record : Record)
  | checkAndFlush
  | takeBatch (b : BatchBackend)
  | guardBatch (b : BatchBackend) (batch : List Record)
  | upload (b : BatchBackend) (batch : List Record)
  | restore (b : BatchBackend) (batch : List Record)
  | checkBackend (b : StorageBackend)

-- What starts outside: a call, time going by, or the expiry of a cache key.
inductive Event where
  | storeTransaction (record : Record) (uuid4 : String)
  | flushS3Buffer
  | flushSnowflakeBuffer
  | flushAllBuffers
  | close
  | checkAllBackends
  | passes (elapsed : {q : Rat // 0 ≤ q})
  | expires (key : String)

abbrev StorageAction := Interleaved.Action Outcome Event
abbrev StoragePool := Interleaved.Pool Storage Task

namespace Storage

def setHealth (s : Storage) (b : StorageBackend) (health : BackendHealth) : Storage :=
  {s with health := fun other => if other = b then health else s.health other}

def setBuffer (s : Storage) (b : BatchBackend) (records : List Record) : Storage :=
  {s with buffers := fun other => if other = b then records else s.buffers other}

def setEntry (s : Storage) (key : String) (entry : Option Record) : Storage :=
  {s with writeAhead := fun other => if other = key then entry else s.writeAhead other}

def recordSuccess (s : Storage) (b : StorageBackend) (latencyMs : Rat) : Storage :=
  s.setHealth b ((s.health b).recordSuccess s.now latencyMs)

def recordFailure (s : Storage) (b : StorageBackend) : Storage := s.setHealth b ((s.health b).recordFailure s.now)

def contact (s : Storage) (b : StorageBackend) : Storage := {s with contacted := s.contacted ++ [b]}

def persist (s : Storage) (record : Record) : Storage := {s with persisted := s.persisted ++ [record]}

def open? (s : Storage) (b : StorageBackend) : Bool := decide ((s.health b).state = .unavailable)

end Storage

namespace StorageOrchestrator

def configured (c : StorageOrchestrator) : BatchBackend → Bool
  | .s3 => c.s3
  | .snowflake => c.snowflake

def writesAhead (c : StorageOrchestrator) : Bool := c.cache && c.enableWriteAhead

def writeAheadKey (c : StorageOrchestrator) (transactionId : Value) : String := "dedup:" ++ c.str transactionId

-- record.get of the external id, else of the id, else a fresh uuid.
def transactionId (record : Record) (uuid4 : String) : Value :=
  record.getD "external_transaction_id" (record.getD "transaction_id" (.str uuid4))

def storeTransaction (c : StorageOrchestrator) (record : Record) (uuid4 : String) : List Task :=
  let id := transactionId record uuid4
  (if c.writesAhead then [.writeToCache id record] else []) ++
  (if c.postgres then [.beginPostgres id record] else []) ++
  (if c.s3 then [.buffer .s3 record] else []) ++
  (if c.snowflake then [.buffer .snowflake record] else []) ++
  [.checkAndFlush]

def flushS3Buffer : List Task := [.takeBatch .s3]

def flushSnowflakeBuffer : List Task := [.takeBatch .snowflake]

def flushAllBuffers : List Task := flushS3Buffer ++ flushSnowflakeBuffer

-- close flushes both buffers; the connections it closes then are not modelled.
def close : List Task := flushAllBuffers

def checkAllBackends (c : StorageOrchestrator) : List Task :=
  (if c.cache then [.checkBackend .redis] else []) ++ (if c.postgres then [.checkBackend .postgres] else [])

def exec (c : StorageOrchestrator) (task : Task) (o : Outcome) (s : Storage) : Storage × Option (List Task) :=
  match task with
  | .writeToCache id record =>
    if s.open? .redis then (s,some []) else
      let written := if o.effective then s.setEntry (c.writeAheadKey id) (some record) else s
      match o.answer with
      | .returned latency => ((written.contact .redis).recordSuccess .redis latency,some [])
      | _ => ((written.contact .redis).recordFailure .redis,some [])
  | .beginPostgres id record =>
    if s.open? .postgres then (s,some []) else (s.contact .postgres,some [.awaitPostgres id record])
  | .awaitPostgres id record =>
    match o.answer with
    | .returned latency =>
      ((s.persist record).recordSuccess .postgres latency,
        some (if c.writesAhead then [.confirmWriteAhead id record] else []))
    | .failed => (s.recordFailure .postgres,some [])
    | .aborted => (s,none)
  | .confirmWriteAhead id _ =>
    let confirmed := if o.effective then s.setEntry (c.writeAheadKey id) none else s
    match o.answer with
    | .aborted => (confirmed,none)
    | _ => (confirmed,some [])
  | .buffer b record =>
    ({s.setBuffer b (s.buffers b ++ [record]) with
      buffered := fun other => if other = b then s.buffered b + {record} else s.buffered other},some [])
  | .checkAndFlush =>
    (s,some ((if c.s3BatchSize ≤ (s.buffers .s3).length then flushS3Buffer else []) ++
      (if c.snowflakeBatchSize ≤ (s.buffers .snowflake).length then flushSnowflakeBuffer else [])))
  | .takeBatch b =>
    match s.buffers b with
    | [] => (s,some [])
    | batch => (s.setBuffer b [],some [.guardBatch b batch])
  | .guardBatch b batch =>
    if s.open? b.backend then (s,some [.restore b batch])
    else if c.configured b then (s.contact b.backend,some [.upload b batch])
    else (s,some [.restore b batch])
  | .upload b batch =>
    match o.answer with
    | .returned latency =>
      ({s.recordSuccess b.backend latency with
        uploaded := fun other => if other = b then s.uploaded b + batch else s.uploaded other},some [])
    | _ => (s.recordFailure b.backend,some [.restore b batch])
  | .restore b batch => (s.setBuffer b (batch ++ s.buffers b),some [])
  | .checkBackend b =>
    match o.answer with
    | .returned _ => (s.setHealth b {s.health b with state := .healthy},some [])
    | .failed => (s.setHealth b {s.health b with state := .unavailable},some [])
    | .aborted => (s,none)

def event (c : StorageOrchestrator) : Event → Storage → Storage × List Task
  | .storeTransaction record uuid4,s => (s,c.storeTransaction record uuid4)
  | .flushS3Buffer,s => (s,flushS3Buffer)
  | .flushSnowflakeBuffer,s => (s,flushSnowflakeBuffer)
  | .flushAllBuffers,s => (s,flushAllBuffers)
  | .close,s => (s,close)
  | .checkAllBackends,s => (s,c.checkAllBackends)
  | .passes elapsed,s => ({s with now := s.now + elapsed.1},[])
  | .expires key,s => (s.setEntry key none,[])

def system (c : StorageOrchestrator) : Interleaved Storage Task Outcome Event := ⟨c.exec,c.event⟩

end StorageOrchestrator
end RiskPulse
