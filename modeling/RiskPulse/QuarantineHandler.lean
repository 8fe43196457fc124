import RiskPulse.Library.Interleaving
import RiskPulse.PipelineOrchestrator

namespace RiskPulse

inductive QuarantineStatus where
  | quarantined
  | reprocessed
  | discarded
  deriving DecidableEq

structure FailureReason where
  field : String
  rule : String
  message : String
  severity : ValidationSeverity

def FailureReason.of (err : ValidationError) : FailureReason := ⟨err.field,err.rule,err.message,err.severity⟩

structure QuarantinedRecord where
  record : Record
  failureReasons : List FailureReason
  quarantinedAt : String
  retryCount : Nat
  status : QuarantineStatus

structure QuarantineMetrics where
  totalQuarantined : Nat
  totalReprocessed : Nat
  totalDiscarded : Nat
  reasonsBreakdown : OrderedDict String Nat

namespace QuarantineMetrics

def start : QuarantineMetrics := ⟨0,0,0,.empty⟩

def recordQuarantine (reasons : List FailureReason) (m : QuarantineMetrics) : QuarantineMetrics := {m with
  totalQuarantined := m.totalQuarantined + 1
  reasonsBreakdown := reasons.foldl (fun d reason => d.set reason.rule (d.getD reason.rule 0 + 1)) m.reasonsBreakdown}

def recordReprocess (m : QuarantineMetrics) : QuarantineMetrics := {m with totalReprocessed := m.totalReprocessed + 1}

def recordDiscard (m : QuarantineMetrics) : QuarantineMetrics := {m with totalDiscarded := m.totalDiscarded + 1}

def activeQuarantined (m : QuarantineMetrics) : Int := m.totalQuarantined - m.totalReprocessed - m.totalDiscarded

end QuarantineMetrics

-- The records by their id. One that was purged stays with the calls that still have it.
structure QuarantineState where
  store : OrderedDict String QuarantinedRecord
  purged : OrderedDict String QuarantinedRecord
  metrics : QuarantineMetrics
  issued : Nat

-- The n-th uuid4 drawn is never drawn again.
structure QuarantineHandler where
  maxRetryAttempts : Nat
  uuid4 : Nat → String
  distinct : Function.Injective uuid4

-- What is left of a call after its first locked section: a section of the metrics, or a
-- candidate that is processed outside the lock.
inductive QuarantineTask where
  | recordQuarantine (reasons : List FailureReason)
  | recordDiscard
  | candidate (quarantineId : String)

-- What the validator makes of a candidate.
inductive Verdict where
  | valid
  | invalid (errors : List ValidationError)
  | raises

-- The calls, with what they read of the clock.
inductive QuarantineCall where
  | quarantine (record : Record) (errors : List ValidationError) (now : String)
  | reprocess (quarantineId : Option String)
  | discard (quarantineId : String)
  | purgeExpired (cutoff : String)

namespace QuarantineState

def start : QuarantineState := ⟨.empty,.empty,.start,0⟩

def find (s : QuarantineState) (quarantineId : String) : Option QuarantinedRecord :=
  (s.store.get? quarantineId).or (s.purged.get? quarantineId)

-- A record is changed where it is.
def write (quarantineId : String) (entry : QuarantinedRecord) (s : QuarantineState) : QuarantineState :=
  if quarantineId ∈ s.store.keys then {s with store := s.store.set quarantineId entry}
  else {s with purged := s.purged.set quarantineId entry}

def measured (f : QuarantineMetrics → QuarantineMetrics) (s : QuarantineState) : QuarantineState := {s with metrics := f s.metrics}

def count (s : QuarantineState) : Nat := s.store.count fun entry => decide (entry.status = .quarantined)

end QuarantineState

namespace QuarantineHandler
variable (q : QuarantineHandler)

def eligible (entry : QuarantinedRecord) : Bool := decide (entry.status = .quarantined ∧ entry.retryCount < q.maxRetryAttempts)

-- One id is taken as it is; without one, or with an empty one, the eligible records are.
def candidates (quarantineId : Option String) (s : QuarantineState) : List String :=
  match quarantineId with
  | some id =>
    if id = "" then (s.store.entries.filter fun entry => q.eligible entry.2).map Prod.fst
    else if id ∈ s.store.keys then [id] else []
  | none => (s.store.entries.filter fun entry => q.eligible entry.2).map Prod.fst

def expired (cutoff : String) (s : QuarantineState) : List (String × QuarantinedRecord) :=
  s.store.entries.filter fun entry => decide (entry.2.quarantinedAt < cutoff ∧ entry.2.status ≠ .quarantined)

def process (quarantineId : String) (verdict : Verdict) (entry : QuarantinedRecord) (s : QuarantineState) :
    QuarantineState × Option (List QuarantineTask) :=
  let tried := {entry with retryCount := entry.retryCount + 1}
  match verdict with
  | .raises => (s.write quarantineId tried,none)
  | .valid => ((s.write quarantineId {tried with status := .reprocessed}).measured .recordReprocess,some [])
  | .invalid errors =>
    if q.maxRetryAttempts ≤ tried.retryCount then
      ((s.write quarantineId {tried with status := .discarded}).measured .recordDiscard,some [])
    else (s.write quarantineId {tried with failureReasons := errors.map .of},some [])

def exec (task : QuarantineTask) (verdict : Verdict) (s : QuarantineState) : QuarantineState × Option (List QuarantineTask) :=
  match task with
  | .recordQuarantine reasons => (s.measured (.recordQuarantine reasons),some [])
  | .recordDiscard => (s.measured .recordDiscard,some [])
  | .candidate id =>
    match s.find id with
    | some entry => q.process id verdict entry s
    | none => (s,some [])

-- The first locked section of a call, and what is left of it.
def begin (call : QuarantineCall) (s : QuarantineState) : QuarantineState × List QuarantineTask :=
  match call with
  | .quarantine record errors now =>
    let reasons := errors.map .of
    ({s with store := s.store.set (q.uuid4 s.issued) ⟨record,reasons,now,0,.quarantined⟩, issued := s.issued + 1},
      [.recordQuarantine reasons])
  | .reprocess id => (s,(q.candidates id s).map .candidate)
  | .discard id =>
    match s.store.get? id with
    | some entry =>
      if entry.status = .quarantined then ({s with store := s.store.set id {entry with status := .discarded}},[.recordDiscard])
      else (s,[])
    | none => (s,[])
  | .purgeExpired cutoff =>
    let gone := expired cutoff s
    ({s with
      store := (gone.map Prod.fst).foldl OrderedDict.erase s.store
      purged := gone.foldl (fun built entry => built.set entry.1 entry.2) s.purged},[])

def system : Interleaved QuarantineState QuarantineTask Verdict QuarantineCall := ⟨q.exec,q.begin⟩

end QuarantineHandler
end RiskPulse
