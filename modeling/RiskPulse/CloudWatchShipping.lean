import Mathlib.Algebra.Order.Group.Multiset
import Mathlib.Algebra.Order.Field.Rat
import Mathlib.Data.List.Sort
import RiskPulse.Library.Batches
import RiskPulse.Library.Interleaving
import RiskPulse.Library.OrderedDict
import RiskPulse.Library.Text

namespace RiskPulse

structure LogEvent where
  timestamp : Int
  message : String
  deriving DecidableEq

structure LogRequest where
  logGroupName : String
  logStreamName : String
  logEvents : List LogEvent
  sequenceToken : Option String

structure CloudWatchLogHandler where
  logGroupName : String
  logStreamName : String
  maxBatchSize : Int
  maxBatchBytes : Int
  flushIntervalSeconds : Rat

-- The handler's fields, the clock they are compared with, and two records of what has
-- happened: every event a call of emit has formatted, and every put_log_events call that
-- has returned.
structure LogState where
  now : Rat
  sequenceToken : Option String
  buffer : List LogEvent
  bufferBytes : Nat
  lastFlush : Rat
  formatted : List LogEvent
  sent : List LogRequest

inductive PutOutcome where
  | returned (nextSequenceToken : Option String)
  | raised (text : String)

inductive LogCall where
  | emit (event : LogEvent)
  | flush
  | elapse (time : {q : Rat // 0 ≤ q})

-- The atomic parts of emit and flush, in their order.
inductive LogTask where
  | append (event : LogEvent)
  | take
  | address (events : List LogEvent)
  | put (request : LogRequest)
  | learn (text : String) (request : LogRequest)
  | again (request : LogRequest)
  | retry (request : LogRequest)
  | remember (nextSequenceToken : Option String)

namespace CloudWatchLogHandler
open Interleaved

def afterMarker (marker : List Char) : List Char → Option (List Char)
  | [] => if marker = [] then some [] else none
  | c :: rest => if marker.isPrefixOf (c :: rest) then some ((c :: rest).drop marker.length) else afterMarker marker rest

-- text.split()[0].strip(), which raises an IndexError for blank text.
def firstWord (text : List Char) : Except String String :=
  match (text.dropWhile Text.isSpace).takeWhile fun c => !Text.isSpace c with
  | [] => .error "list index out of range"
  | word => .ok (String.ofList (Text.strip Text.isSpace word))

def extractSequenceToken (text : String) : Except String (Option String) :=
  match afterMarker "sequenceToken is: ".toList text.toList with
  | some rest => (firstWord rest).map some
  | none =>
    match afterMarker "sequence token is: ".toList text.toList with
    | some rest => (firstWord rest).map some
    | none => .ok none

-- A token counts as absent where Python takes it for false.
def truthy (token : Option String) : Option String := token.filter fun text => text ≠ ""

def shouldFlush (h : CloudWatchLogHandler) (s : LogState) : Bool :=
  decide (h.maxBatchSize ≤ s.buffer.length) || decide (h.maxBatchBytes ≤ s.bufferBytes) ||
    decide (h.flushIntervalSeconds ≤ s.now - s.lastFlush)

def appended (s : LogState) (event : LogEvent) : LogState :=
  {s with buffer := s.buffer ++ [event], bufferBytes := s.bufferBytes + (event.message.utf8ByteSize + 26)}

def taken (s : LogState) : LogState := {s with buffer := [], bufferBytes := 0, lastFlush := s.now}

def byTimestamp (a b : LogEvent) : Prop := a.timestamp ≤ b.timestamp

instance : DecidableRel byTimestamp := fun a b => inferInstanceAs (Decidable (a.timestamp ≤ b.timestamp))

def exec (h : CloudWatchLogHandler) : LogTask → PutOutcome → LogState → LogState × Option (List LogTask)
  | .append event,_,s =>
    (appended s event,some (if shouldFlush h (appended s event) then [.take] else []))
  | .take,_,s =>
    if s.buffer.isEmpty then (s,some [])
    else (taken s,some [.address (s.buffer.insertionSort byTimestamp)])
  | .address events,_,s =>
    (s,some [.put ⟨h.logGroupName,h.logStreamName,events,truthy s.sequenceToken⟩])
  | .put request,.returned next,s => ({s with sent := s.sent ++ [request]},some [.remember next])
  | .put request,.raised text,s => (s,some [.learn text request])
  | .learn text request,_,s =>
    match extractSequenceToken text with
    | .error _ => (s,none)
    | .ok found => ({s with sequenceToken := (truthy found).or s.sequenceToken},some [.again request])
  | .again request,_,s =>
    match truthy s.sequenceToken with
    | some token => (s,some [.retry {request with sequenceToken := some token}])
    | none => (s,none)
  | .retry request,.returned next,s => ({s with sent := s.sent ++ [request]},some [.remember next])
  | .retry _,.raised _,s => (s,none)
  | .remember next,_,s => ({s with sequenceToken := next.or s.sequenceToken},some [])

def event : LogCall → LogState → LogState × List LogTask
  | .emit e,s => ({s with formatted := s.formatted ++ [e]},[.append e])
  | .flush,s => (s,[.take])
  | .elapse time,s => ({s with now := s.now + time.val},[])

def system (h : CloudWatchLogHandler) : Interleaved LogState LogTask PutOutcome LogCall where
  exec := h.exec
  event := event

abbrev LogPool := Pool LogState LogTask
abbrev LogAction := Action PutOutcome LogCall

def start (token : Option String) : LogPool := ⟨⟨0,token,[],0,0,[],[]⟩,[]⟩

-- The events that a call still holds.
def carried : LogTask → Multiset LogEvent
  | .append event => {event}
  | .address events => events
  | .put request | .learn _ request | .again request | .retry request => request.logEvents
  | .take | .remember _ => 0

def shipped (s : LogState) : Multiset LogEvent := s.sent.flatMap LogRequest.logEvents

-- Each formatted event once: in the buffer, with a call of emit or flush that has not
-- ended, or in one put_log_events call that has returned.
def Conserved (p : LogPool) : Prop :=
  (p.shared.formatted : Multiset LogEvent) = p.shared.buffer + weight carried p + shipped p.shared

-- The step does not end a flush that still holds its events: the error text of a failed
-- call is not cut off after its marker, there is a token to try again with, and the second
-- call returns.
def Delivers (s : LogState) (outcome : PutOutcome) : LogTask → Prop
  | .learn text _ => ∃ found, extractSequenceToken text = .ok found
  | .again _ => truthy s.sequenceToken ≠ none
  | .retry _ => ∃ next, outcome = .returned next
  | _ => True

def Recovers (p : LogPool) : LogAction → Prop
  | .outside _ => True
  | .run n outcome => ∀ task rest, p.calls[n]? = some (task :: rest) → Delivers p.shared outcome task

def kept (s : LogState) : Multiset LogEvent := s.buffer + shipped s

theorem shipped_append (s : LogState) (request : LogRequest) :
    shipped {s with sent := s.sent ++ [request]} = shipped s + request.logEvents := by
  simp [shipped]

-- A call that holds a batch holds some event.
def Laden : LogTask → Prop
  | .take | .remember _ => True
  | task => carried task ≠ 0

theorem exec_delivers (h : CloudWatchLogHandler) (task : LogTask) (outcome : PutOutcome) (s : LogState) (laden : Laden task)
    (delivers : Delivers s outcome task) : ∃ t tasks, h.exec task outcome s = (t,some tasks) ∧ t.formatted = s.formatted ∧
      kept s + carried task = kept t + (tasks.map carried).sum ∧ ∀ later ∈ tasks, Laden later := by
  cases task with
  | append event =>
    refine ⟨_,_,rfl,rfl,?_,?_⟩
    · have idle : ∀ due : Bool, ((if due then [LogTask.take] else []).map carried).sum = 0 := by
        intro due
        cases due <;> rfl
      rw [idle]
      simp only [kept,shipped,appended,carried,← Multiset.coe_add,Multiset.coe_singleton]
      abel
    · intro later member
      split at member
      · rw [List.mem_singleton.mp member]
        trivial
      · cases member
  | take =>
    by_cases stored : s.buffer = []
    · exact ⟨s,[],by simp [exec,stored],rfl,rfl,by simp⟩
    · have sorted : (((s.buffer.insertionSort byTimestamp : List LogEvent)) : Multiset LogEvent) = s.buffer :=
        Multiset.coe_eq_coe.mpr (List.perm_insertionSort byTimestamp s.buffer)
      refine ⟨taken s,[.address (s.buffer.insertionSort byTimestamp)],by simp [exec,stored],rfl,?_,?_⟩
      · simp only [kept,shipped,taken,carried,List.map_cons,List.map_nil,List.sum_cons,List.sum_nil,sorted,Multiset.coe_nil]
        abel
      · intro later member
        rw [List.mem_singleton.mp member]
        change ((s.buffer.insertionSort byTimestamp : List LogEvent) : Multiset LogEvent) ≠ 0
        rw [sorted]
        exact fun empty => stored (Multiset.coe_eq_zero s.buffer |>.mp empty)
  | address events =>
    refine ⟨s,_,rfl,rfl,by simp [carried],?_⟩
    intro later member
    rw [List.mem_singleton.mp member]
    exact laden
  | put request =>
    cases outcome with
    | returned next =>
      refine ⟨_,_,rfl,rfl,?_,by simp [Laden]⟩
      simp only [kept,shipped_append,carried,List.map_cons,List.map_nil,List.sum_cons,List.sum_nil]
      abel
    | raised text =>
      refine ⟨s,_,rfl,rfl,by simp [carried],?_⟩
      intro later member
      rw [List.mem_singleton.mp member]
      exact laden
  | learn text request =>
    obtain ⟨found,extracted⟩ := delivers
    refine ⟨{s with sequenceToken := (truthy found).or s.sequenceToken},[.again request],by simp only [exec,extracted],rfl,by simp [carried,kept,shipped],?_⟩
    intro later member
    rw [List.mem_singleton.mp member]
    exact laden
  | again request =>
    obtain ⟨token,present⟩ := Option.ne_none_iff_exists'.mp delivers
    refine ⟨s,[.retry {request with sequenceToken := some token}],by simp only [exec,present],rfl,by simp [carried],?_⟩
    intro later member
    rw [List.mem_singleton.mp member]
    exact laden
  | retry request =>
    obtain ⟨next,rfl⟩ := delivers
    refine ⟨_,_,rfl,rfl,?_,by simp [Laden]⟩
    simp only [kept,shipped_append,carried,List.map_cons,List.map_nil,List.sum_cons,List.sum_nil]
    abel
  | remember next => exact ⟨_,[],rfl,rfl,by simp [carried,kept,shipped],by simp⟩

theorem exec_loses (h : CloudWatchLogHandler) (task : LogTask) (outcome : PutOutcome) (s : LogState) (laden : Laden task)
    (loses : ¬Delivers s outcome task) : h.exec task outcome s = (s,none) ∧ carried task ≠ 0 := by
  cases task with
  | append | take | address | put | remember => exact absurd trivial loses
  | learn text request =>
    refine ⟨?_,laden⟩
    cases extracted : extractSequenceToken text with
    | error e => simp only [exec,extracted]
    | ok found => exact absurd ⟨found,extracted⟩ loses
  | again request =>
    have absent : truthy s.sequenceToken = none := not_not.mp loses
    exact ⟨by simp only [exec,absent],laden⟩
  | retry request =>
    cases outcome with
    | returned next => exact absurd ⟨next,rfl⟩ loses
    | raised text => exact ⟨rfl,laden⟩

structure Books (p : LogPool) : Prop where
  conserved : Conserved p
  laden : AllTasks (fun _ => Laden) p

theorem start_books (token : Option String) : Books (start token) := by
  refine ⟨rfl,?_⟩
  intro call member
  cases member

theorem conserved_kept (p : LogPool) : Conserved p ↔ (p.shared.formatted : Multiset LogEvent) = kept p.shared + weight carried p := by
  unfold Conserved kept
  rw [add_right_comm]

theorem event_adds (e : LogCall) (s : LogState) :
    ((event e s).1.formatted : Multiset LogEvent) = s.formatted + ((event e s).2.map carried).sum ∧
      kept (event e s).1 = kept s ∧ ∀ task ∈ (event e s).2, Laden task := by
  cases e with
  | emit event => exact ⟨rfl,rfl,by simp [CloudWatchLogHandler.event,Laden,carried]⟩
  | flush => exact ⟨by simp [event,carried],rfl,by simp [event,Laden]⟩
  | elapse time => exact ⟨by simp [event],rfl,by simp [event]⟩

theorem step_books (h : CloudWatchLogHandler) (p : LogPool) (action : LogAction) (books : Books p) (recovers : Recovers p action) :
    Books (h.system.step p action) := by
  have balance := (conserved_kept p).mp books.conserved
  rcases h.system.step_cases p action with ⟨e,rfl,stepped⟩ | ⟨n,o,task,rest,before,after,rfl,found,split,stepped⟩ | ⟨same,_⟩
  · rw [stepped]
    obtain ⟨grown,same,fresh⟩ := event_adds e p.shared
    refine ⟨(conserved_kept _).mpr ?_,allTasks_outside books.laden (fun _ laden => laden) fresh⟩
    rw [weight_outside]
    calc ((event e p.shared).1.formatted : Multiset LogEvent) = kept p.shared + weight carried p + ((event e p.shared).2.map carried).sum := by
          rw [grown,balance]
      _ = kept (event e p.shared).1 + (weight carried p + ((event e p.shared).2.map carried).sum) := by rw [same,add_assoc]
  · have laden : Laden task := books.laden (task :: rest) (by rw [split]; simp) task List.mem_cons_self
    obtain ⟨t,tasks,ran,formatted,moved,fresh⟩ := exec_delivers h task o p.shared laden (recovers task rest found)
    have shared : h.system.exec task o p.shared = (t,some tasks) := ran
    rw [stepped,shared]
    refine ⟨(conserved_kept _).mpr ?_,allTasks_run books.laden split (fun _ laden => laden) ?_⟩
    · refine Eq.trans ?_ (weight_moved balance moved t split)
      rw [formatted]
    · intro others next
      cases next
      exact fresh
  · rw [same]
    exact books

-- A step that ends a call with its events makes the count wrong.
theorem conserved_recovers (h : CloudWatchLogHandler) (p : LogPool) (action : LogAction) (books : Books p)
    (conserved : Conserved (h.system.step p action)) : Recovers p action := by
  rcases h.system.step_cases p action with ⟨e,rfl,_⟩ | ⟨n,o,task,rest,before,after,rfl,found,split,stepped⟩ | ⟨_,n,o,rfl,idle⟩
  · trivial
  · intro first others begins
    cases Option.some.inj (found.symm.trans begins)
    by_contra loses
    obtain ⟨lost,some⟩ := exec_loses h task o p.shared (books.laden (task :: rest) (by rw [split]; simp) task List.mem_cons_self) loses
    have shared : h.system.exec task o p.shared = (p.shared,none) := lost
    rw [stepped,shared] at conserved
    have balance := (conserved_kept p).mp books.conserved
    rw [(conserved_kept _).mp conserved,← weight_end carried p p.shared split] at balance
    have nothing : carried task + (rest.map carried).sum = 0 := left_eq_add.mp (add_left_cancel balance)
    have part : carried task ≤ carried task + (rest.map carried).sum := Multiset.le_add_right _ _
    rw [nothing] at part
    exact some (Multiset.le_zero.mp part)
  · intro task rest begins
    exact absurd begins (idle task rest)

theorem logs_conserved (h : CloudWatchLogHandler) (token : Option String) (actions : List LogAction) :
    Runs.Along h.system.step (fun p action => Conserved (h.system.step p action)) (start token) actions ↔
      Runs.Along h.system.step Recovers (start token) actions := by
  constructor
  · intro conserved
    exact Runs.along_gives (fun p action books conserved => step_books h p action books (conserved_recovers h p action books conserved))
      (conserved_recovers h) (start_books token) conserved
  · intro recovers
    exact Runs.along_gives (step_books h) (fun p action books recovers => (step_books h p action books recovers).conserved)
      (start_books token) recovers

end CloudWatchLogHandler

structure MetricDatum (V T : Type) where
  metricName : String
  dimensions : List (String × String)
  timestamp : T
  value : V
  unit : String
  storageResolution : Int

-- The arguments of put_metric, and the time at which it is called.
structure PutMetric (V T : Type) where
  name : String
  value : V
  unit : String
  severity : String
  timestamp : Option T
  dimensions : OrderedDict String String
  storageResolution : Int
  now : T

structure CloudWatchMetricsCollector where
  service : String
  environment : String
  metricNamespace : String
  batchSize : Int
  enabled : Bool
  localSink : Bool

-- The buffer, the lines of the local file, and two records of what has happened: every
-- datum put into the buffer, and every put_metric_data call that has returned.
structure MetricsState (V T : Type) where
  buffer : List (MetricDatum V T)
  written : List (String × MetricDatum V T)
  buffered : List (MetricDatum V T)
  published : List (String × List (MetricDatum V T))

-- What the n-th put_metric_data call of a flush comes to: whether it returns.
inductive MetricsAction (V T : Type) where
  | putMetric (metric : PutMetric V T) (returns : Nat → Bool)
  | flush (returns : Nat → Bool)

namespace CloudWatchMetricsCollector
variable {V T : Type}

def toCloudwatch (environment service severity : String) (extra : OrderedDict String String) : List (String × String) :=
  ((OrderedDict.ofList [("Environment",environment),("Service",service),("Severity",severity)]).update extra).entries

def datum (c : CloudWatchMetricsCollector) (m : PutMetric V T) : MetricDatum V T where
  metricName := m.name
  dimensions := toCloudwatch c.environment c.service m.severity m.dimensions
  timestamp := m.timestamp.getD m.now
  value := m.value
  unit := m.unit
  storageResolution := m.storageResolution

-- self._buffer[start : start + batch_size] for the numbers of range(0, length, batch_size),
-- which has none when the batch size is negative.
def subBatches (c : CloudWatchMetricsCollector) (buffer : List (MetricDatum V T)) : List (List (MetricDatum V T)) :=
  if 0 < c.batchSize then Batches.batches c.batchSize.toNat buffer else []

-- The calls up to the first that fails, and whether none does.
def publish (returns : Nat → Bool) : Nat → List (List (MetricDatum V T)) → List (List (MetricDatum V T)) × Bool
  | _,[] => ([],true)
  | n,batch :: rest =>
    if returns n then (batch :: (publish returns (n + 1) rest).1,(publish returns (n + 1) rest).2) else ([],false)

def handed (c : CloudWatchMetricsCollector) (s : MetricsState V T) (batches : List (List (MetricDatum V T))) : MetricsState V T :=
  {s with published := s.published ++ batches.map fun batch => (c.metricNamespace,batch)}

def flush (c : CloudWatchMetricsCollector) (returns : Nat → Bool) (s : MetricsState V T) : Except String Unit × MetricsState V T :=
  if !c.enabled || s.buffer.isEmpty then (.ok (),s)
  else if c.batchSize = 0 then (.error "range() arg 3 must not be zero",s)
  else
    match publish returns 0 (c.subBatches s.buffer) with
    | (batches,true) => (.ok (),{c.handed s batches with buffer := []})
    | (batches,false) => (.error "put_metric_data",c.handed s batches)

def putMetric (c : CloudWatchMetricsCollector) (m : PutMetric V T) (returns : Nat → Bool) (s : MetricsState V T) :
    Except String Unit × MetricsState V T :=
  if !c.enabled && !c.localSink then (.ok (),s)
  else if !c.enabled then (.ok (),{s with written := s.written ++ [(c.metricNamespace,c.datum m)]})
  else
    let t := {s with buffer := s.buffer ++ [c.datum m], buffered := s.buffered ++ [c.datum m]}
    if c.batchSize ≤ t.buffer.length then c.flush returns t else (.ok (),t)

def step (c : CloudWatchMetricsCollector) (s : MetricsState V T) : MetricsAction V T → MetricsState V T
  | .putMetric m returns => (c.putMetric m returns s).2
  | .flush returns => (c.flush returns s).2

def start : MetricsState V T := ⟨[],[],[],[]⟩

def sent (s : MetricsState V T) : Multiset (MetricDatum V T) := s.published.flatMap Prod.snd

-- No datum is in more calls than it was put into the buffer, and one that is in no call is
-- in the buffer still.
structure Sound (s : MetricsState V T) : Prop where
  once : sent s ≤ s.buffered
  unpublished : (s.buffered : Multiset (MetricDatum V T)) ≤ s.buffer + sent s

-- A flush of the buffer publishes no sub-batch or all of them, and has sub-batches to publish.
def Whole (c : CloudWatchMetricsCollector) (returns : Nat → Bool) (buffer : List (MetricDatum V T)) : Prop :=
  0 ≤ c.batchSize ∧ (returns 0 = true → ∀ n < (c.subBatches buffer).length, returns n = true)

instance (c : CloudWatchMetricsCollector) (returns : Nat → Bool) (buffer : List (MetricDatum V T)) :
    Decidable (c.Whole returns buffer) :=
  inferInstanceAs (Decidable (_ ∧ _))

def Complete (c : CloudWatchMetricsCollector) (s : MetricsState V T) : MetricsAction V T → Prop
  | .putMetric m returns => c.enabled = true → c.batchSize ≤ (s.buffer ++ [c.datum m]).length → c.Whole returns (s.buffer ++ [c.datum m])
  | .flush returns => c.enabled = true → s.buffer ≠ [] → c.Whole returns s.buffer

-- Each datum is in the buffer or in one call.
def Exact (s : MetricsState V T) : Prop := (s.buffered : Multiset (MetricDatum V T)) = s.buffer + sent s

theorem Exact.sound {s : MetricsState V T} (exact' : Exact s) : Sound s where
  once := by
    rw [exact']
    exact Multiset.le_add_left _ _
  unpublished := le_of_eq exact'

theorem publish_prefix (returns : Nat → Bool) (n : Nat) (batches : List (List (MetricDatum V T))) :
    ∃ done rest, batches = done ++ rest ∧ publish returns n batches = (done,rest.isEmpty) ∧
      (∀ i < done.length, returns (n + i) = true) ∧ (rest ≠ [] → returns (n + done.length) = false) := by
  induction batches generalizing n with
  | nil => exact ⟨[],[],rfl,rfl,by simp,by simp⟩
  | cons batch others ih =>
    cases first : returns n with
    | false => exact ⟨[],batch :: others,rfl,by simp [publish,first],by simp,fun _ => first⟩
    | true =>
      obtain ⟨done,rest,split,ran,all,stopped⟩ := ih (n + 1)
      refine ⟨batch :: done,rest,by rw [split]; rfl,by simp [publish,first,ran],?_,?_⟩
      · intro i inside
        cases i with
        | zero => exact first
        | succ i =>
          have next := all i (Nat.lt_of_succ_lt_succ inside)
          rwa [Nat.add_right_comm,Nat.add_assoc] at next
      · intro left
        have next := stopped left
        rwa [Nat.add_right_comm,Nat.add_assoc] at next

theorem sent_handed (c : CloudWatchMetricsCollector) (s : MetricsState V T) (batches : List (List (MetricDatum V T))) :
    sent (c.handed s batches) = sent s + batches.flatten := by
  have inner : (batches.map fun batch => (c.metricNamespace,batch)).flatMap Prod.snd = batches.flatten := by
    rw [List.flatMap_map]
    exact List.flatMap_id
  simp only [sent,handed,List.flatMap_append,inner,Multiset.coe_add]

theorem subBatches_cut (c : CloudWatchMetricsCollector) (positive : 0 < c.batchSize) (buffer : List (MetricDatum V T)) :
    (c.subBatches buffer).flatten = buffer ∧ ∀ batch ∈ c.subBatches buffer, batch ≠ [] := by
  rw [subBatches,if_pos positive]
  exact ⟨Batches.batches_flatten (by omega) buffer,fun _ member => Batches.batches_filled (by omega) buffer member⟩

-- The buffer is cleared after the last sub-batch, and lost if there is none.
theorem cleared_exact (c : CloudWatchMetricsCollector) (s : MetricsState V T) (filled : s.buffer ≠ []) (exact' : Exact s) :
    Exact {c.handed s (c.subBatches s.buffer) with buffer := []} ↔ 0 < c.batchSize := by
  have published : sent {c.handed s (c.subBatches s.buffer) with buffer := []} = sent s + (c.subBatches s.buffer).flatten :=
    sent_handed c s _
  have after : Exact {c.handed s (c.subBatches s.buffer) with buffer := []} ↔
      (s.buffer : Multiset (MetricDatum V T)) + sent s = sent s + (c.subBatches s.buffer).flatten := by
    rw [← published,← exact']
    unfold Exact
    rw [Multiset.coe_nil,zero_add]
    rfl
  rw [after]
  by_cases positive : 0 < c.batchSize
  · rw [(subBatches_cut c positive s.buffer).1]
    exact iff_of_true (add_comm _ _) positive
  · refine iff_of_false ?_ positive
    rw [subBatches,if_neg positive]
    intro dropped
    exact filled (Multiset.coe_eq_zero s.buffer |>.mp (add_eq_right.mp (dropped.trans (add_zero _))))

-- What was published before a call that failed stays in the buffer.
theorem stopped_exact (c : CloudWatchMetricsCollector) (s : MetricsState V T) (exact' : Exact s)
    (filled : ∀ batch ∈ done, batch ≠ []) : Exact (c.handed s done) ↔ done = [] := by
  have after : Exact (c.handed s done) ↔
      (s.buffer : Multiset (MetricDatum V T)) + sent s = s.buffer + (sent s + done.flatten) := by
    rw [← sent_handed,← exact']
    rfl
  rw [after,← add_assoc]
  cases done with
  | nil => exact iff_of_true (add_zero _).symm rfl
  | cons first later =>
    refine iff_of_false ?_ (List.cons_ne_nil _ _)
    intro twice
    have nothing := Multiset.coe_eq_zero _ |>.mp (left_eq_add.mp twice)
    exact filled first List.mem_cons_self (List.flatten_eq_nil_iff.mp nothing first List.mem_cons_self)

theorem flush_exact (c : CloudWatchMetricsCollector) (returns : Nat → Bool) (s : MetricsState V T)
    (enabled : c.enabled = true) (filled : s.buffer ≠ []) (exact' : Exact s) : Exact (c.flush returns s).2 ↔ c.Whole returns s.buffer := by
  have runs : ¬((!c.enabled || s.buffer.isEmpty) = true) := by simp [enabled,filled]
  unfold flush
  rw [if_neg runs]
  by_cases zero : c.batchSize = 0
  · rw [if_pos zero]
    exact iff_of_true exact' ⟨le_of_eq zero.symm,fun _ n inside => by simp [subBatches,zero] at inside⟩
  · rw [if_neg zero]
    obtain ⟨done,rest,split,ran,all,stopped⟩ := publish_prefix returns 0 (c.subBatches s.buffer)
    simp only [Nat.zero_add] at all stopped
    cases rest with
    | nil =>
      rw [List.append_nil] at split
      rw [← split,List.isEmpty_nil] at ran
      rw [← split] at all
      rw [ran]
      refine (cleared_exact c s filled exact').trans ?_
      exact ⟨fun positive => ⟨le_of_lt positive,fun _ => all⟩,fun whole => lt_of_le_of_ne whole.1 (Ne.symm zero)⟩
    | cons batch others =>
      have positive : 0 < c.batchSize := by
        by_contra none
        rw [subBatches,if_neg none] at split
        cases done <;> cases split
      have failed := stopped (List.cons_ne_nil _ _)
      have parts : ∀ part ∈ done, part ≠ [] := fun part member =>
        (subBatches_cut c positive s.buffer).2 part (by rw [split]; exact List.mem_append_left _ member)
      rw [ran,List.isEmpty_cons]
      refine (stopped_exact c s exact' parts).trans ?_
      constructor
      · rintro rfl
        exact ⟨le_of_lt positive,fun first => by rw [List.length_nil,first] at failed; cases failed⟩
      · intro given
        obtain ⟨_,full⟩ := given
        by_contra some
        have inside : done.length < (c.subBatches s.buffer).length := by simp [split]
        rw [full (all 0 (List.length_pos_of_ne_nil some)) _ inside] at failed
        cases failed

theorem flush_idle (c : CloudWatchMetricsCollector) (returns : Nat → Bool) (s : MetricsState V T)
    (idle : ¬(c.enabled = true ∧ s.buffer ≠ [])) : c.flush returns s = (.ok (),s) := by
  rw [flush,if_pos (by simpa [or_iff_not_imp_left] using idle)]

theorem step_exact (c : CloudWatchMetricsCollector) (s : MetricsState V T) (action : MetricsAction V T) (exact' : Exact s) :
    Exact (c.step s action) ↔ c.Complete s action := by
  cases action with
  | flush returns =>
    by_cases runs : c.enabled = true ∧ s.buffer ≠ []
    · refine (flush_exact c returns s runs.1 runs.2 exact').trans ?_
      exact ⟨fun whole _ _ => whole,fun complete => complete runs.1 runs.2⟩
    · refine iff_of_true ?_ fun enabled filled => absurd ⟨enabled,filled⟩ runs
      simp only [step,flush_idle c returns s runs]
      exact exact'
  | putMetric m returns =>
    have grown : Exact {s with buffer := s.buffer ++ [c.datum m], buffered := s.buffered ++ [c.datum m]} := by
      unfold Exact at exact' ⊢
      rw [← Multiset.coe_add,← Multiset.coe_add,exact',add_right_comm]
      rfl
    cases enabled : c.enabled with
    | false =>
      refine iff_of_true ?_ fun runs => ?_
      · simp only [step,putMetric,enabled]
        split <;> exact exact'
      · rw [enabled] at runs
        cases runs
    | true =>
      by_cases due : c.batchSize ≤ (s.buffer ++ [c.datum m]).length
      · have full := flush_exact c returns _ enabled (by simp) grown
        simp only [step,putMetric,enabled,if_pos due]
        refine full.trans ?_
        exact ⟨fun whole _ _ => whole,fun complete => complete enabled due⟩
      · simp only [step,putMetric,enabled,if_neg due]
        exact iff_of_true grown fun _ now => absurd now due

theorem metrics_exact (c : CloudWatchMetricsCollector) (actions : List (MetricsAction V T)) :
    Runs.Along c.step (fun s action => Exact (c.step s action)) start actions ↔ Runs.Along c.step c.Complete start actions := by
  constructor
  · intro along
    exact Runs.along_gives (fun _ _ _ after => after) (fun s action exact' => (step_exact c s action exact').mp) rfl along
  · intro along
    exact Runs.along_gives (fun s action exact' => (step_exact c s action exact').mpr)
      (fun s action exact' => (step_exact c s action exact').mpr) rfl along

end CloudWatchMetricsCollector

section Shipping
variable {V T : Type}

-- Of the log events as of the metric data none is lost and none sent twice, in runs without
-- the failures named, and in no others.
theorem cloudwatch_shipping_exact (h : CloudWatchLogHandler) (token : Option String) (logs : List CloudWatchLogHandler.LogAction)
    (c : CloudWatchMetricsCollector) (metrics : List (MetricsAction V T)) :
    (Runs.Along h.system.step (fun p action => CloudWatchLogHandler.Conserved (h.system.step p action))
        (CloudWatchLogHandler.start token) logs ↔
      Runs.Along h.system.step CloudWatchLogHandler.Recovers (CloudWatchLogHandler.start token) logs) ∧
    (Runs.Along c.step (fun s action => CloudWatchMetricsCollector.Exact (c.step s action)) CloudWatchMetricsCollector.start metrics ↔
      Runs.Along c.step c.Complete CloudWatchMetricsCollector.start metrics) ∧
    (Runs.Along c.step c.Complete CloudWatchMetricsCollector.start metrics →
      Runs.Along c.step (fun s action => CloudWatchMetricsCollector.Sound (c.step s action)) CloudWatchMetricsCollector.start metrics) := by
  refine ⟨CloudWatchLogHandler.logs_conserved h token logs,CloudWatchMetricsCollector.metrics_exact c metrics,fun complete => ?_⟩
  apply Runs.along_imp _ ((CloudWatchMetricsCollector.metrics_exact c metrics).mpr complete)
  exact fun _ _ exact' => exact'.sound

def exampleHandler : CloudWatchLogHandler := ⟨"/riskpulse/dev/api","local/1",100,900000,5⟩

def exampleCollector : CloudWatchMetricsCollector := ⟨"api","prod","RiskPulse/Platform",2,true,false⟩

def exampleMetric (value : Nat) : PutMetric Nat Nat := ⟨"ErrorCount",value,"Count","none",none,.empty,60,0⟩

-- A flush is throttled before any sequence token is known, and its event is gone. The second
-- of two sub-batches fails, and the next flush publishes the first again.
theorem failed_put_loses_or_repeats :
    ¬Runs.Along exampleHandler.system.step (fun p action => CloudWatchLogHandler.Conserved (exampleHandler.system.step p action))
      (CloudWatchLogHandler.start none) [.outside (.emit ⟨1,"[]"⟩),.run 0 (.returned none),.outside .flush,.run 1 (.returned none),
        .run 1 (.returned none),.run 1 (.raised "ThrottlingException"),.run 1 (.returned none),.run 1 (.returned none)] ∧
    ¬Runs.Along exampleCollector.step (fun s action => CloudWatchMetricsCollector.Sound (exampleCollector.step s action))
      CloudWatchMetricsCollector.start [.putMetric (exampleMetric 1) fun _ => true,.putMetric (exampleMetric 2) fun _ => false,
        .putMetric (exampleMetric 3) fun n => n == 0,.flush fun _ => true] := by
  constructor
  · intro given
    obtain ⟨_,_,_,_,_,_,_,lost,_⟩ := given
    exact absurd (congrArg Multiset.card lost) (by decide +kernel)
  · intro given
    obtain ⟨_,_,_,⟨once,_⟩,_⟩ := given
    exact absurd (Multiset.card_le_card once) (by decide +kernel)

end Shipping
end RiskPulse
