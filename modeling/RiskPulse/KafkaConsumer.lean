import RiskPulse.Library.Json
import RiskPulse.Library.Runs
import RiskPulse.Record

namespace RiskPulse

structure Partition where
  topic : String
  number : Int
  deriving DecidableEq

-- What msg.value() can be. The Kafka client gives bytes or None.
inductive MessageValue where
  | none
  | bytes (content : List UInt8)
  | str (text : String)
  | other (value : Value)

-- The timestamp is the pair of its type and its milliseconds.
structure Message where
  partition : Partition
  offset : Nat
  value : MessageValue
  timestamp : Option (Int × Int)

def Message.place (message : Message) : Partition × Nat := (message.partition,message.offset)

abbrev Topics := Partition → Nat → MessageValue × Option (Int × Int)

def Topics.message (topics : Topics) (p : Partition) (offset : Nat) : Message :=
  ⟨p,offset,(topics p offset).1,(topics p offset).2⟩

-- The settings the loop reads. Python's recursion limit and its reading of a
-- decimal text as a float are parameters.
structure TransactionConsumer where
  batchSize : Int
  enableAutoCommit : Bool
  recursionLimit : Nat
  float : String → PyFloat

mutual
def toValue (float : String → PyFloat) : Json → Value
  | .null => .none
  | .bool b => .bool b
  | .int i => .int i
  | .float text => .float (float text)
  | .str text => .str text
  | .array items => .list (toItems float items)
  | .object members => .dict (OrderedDict.ofList (toEntries float members)).entries
def toItems (float : String → PyFloat) : List Json → List Value
  | [] => []
  | first :: rest => toValue float first :: toItems float rest
def toEntries (float : String → PyFloat) : List (String × Json) → List (String × Value)
  | [] => []
  | (key,first) :: rest => (key,toValue float first) :: toEntries float rest
end

-- What one message comes to: a record, nothing at all, an error that is caught and
-- logged, or an exception that leaves the whole batch.
inductive Deserialized where
  | record (record : Record)
  | empty
  | undecodable
  | raised

namespace TransactionConsumer

def loads (c : TransactionConsumer) (text : String) : Except Json.Error Json := Json.loads c.recursionLimit text

def attachMetadata (message : Message) (record : Record) : Record :=
  (((record.set "_kafka_topic" (.str message.partition.topic)).set "_kafka_partition" (.int message.partition.number)).set
    "_kafka_offset" (.int message.offset)).set "_kafka_timestamp"
      (match message.timestamp with | some (_,milliseconds) => .int milliseconds | none => .none)

-- Only a dict takes the metadata. A JSON object of repeated keys keeps the last
-- value of each.
def fromJson (c : TransactionConsumer) (message : Message) : Except Json.Error Json → Deserialized
  | .error .decode => .undecodable
  | .error _ => .raised
  | .ok (.object members) => .record (attachMetadata message (OrderedDict.ofList (toEntries c.float members)))
  | .ok _ => .raised

def deserialize (c : TransactionConsumer) (message : Message) : Deserialized :=
  match message.value with
  | .none => .empty
  | .bytes content =>
    match Json.decodeUtf8 content with
    | some text => c.fromJson message (c.loads text)
    | none => .undecodable
  | .str text => c.fromJson message (c.loads text)
  | .other (.dict entries) => .record (attachMetadata message (OrderedDict.ofList entries))
  | .other _ => .raised

-- None when an exception escapes.
def deserializeMessages (c : TransactionConsumer) : List Message → Option (List Record)
  | [] => some []
  | message :: rest =>
    match c.deserialize message with
    | .record record => (c.deserializeMessages rest).map (record :: ·)
    | .empty | .undecodable => c.deserializeMessages rest
    | .raised => none

end TransactionConsumer

-- Where the consumer thread is: at the test of the loop, in poll with the messages
-- so far, in process_batch, after it, at the commit of the shutdown, in close.
inductive ConsumerPhase where
  | idle
  | polling (messages : List Message)
  | processing (messages : List Message)
  | processed
  | closing
  | leaving
  | stopped

-- The position is the offset of the next message polled from a partition. For the
-- present assignment of a partition there are its first position and the one
-- committed last. The places returned and dead-lettered are for the proofs only.
structure Consumer where
  phase : ConsumerPhase
  shutdown : Bool
  assigned : Partition → Bool
  first : Partition → Nat
  position : Partition → Nat
  committed : Partition → Nat
  returned : List (Partition × Nat)
  deadLettered : List (Partition × Nat)

def Consumer.start : Consumer := ⟨.idle,false,fun _ => false,fun _ => 0,fun _ => 0,fun _ => 0,[],[]⟩

-- What poll comes back with: the next message of a partition; None or an error
-- that ends the polling; an error that is passed over; or an exception, which may
-- be a fatal one of Kafka.
inductive Polled where
  | message (p : Partition)
  | nothing
  | passedOver
  | raised (fatal : Bool)

-- process_batch returns, or raises after it has dead-lettered some of its records.
inductive BatchOutcome where
  | returned
  | raised (fatal : Bool) (deadLettered : List (Partition × Nat))

-- A commit takes effect, fails with the error that is caught, or is not reached or
-- ended by another exception.
inductive CommitOutcome where
  | committed
  | failed
  | raised (fatal : Bool)

inductive ConsumerAction where
  | stop
  | enter
  | assign (starts : List (Partition × Nat))
  | revoke (partitions : List Partition) (outcome : CommitOutcome)
  | poll (result : Polled)
  | process (outcome : BatchOutcome)
  | commit (outcome : CommitOutcome)
  | autoCommit
  | interrupt
  | leave

namespace Consumer

-- The client commits the position after the last polled message of each partition.
def commit (s : Consumer) : Consumer :=
  {s with committed := fun p => if s.assigned p then s.position p else s.committed p}

def assign (s : Consumer) (p : Partition) (start : Nat) : Consumer :=
  {s with
    assigned := fun other => if other = p then true else s.assigned other
    first := fun other => if other = p then start else s.first other
    position := fun other => if other = p then start else s.position other
    committed := fun other => if other = p then start else s.committed other}

def revoke (s : Consumer) (partitions : List Partition) : Consumer :=
  {s with assigned := fun p => s.assigned p && !decide (p ∈ partitions)}

-- An exception in the loop: a fatal one of Kafka ends it.
def escape (s : Consumer) (fatal : Bool) : Consumer := {s with phase := if fatal then .closing else .idle}

end Consumer

namespace TransactionConsumer

def commitOffsets (c : TransactionConsumer) (outcome : CommitOutcome) (s : Consumer) : Consumer :=
  if c.enableAutoCommit then s else match outcome with | .committed => s.commit | _ => s

def revokeRaises (c : TransactionConsumer) (outcome : CommitOutcome) : Bool :=
  match outcome with
  | .raised _ => !c.enableAutoCommit
  | _ => false

-- The callback commits before the partitions go. What it raises comes out of poll.
def onRevoke (c : TransactionConsumer) (partitions : List Partition) (outcome : CommitOutcome) (s : Consumer) : Consumer :=
  let revoked := (c.commitOffsets outcome s).revoke partitions
  match outcome with
  | .raised fatal => if c.enableAutoCommit then revoked else revoked.escape fatal
  | _ => revoked

-- The rest of consume_batch once the polling has ended.
def afterPoll (c : TransactionConsumer) (messages : List Message) (s : Consumer) : Consumer :=
  if messages.isEmpty then {s with phase := .idle}
  else
    match c.deserializeMessages messages with
    | none | some [] => {s with phase := .idle}
    | some _ => {s with phase := .processing messages}

def pollOn (c : TransactionConsumer) (messages : List Message) (s : Consumer) : Consumer :=
  let polling := {s with phase := .polling messages}
  if messages.length < c.batchSize then polling else c.afterPoll messages polling

def readable (c : TransactionConsumer) (message : Message) : Bool :=
  match c.deserialize message with
  | .record _ => true
  | _ => false

def batchPlaces (c : TransactionConsumer) (messages : List Message) : List (Partition × Nat) :=
  (messages.filter c.readable).map Message.place

def pollStep (c : TransactionConsumer) (topics : Topics) (messages : List Message) (s : Consumer) : Polled → Consumer
  | .message p =>
    if s.assigned p then
      c.pollOn (messages ++ [topics.message p (s.position p)])
        {s with position := fun other => if other = p then s.position p + 1 else s.position other}
    else s
  | .nothing => c.afterPoll messages s
  | .passedOver => s
  | .raised fatal => s.escape fatal

-- An action that has no place in the phase does nothing.
def step (c : TransactionConsumer) (topics : Topics) (s : Consumer) : ConsumerAction → Consumer
  | .stop => {s with shutdown := true}
  | .enter =>
    match s.phase with
    | .idle => if s.shutdown then {s with phase := .closing} else c.pollOn [] s
    | _ => s
  | .assign starts =>
    match s.phase with
    | .polling _ => starts.foldl (fun t entry => t.assign entry.1 entry.2) s
    | _ => s
  | .revoke partitions outcome =>
    match s.phase with
    | .polling _ => c.onRevoke partitions outcome s
    | .leaving => {c.onRevoke partitions outcome s with phase := if c.revokeRaises outcome then .stopped else .leaving}
    | _ => s
  | .poll result =>
    match s.phase with
    | .polling messages => c.pollStep topics messages s result
    | _ => s
  | .process outcome =>
    match s.phase with
    | .processing messages =>
      match outcome with
      | .returned => {s with phase := .processed, returned := s.returned ++ c.batchPlaces messages}
      | .raised fatal dead =>
        {s with deadLettered := s.deadLettered ++ (c.batchPlaces messages).filter fun place => place ∈ dead}.escape fatal
    | _ => s
  | .commit outcome =>
    match s.phase with
    | .processed =>
      match outcome with
      | .raised fatal => s.escape fatal
      | _ => {c.commitOffsets outcome s with phase := .idle}
    | .closing =>
      match outcome with
      | .raised _ => {s with phase := .stopped}
      | _ => {c.commitOffsets outcome s with phase := .leaving}
    | _ => s
  | .autoCommit =>
    match s.phase with
    | .stopped => s
    | _ => if c.enableAutoCommit then s.commit else s
  | .interrupt =>
    match s.phase with
    | .idle | .polling _ | .processing _ | .processed => {s with phase := .closing}
    | _ => {s with phase := .stopped}
  | .leave =>
    match s.phase with
    | .leaving => {s with phase := .stopped}
    | _ => s

end TransactionConsumer
end RiskPulse
