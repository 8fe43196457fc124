import RiskPulse.SchemaRegistry

namespace RiskPulse

inductive ProducerError where
  | closed
  | registry (error : RegistryError)
  | badKey
  | bufferFull

structure TransactionProducer where
  topic : String
  closed : Bool
  registry : SchemaRegistry

-- What the call reads from outside: a fresh uuid, the clock in milliseconds and as
-- a text, and whether the buffer of the Kafka client has room.
structure ProduceContext where
  uuid4 : String
  now : Int
  producedAt : String
  room : Bool

structure ProducedMessage where
  topic : String
  key : List UInt8
  value : List UInt8
  headers : List (String × List UInt8)

namespace TransactionProducer

def schemaName : String := "transaction_event"

def setDefault (record : Record) (key : String) (value : Value) : Record :=
  if key ∈ record.keys then record else record.set key value

def enrichEvent (transaction : Record) (context : ProduceContext) : Record :=
  setDefault (setDefault (setDefault transaction "event_id" (.str context.uuid4)) "event_timestamp" (.int context.now))
    "event_version" (.str "1.0.0")

def targetTopic (p : TransactionProducer) (topic : Option String) : String :=
  match topic with
  | some name => if name = "" then p.topic else name
  | none => p.topic

-- A field that is encoded has to be a str.
def encoded (event : Record) (key : String) : Except ProducerError (List UInt8) :=
  match event.get? key with
  | some (.str text) => .ok (Avro.utf8 text)
  | _ => .error .badKey

def produce (p : TransactionProducer) (context : ProduceContext) (transaction : Record) (topic : Option String)
    (headers : OrderedDict String String) : Except ProducerError ProducedMessage :=
  if p.closed then .error .closed
  else
    let event := enrichEvent transaction context
    ((p.registry.validate schemaName event).mapError .registry).bind fun validated =>
    ((p.registry.serialize schemaName validated).mapError .registry).bind fun value =>
    (encoded event "account_id").bind fun key =>
    (encoded event "event_id").bind fun eventId =>
    (encoded event "event_version").bind fun eventVersion =>
    if context.room then
      .ok {
        topic := p.targetTopic topic
        key := key
        value := value
        headers := ((OrderedDict.ofList [("event_id",eventId),("event_version",eventVersion),
          ("schema_name",Avro.utf8 schemaName),("produced_at",Avro.utf8 context.producedAt)]).update
            (OrderedDict.ofList (headers.entries.map fun (name,text) => (name,Avro.utf8 text)))).entries}
    else .error .bufferFull

end TransactionProducer
end RiskPulse
