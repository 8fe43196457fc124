import RiskPulse.Library.Fallible
import RiskPulse.KafkaConsumer
import RiskPulse.KafkaProducer

namespace RiskPulse

-- The consumer makes of the message exactly one record, and that agrees with what
-- was sent, in whatever sense.
def ReadBack (agrees : Record → Record → Prop) (c : TransactionConsumer) (transaction : Record) (message : Message) : Prop :=
  ∃ record, c.deserializeMessages [message] = some [record] ∧ agrees transaction record

theorem serialize_writes (registry : SchemaRegistry)
    (wrote : registry.serialize TransactionProducer.schemaName record = .ok content) :
    registry.write transactionEvent record = some content := by
  have opened : SchemaRegistry.getSchema TransactionProducer.schemaName = .ok transactionEvent := by
    simp [SchemaRegistry.getSchema,TransactionProducer.schemaName]
  unfold SchemaRegistry.serialize at wrote
  rw [opened] at wrote
  simp only [Except.bind] at wrote
  split at wrote
  · rename_i bytes written
    cases wrote
    exact written
  · cases wrote

theorem produce_writes (p : TransactionProducer) (produced : p.produce context transaction topic headers = .ok sent) :
    ∃ record, p.registry.write transactionEvent record = some sent.value := by
  unfold TransactionProducer.produce at produced
  split at produced
  · cases produced
  · dsimp only at produced
    obtain ⟨validated,_,later⟩ := Fallible.bind_ok.mp produced
    obtain ⟨value,serialized,later⟩ := Fallible.bind_ok.mp later
    obtain ⟨key,_,later⟩ := Fallible.bind_ok.mp later
    obtain ⟨eventId,_,later⟩ := Fallible.bind_ok.mp later
    obtain ⟨eventVersion,_,later⟩ := Fallible.bind_ok.mp later
    have wrote : p.registry.serialize TransactionProducer.schemaName validated = .ok value := by
      cases outcome : p.registry.serialize TransactionProducer.schemaName validated with
      | error e => rw [outcome] at serialized; cases serialized
      | ok bytes => rw [outcome] at serialized; cases serialized; rfl
    split at later
    · cases later
      exact ⟨validated,serialize_writes p.registry wrote⟩
    · cases later

-- The byte of the transaction type is a control character and no blank.
theorem written_type (perSchema : PerSchema registry double)
    (wrote : registry.write transactionEvent record = some content) :
    ∃ b ∈ content, b.toNat < 32 ∧ b.toNat ≠ 9 ∧ b.toNat ≠ 10 ∧ b.toNat ≠ 13 := by
  have encoded := perSchema _ _ _ wrote
  have field : ("transaction_type",Avro.Schema.enum ["purchase","withdrawal","transfer","refund"]) ∈
      transactionEvent.map fun field => (field.name,field.type) := by simp [transactionEvent]
  obtain ⟨part,written,inside⟩ := Avro.encodeRecord_field double encoded field
  obtain ⟨i,bound,rfl⟩ := Avro.encode_enum double written
  have four : i < 4 := bound
  rw [Avro.long_index (by omega)] at inside
  refine ⟨_,inside _ List.mem_cons_self,?_⟩
  rw [UInt8.toNat_ofNat']
  omega

theorem undecodable_text (c : TransactionConsumer) (message : Message)
    (unread : ∀ result, c.loads text ≠ .ok result) : ∀ record, c.fromJson message (c.loads text) ≠ .record record := by
  intro record
  cases loaded : c.loads text with
  | ok result => exact absurd loaded (unread result)
  | error e => cases e <;> simp [TransactionConsumer.fromJson]

theorem produced_never_read_back (c : TransactionConsumer) (p : TransactionProducer)
    (double : Avro.Datum PyFloat → Option (List UInt8)) (perSchema : PerSchema p.registry double)
    (produced : p.produce context transaction topic headers = .ok sent) (message : Message)
    (delivered : message.value = .bytes sent.value) (agrees : Record → Record → Prop) :
    ¬ReadBack agrees c transaction message := by
  rintro ⟨record,yields,_⟩
  obtain ⟨event,wrote⟩ := produce_writes p produced
  obtain ⟨b,member,low,notBlank⟩ := written_type perSchema wrote
  have unread : ∀ record, c.deserialize message ≠ .record record := by
    intro record
    unfold TransactionConsumer.deserialize
    rw [delivered]
    dsimp only
    split
    · rename_i text decoded
      apply undecodable_text
      intro result
      exact Json.decoded_control c.recursionLimit decoded member low notBlank
    · simp
  unfold TransactionConsumer.deserializeMessages at yields
  split at yields
  · rename_i read
    exact unread _ read
  · cases yields
  · cases yields
  · cases yields

namespace CodecAgreement

-- A writer that follows the specification, for records without doubles.
def specification : SchemaRegistry where
  write := fun fields record =>
    Avro.encodeRecord (fun _ => none) (fun name => toDatum (record.value name)) (fields.map fun field => (field.name,field.type))
  int := fun _ => none

def producer : TransactionProducer := ⟨"txn.raw.events",false,specification⟩

def consumer : TransactionConsumer := ⟨500,false,1000,fun _ => .nan⟩

def context : ProduceContext := ⟨"0b6f3a52-5d0e-4b0c-9a55-0f6f0c1d2e3f",1700000000000,"2023-11-14T22:13:20+00:00",true⟩

def purchase : Record :=
  .ofList [("external_transaction_id",.str "TXN-1"),("account_id",.str "ACC-1"),("customer_id",.str "CUST-1"),
    ("merchant_id",.str "MERCH-1"),("merchant_name",.str "Store"),("merchant_category_code",.str "5411"),
    ("transaction_amount",.decimal 12550 (-2)),("transaction_type",.str "purchase"),("channel",.str "online"),
    ("card_type",.str "credit"),("card_last_four",.str "4242"),("transaction_timestamp",.str "2023-11-14T22:13:00Z")]

def delivered (sent : ProducedMessage) : Message := ⟨⟨sent.topic,0⟩,0,.bytes sent.value,none⟩

theorem purchase_sent : ∃ sent, producer.produce context purchase none .empty = .ok sent := by
  have accepted : (producer.produce context purchase none .empty).isOk = true := by decide +kernel
  cases outcome : producer.produce context purchase none .empty with
  | error e =>
    rw [outcome] at accepted
    cases accepted
  | ok sent => exact ⟨sent,rfl⟩

theorem purchase_never_read_back : ∃ sent, producer.produce context purchase none .empty = .ok sent ∧
    ¬ReadBack (fun _ _ => True) consumer purchase (delivered sent) := by
  obtain ⟨sent,produced⟩ := purchase_sent
  refine ⟨sent,produced,?_⟩
  apply produced_never_read_back consumer producer (fun _ => none) _ produced _ rfl
  intro fields record content wrote
  exact wrote

-- The consumer logs an error for the purchase and makes no record of it.
theorem purchase_yields_no_record : ¬∀ sent, producer.produce context purchase none .empty = .ok sent →
    ReadBack (fun _ _ => True) consumer purchase (delivered sent) := by
  intro agreed
  obtain ⟨sent,produced⟩ := purchase_sent
  obtain ⟨record,yields,_⟩ := agreed sent produced
  have count : (producer.produce context purchase none .empty).toOption.map (fun sent =>
      (consumer.deserializeMessages [delivered sent]).map List.length) = some (some 0) := by decide +kernel
  rw [produced] at count
  simp [Except.toOption,yields] at count

end CodecAgreement
end RiskPulse
