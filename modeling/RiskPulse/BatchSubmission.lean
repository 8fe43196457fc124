import RiskPulse.KafkaProducer

namespace RiskPulse

-- A decimal is its coefficient and exponent, and the timestamp its isoformat text.
structure TransactionCreate where
  externalTransactionId : String
  accountId : String
  customerId : String
  merchantId : Option String
  merchantName : Option String
  merchantCategoryCode : Option String
  transactionAmount : Int × Int
  transactionCurrency : String
  transactionType : String
  channel : String
  cardType : Option String
  cardLastFour : Option String
  ipAddress : Option String
  deviceId : Option String
  deviceType : Option String
  geoLatitude : Option (Int × Int)
  geoLongitude : Option (Int × Int)
  geoCountry : Option String
  geoCity : Option String
  isInternational : Bool
  transactionTimestamp : String
  metadata : Option (List (String × Value))

-- How a poll of the Kafka client ends.
inductive PollOutcome where
  | returned
  | bufferError
  | raised
  deriving DecidableEq

-- How the client takes an event: it is in the queue once produce has returned, whatever the
-- poll behind it does.
inductive ClientOutcome where
  | queued (poll : PollOutcome)
  | bufferError
  | raised
  deriving DecidableEq

-- An event of a batch, the call context it is produced in, and how the client, the poll after
-- every hundredth event and the local recording turn out.
structure BatchItem where
  transaction : TransactionCreate
  transactionId : String
  context : ProduceContext
  client : ClientOutcome
  pollRaises : Bool
  recordRaises : Bool

structure BatchSubmission where
  riskpulseEnv : Option String
  producer : Option TransactionProducer
  toFloat : Int × Int → PyFloat
  items : List BatchItem
  finalPollRaises : Bool

inductive BatchError where
  | producer (error : ProducerError)
  | client

structure TransactionSubmitResponse where
  transactionId : String
  externalTransactionId : String
  status : String
  message : String

structure BatchSubmitResponse where
  accepted : Nat
  rejected : Nat
  transactions : List TransactionSubmitResponse
  errors : List Record

inductive HttpFailure where
  | http (status : Nat) (detail : String)
  | internal
  deriving DecidableEq

def textOrNone (text : Option String) : Value := (text.map Value.str).getD .none

-- float(x) if x else None
def floatOrNone (toFloat : Int × Int → PyFloat) (number : Option (Int × Int)) : Value :=
  match number with
  | some n => if n.1 = 0 then .none else .float (toFloat n)
  | none => .none

def buildKafkaEvent (toFloat : Int × Int → PyFloat) (transactionId : String) (t : TransactionCreate) : Record :=
  .ofList [("transaction_id",.str transactionId),
    ("external_transaction_id",.str t.externalTransactionId),
    ("account_id",.str t.accountId),
    ("customer_id",.str t.customerId),
    ("merchant_id",textOrNone t.merchantId),
    ("merchant_name",textOrNone t.merchantName),
    ("merchant_category_code",textOrNone t.merchantCategoryCode),
    ("transaction_amount",.float (toFloat t.transactionAmount)),
    ("transaction_currency",.str t.transactionCurrency),
    ("transaction_type",.str t.transactionType),
    ("channel",.str t.channel),
    ("card_type",textOrNone t.cardType),
    ("card_last_four",textOrNone t.cardLastFour),
    ("ip_address",textOrNone t.ipAddress),
    ("device_id",textOrNone t.deviceId),
    ("device_type",textOrNone t.deviceType),
    ("geo_latitude",floatOrNone toFloat t.geoLatitude),
    ("geo_longitude",floatOrNone toFloat t.geoLongitude),
    ("geo_country",textOrNone t.geoCountry),
    ("geo_city",textOrNone t.geoCity),
    ("is_international",.bool t.isInternational),
    ("transaction_timestamp",.str t.transactionTimestamp),
    ("metadata",(t.metadata.map Value.dict).getD .none)]

namespace BatchSubmission

def topicRawEvents : String := "txn.raw.events"

-- One call of produce: the message that is in the client's queue then, and how the call ends.
def produceItem (p : TransactionProducer) (toFloat : Int × Int → PyFloat) (item : BatchItem) :
    Option ProducedMessage × Except BatchError Unit :=
  match p.produce {item.context with room := true} (buildKafkaEvent toFloat item.transactionId item.transaction)
      (some topicRawEvents) .empty with
  | .error e => (none,.error (.producer e))
  | .ok message =>
    match item.client with
    | .queued .returned => (some message,.ok ())
    | .queued .bufferError => (some message,.error (.producer .bufferFull))
    | .queued .raised => (some message,.error .client)
    | .bufferError => (none,.error (.producer .bufferFull))
    | .raised => (none,.error .client)

-- except (SchemaValidationError, ProducerDeliveryError)
def swallowed : BatchError → Bool
  | .producer .bufferFull => true
  | .producer (.registry (.invalidEnum _ _)) => true
  | .producer (.registry (.failedValidation _)) => true
  | .producer (.registry (.serializationFailed _)) => true
  | _ => false

-- What the client has in its queue afterwards, by the number in the batch, and the counts.
def produceBatch (p : TransactionProducer) (toFloat : Int × Int → PyFloat) (finalPollRaises : Bool) :
    List (BatchItem × Nat) → Nat → Nat → List (Nat × ProducedMessage) × Except BatchError (Nat × Nat)
  | [],produced,failed => ([],if finalPollRaises then .error .client else .ok (produced,failed))
  | (item,i) :: rest,produced,failed =>
    let queued := ((produceItem p toFloat item).1.map fun message => (i,message)).toList
    let continued (produced failed : Nat) :=
      if (i + 1) % 100 = 0 ∧ item.pollRaises = true then (queued,.error .client)
      else
        let (later,outcome) := produceBatch p toFloat finalPollRaises rest produced failed
        (queued ++ later,outcome)
    match (produceItem p toFloat item).2 with
    | .ok () => continued (produced + 1) failed
    | .error e => if swallowed e then continued produced (failed + 1) else (queued,.error e)

def managed (s : BatchSubmission) : Bool :=
  String.ofList ((s.riskpulseEnv.getD "dev").toList.map Char.toLower) ∈ ["prod","production","staging"]

def submitted (item : BatchItem) : TransactionSubmitResponse :=
  ⟨item.transactionId,item.transaction.externalTransactionId,"accepted","Transaction accepted for processing"⟩

def respond (s : BatchSubmission) : Except HttpFailure BatchSubmitResponse :=
  if s.items.any BatchItem.recordRaises then .error .internal
  else .ok ⟨s.items.length,0,s.items.map submitted,[]⟩

-- The events that are in the queue of the Kafka client afterwards, and the response.
def submitBatch (s : BatchSubmission) : List (Nat × ProducedMessage) × Except HttpFailure BatchSubmitResponse :=
  match s.producer with
  | none =>
    if s.managed then ([],.error (.http 503 "Transaction processing pipeline is unavailable."))
    else ([],s.respond)
  | some p =>
    if s.items.isEmpty then ([],s.respond)
    else
      match produceBatch p s.toFloat s.finalPollRaises s.items.zipIdx 0 0 with
      | (queued,.ok _) => (queued,s.respond)
      | (queued,.error _) =>
        if s.managed then (queued,.error (.http 503 "Batch publication could not be confirmed."))
        else (queued,s.respond)

section Batch
variable (p : TransactionProducer) (toFloat : Int × Int → PyFloat)

def handed (x : BatchItem × Nat) : Bool := (produceItem p toFloat x.1).1.isSome

-- An exception that produce_batch does not catch leaves the call of produce, or a poll that
-- is due.
def stops (x : BatchItem × Nat) : Bool :=
  (match (produceItem p toFloat x.1).2 with | .ok _ => false | .error e => !swallowed e) ||
    (decide ((x.2 + 1) % 100 = 0) && x.1.pollRaises)

-- What one event adds to the batch.
theorem batch_cons (finalPollRaises : Bool) (x : BatchItem × Nat) (rest : List (BatchItem × Nat)) (produced failed : Nat) :
    (stops p toFloat x = true ∧ ∃ e, produceBatch p toFloat finalPollRaises (x :: rest) produced failed =
      (((produceItem p toFloat x.1).1.map fun message => (x.2,message)).toList,.error e)) ∨
    (stops p toFloat x = false ∧ ∃ produced' failed', produceBatch p toFloat finalPollRaises (x :: rest) produced failed =
      (((produceItem p toFloat x.1).1.map fun message => (x.2,message)).toList ++
        (produceBatch p toFloat finalPollRaises rest produced' failed').1,
        (produceBatch p toFloat finalPollRaises rest produced' failed').2)) := by
  obtain ⟨item,i⟩ := x
  by_cases due : (i + 1) % 100 = 0 ∧ item.pollRaises = true
  · cases ended : (produceItem p toFloat item).2 with
    | ok =>
      exact .inl ⟨by simp [stops,due.1,due.2],.client,by simp only [produceBatch,ended,if_pos due]⟩
    | error e =>
      refine .inl ⟨by simp [stops,due.1,due.2],?_⟩
      cases caught : swallowed e with
      | true => exact ⟨.client,by simp only [produceBatch,ended,caught,if_pos due,if_true]⟩
      | false => exact ⟨e,by simp only [produceBatch,ended,caught,Bool.false_eq_true,if_false]⟩
  · have quiet : (decide ((i + 1) % 100 = 0) && item.pollRaises) = false := by simpa using due
    cases ended : (produceItem p toFloat item).2 with
    | ok => exact .inr ⟨by simp only [stops,ended,quiet,Bool.false_or],produced + 1,failed,by simp only [produceBatch,ended,if_neg due]⟩
    | error e =>
      cases caught : swallowed e with
      | true =>
        exact .inr ⟨by simp only [stops,ended,caught,quiet,Bool.not_true,Bool.false_or],produced,failed + 1,
          by simp only [produceBatch,ended,caught,if_neg due,if_true]⟩
      | false =>
        exact .inl ⟨by simp only [stops,ended,caught,Bool.not_false,Bool.true_or],e,
          by simp only [produceBatch,ended,caught,Bool.false_eq_true,if_false]⟩

theorem batch_raises (finalPollRaises : Bool) (items : List (BatchItem × Nat)) (produced failed : Nat) :
    (∃ e, (produceBatch p toFloat finalPollRaises items produced failed).2 = .error e) ↔
      (∃ x ∈ items, stops p toFloat x = true) ∨ finalPollRaises = true := by
  induction items generalizing produced failed with
  | nil => cases finalPollRaises <;> simp [produceBatch]
  | cons x rest ih =>
    rcases batch_cons p toFloat finalPollRaises x rest produced failed with ⟨stopped,e,ran⟩ | ⟨goes,produced',failed',ran⟩
    · rw [ran]
      exact iff_of_true ⟨e,rfl⟩ (.inl ⟨x,List.mem_cons_self,stopped⟩)
    · rw [ran]
      simp [ih,goes]

theorem batch_indices (finalPollRaises : Bool) (items : List (BatchItem × Nat)) (produced failed : Nat) :
    ((produceBatch p toFloat finalPollRaises items produced failed).1.map Prod.fst).Sublist (items.map Prod.snd) := by
  induction items generalizing produced failed with
  | nil => exact List.Sublist.refl _
  | cons x rest ih =>
    have first : ((((produceItem p toFloat x.1).1.map fun message => (x.2,message)).toList).map Prod.fst).Sublist [x.2] := by
      cases (produceItem p toFloat x.1).1 <;> simp
    rcases batch_cons p toFloat finalPollRaises x rest produced failed with ⟨_,e,ran⟩ | ⟨_,produced',failed',ran⟩
    · rw [ran]
      exact first.trans (List.singleton_sublist.mpr List.mem_cons_self)
    · rw [ran,List.map_append]
      exact first.append (ih produced' failed')

-- All of a batch is handed over if each event is taken and nothing stops before the last.
theorem batch_all (finalPollRaises : Bool) (items : List (BatchItem × Nat)) (produced failed : Nat) :
    (produceBatch p toFloat finalPollRaises items produced failed).1.length = items.length ↔
      (∀ x ∈ items, handed p toFloat x = true) ∧ items.Pairwise fun x _ => stops p toFloat x = false := by
  induction items generalizing produced failed with
  | nil => simp [produceBatch]
  | cons x rest ih =>
    have short : ∀ a b, (produceBatch p toFloat finalPollRaises rest a b).1.length ≤ rest.length := fun a b => by
      simpa using (batch_indices p toFloat finalPollRaises rest a b).length_le
    have first : (((produceItem p toFloat x.1).1.map fun message => (x.2,message)).toList).length = if handed p toFloat x then 1 else 0 := by
      unfold handed
      cases (produceItem p toFloat x.1).1 <;> rfl
    rw [List.forall_mem_cons,List.pairwise_cons,List.length_cons]
    rcases batch_cons p toFloat finalPollRaises x rest produced failed with ⟨stopped,e,ran⟩ | ⟨goes,produced',failed',ran⟩
    · rw [ran,first]
      cases rest with
      | nil =>
        cases handed p toFloat x <;> simp
      | cons next more =>
        refine iff_of_false ?_ fun all => ?_
        · simp only [List.length_cons]
          split <;> omega
        · have goes := all.2.1 next List.mem_cons_self
          rw [stopped] at goes
          cases goes
    · rw [ran,List.length_append,first]
      have bound := short produced' failed'
      cases taken : handed p toFloat x with
      | false =>
        refine iff_of_false ?_ fun all => by cases all.1.1
        simp only [Bool.false_eq_true,if_false]
        omega
      | true =>
        simp only [if_true,goes,implies_true,true_and]
        rw [← ih produced' failed']
        omega

end Batch

theorem numbers (items : List BatchItem) : items.zipIdx.map Prod.snd = List.range items.length := by
  rw [List.zipIdx_map_snd,List.range_eq_range']

-- The response says accepted of an event only if it is in the queue, and the counts are right.
structure Faithful (s : BatchSubmission) (queue : List (Nat × ProducedMessage)) (r : BatchSubmitResponse) : Prop where
  accepted : ∀ i item, s.items[i]? = some item →
    (∃ t ∈ r.transactions, t.transactionId = item.transactionId ∧ t.status = "accepted") → i ∈ queue.map Prod.fst
  total : r.accepted + r.rejected = s.items.length
  counted : r.accepted = queue.length

-- Every event is taken by the client, and no exception comes before the last one.
def Published (s : BatchSubmission) : Prop :=
  match s.producer with
  | none => s.items = []
  | some p => (∀ x ∈ s.items.zipIdx, handed p s.toFloat x = true) ∧
      s.items.zipIdx.Pairwise fun x _ => stops p s.toFloat x = false

-- No response: the local recording fails, or in a managed environment there is no producer or
-- the batch does not end without an exception.
def Refused (s : BatchSubmission) : Prop :=
  (∃ item ∈ s.items, item.recordRaises = true) ∨ s.managed = true ∧
    match s.producer with
    | none => True
    | some p => s.items ≠ [] ∧ ((∃ x ∈ s.items.zipIdx, stops p s.toFloat x = true) ∨ s.finalPollRaises = true)

theorem respond_ok (s : BatchSubmission) : s.respond = .ok r ↔
    (¬∃ item ∈ s.items, item.recordRaises = true) ∧ r = ⟨s.items.length,0,s.items.map submitted,[]⟩ := by
  unfold respond
  rw [List.any_eq]
  split
  · rename_i failed
    exact iff_of_false (fun absurdity => by cases absurdity) fun both => both.1 (of_decide_eq_true failed)
  · rename_i recorded
    have none : ¬∃ item ∈ s.items, item.recordRaises = true := fun failed => recorded (decide_eq_true failed)
    rw [Except.ok.injEq,and_iff_right none]
    exact eq_comm

theorem answer_faithful (s : BatchSubmission) (queue : List (Nat × ProducedMessage))
    (part : (queue.map Prod.fst).Sublist (List.range s.items.length)) :
    Faithful s queue ⟨s.items.length,0,s.items.map submitted,[]⟩ ↔ queue.length = s.items.length := by
  constructor
  · intro faithful
    exact faithful.counted.symm
  · intro all
    have same : queue.map Prod.fst = List.range s.items.length := part.eq_of_length (by simp [all])
    refine ⟨fun i item found _ => ?_,by simp,all.symm⟩
    rw [same]
    exact List.mem_range.mpr (List.getElem?_eq_some_iff.mp found).1

theorem submit_queue (s : BatchSubmission) : ((submitBatch s).1.map Prod.fst).Sublist (List.range s.items.length) ∧
    ((submitBatch s).1.length = s.items.length ↔ Published s) := by
  unfold submitBatch Published
  cases s.producer with
  | none =>
    have nothing : ∀ outcome, (if s.managed then (([],outcome) : List (Nat × ProducedMessage) × Except HttpFailure BatchSubmitResponse)
        else ([],s.respond)).1 = [] := fun outcome => by split <;> rfl
    simp only [nothing]
    exact ⟨List.nil_sublist _,by rw [List.length_nil,eq_comm,List.length_eq_zero_iff]⟩
  | some p =>
    simp only
    split
    · rename_i empty
      rw [List.isEmpty_iff] at empty
      simp [empty]
    · rcases ran : produceBatch p s.toFloat s.finalPollRaises s.items.zipIdx 0 0 with ⟨queue,outcome⟩
      have part := batch_indices p s.toFloat s.finalPollRaises s.items.zipIdx 0 0
      have all := batch_all p s.toFloat s.finalPollRaises s.items.zipIdx 0 0
      rw [ran,numbers] at part
      rw [ran,List.length_zipIdx] at all
      cases outcome with
      | ok counts => exact ⟨part,all⟩
      | error e =>
        simp only
        split <;> exact ⟨part,all⟩

theorem submit_returned (s : BatchSubmission) (r : BatchSubmitResponse) : (submitBatch s).2 = .ok r ↔
    ¬Refused s ∧ r = ⟨s.items.length,0,s.items.map submitted,[]⟩ := by
  unfold submitBatch Refused
  cases s.producer with
  | none =>
    cases s.managed with
    | true =>
      refine iff_of_false (fun absurdity => by cases absurdity) ?_
      exact fun both => both.1 (.inr ⟨rfl,trivial⟩)
    | false =>
      refine (respond_ok s).trans ?_
      simp
  | some p =>
    simp only
    split
    · rename_i empty
      rw [List.isEmpty_iff] at empty
      refine (respond_ok s).trans ?_
      simp [empty]
    · rename_i filled
      rw [List.isEmpty_iff] at filled
      have raises := batch_raises p s.toFloat s.finalPollRaises s.items.zipIdx 0 0
      rcases ran : produceBatch p s.toFloat s.finalPollRaises s.items.zipIdx 0 0 with ⟨queue,outcome⟩
      rw [ran] at raises
      cases outcome with
      | ok counts =>
        have quiet := mt raises.mpr (by rintro ⟨e,absurdity⟩; cases absurdity)
        refine (respond_ok s).trans ?_
        simp only [quiet,and_false,or_false]
      | error e =>
        have loud := raises.mp ⟨e,rfl⟩
        cases s.managed with
        | true =>
          refine iff_of_false (fun absurdity => by cases absurdity) ?_
          exact fun both => both.1 (.inr ⟨rfl,filled,loud⟩)
        | false =>
          refine (respond_ok s).trans ?_
          simp only [Bool.false_eq_true,false_and,or_false]

-- A response is true to what the client has taken if there is none, or all of the batch is
-- in the queue.
theorem batch_acceptance (s : BatchSubmission) :
    (∀ r, (submitBatch s).2 = .ok r → Faithful s (submitBatch s).1 r) ↔ Published s ∨ Refused s := by
  obtain ⟨part,all⟩ := submit_queue s
  constructor
  · intro faithful
    by_cases refused : Refused s
    · exact .inr refused
    · have answer := faithful _ ((submit_returned s _).mpr ⟨refused,rfl⟩)
      exact .inl (all.mp ((answer_faithful s _ part).mp answer))
  · rintro known r returned
    obtain ⟨answered,rfl⟩ := (submit_returned s r).mp returned
    exact (answer_faithful s _ part).mpr (all.mpr (known.resolve_right answered))

def cardless : TransactionCreate where
  externalTransactionId := "EXT-1"
  accountId := "ACC-1"
  customerId := "CUST-1"
  merchantId := some "MERCH-1"
  merchantName := some "Shop"
  merchantCategoryCode := some "5411"
  transactionAmount := (12550,-2)
  transactionCurrency := "USD"
  transactionType := "purchase"
  channel := "online"
  cardType := none
  cardLastFour := none
  ipAddress := none
  deviceId := none
  deviceType := none
  geoLatitude := none
  geoLongitude := none
  geoCountry := none
  geoCity := none
  isInternational := false
  transactionTimestamp := "2026-08-10T12:00:00+00:00"
  metadata := none

def cardlessBatch : BatchSubmission where
  riskpulseEnv := some "prod"
  producer := some ⟨"txn.raw.events",false,⟨fun _ _ => some [],fun _ => none⟩⟩
  toFloat number := .finite (number.1 / 100)
  items := [⟨cardless,"id-1",⟨"event-1",0,"2026-08-10T12:00:00+00:00",true⟩,.queued .returned,false,false⟩]
  finalPollRaises := false

-- A transaction without a card type passes the API's checks but not the Avro schema. The
-- event is dropped with a warning, and the response says accepted.
theorem dropped_event_accepted :
    ¬∀ r, (submitBatch cardlessBatch).2 = .ok r → Faithful cardlessBatch (submitBatch cardlessBatch).1 r := by
  intro faithful
  have answered : (submitBatch cardlessBatch).2.toOption.map BatchSubmitResponse.accepted = some 1 := by
    decide +kernel
  have unqueued : (submitBatch cardlessBatch).1.length = 0 := by decide +kernel
  cases answer : (submitBatch cardlessBatch).2 with
  | error e =>
    rw [answer] at answered
    simp [Except.toOption] at answered
  | ok r =>
    rw [answer] at answered
    have accepted : r.accepted = 1 := Option.some.inj answered
    have counted := (faithful r answer).counted
    omega

end BatchSubmission
end RiskPulse
