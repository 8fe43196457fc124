import Mathlib.Data.List.Induction
import RiskPulse.Library.Batches
import RiskPulse.Library.Effect
import RiskPulse.Library.Fallible
import RiskPulse.Record

namespace RiskPulse

-- A record as the INSERT binds it, the defaults of its Python-side columns filled
-- in (uuid4 for transaction_id, pending for status). No timestamp is the default of
-- the server. The records of one call have the same keys, so the columns not named
-- here are values of one type.
structure TransactionRecord (C : Type) where
  transactionId : String
  externalTransactionId : Option String
  transactionAmount : Option PyFloat
  transactionType : Option String
  channel : Option String
  status : Option String
  processedTimestamp : Option Rat
  updatedAt : Option Rat
  columns : C

-- A row, under its external_transaction_id.
structure TransactionRow (C : Type) where
  transactionId : String
  transactionAmount : PyFloat
  transactionType : String
  channel : String
  status : String
  processedTimestamp : Rat
  updatedAt : Rat
  columns : C
  deriving DecidableEq

abbrev Transactions (C : Type) := OrderedDict String (TransactionRow C)

-- What the types and NOT NULLs of the other columns reject.
structure PostgresHandler (C : Type) where
  rejects : C → Except String Unit

namespace PostgresHandler
open Effect
variable {C : Type}

def notNull (column : String) (v : Option α) : Except String α :=
  v.elim (.error ("null value in column " ++ column ++ " of relation transactions violates not-null constraint")) .ok

def check (constraint : String) (holds : Bool) : Except String Unit :=
  if holds then .ok () else .error ("new row for relation transactions violates check constraint " ++ constraint)

-- Excess characters are cut off when all of them are spaces.
def varchar (size : Nat) (text : String) : Except String String :=
  if (text.toList.drop size).all fun c => c = ' ' then .ok (String.ofList (text.toList.take size))
  else .error "value too long for type character varying"

def roundHalfAway (x : Rat) : Int := if 0 ≤ x then (x + 1 / 2).floor else -(-x + 1 / 2).floor

-- NUMERIC(15, 2)
def numeric : PyFloat → Except String PyFloat
  | .finite value =>
    let cents := roundHalfAway (value * 100)
    if cents.natAbs < 1000000000000000 then .ok (.finite ((cents : Rat) / 100)) else .error "numeric field overflow"
  | .nan => .ok .nan
  | .infinity _ => .error "numeric field overflow"

-- NaN is greater than every number.
def positive : PyFloat → Bool
  | .finite value => decide (0 < value)
  | .nan => true
  | .infinity negative => !negative

-- The identifier a record is stored under.
def identifier (r : TransactionRecord C) : Option String :=
  r.externalTransactionId.bind fun text => (varchar 64 text).toOption

-- The row a record would be inserted as: the constraints are checked on it before
-- a conflict is looked for. A text longer than the names of a CHECK is none of them.
def formRow (h : PostgresHandler C) (now : Rat) (r : TransactionRecord C) : Except String (String × TransactionRow C) := do
  h.rejects r.columns
  let text ← notNull "external_transaction_id" r.externalTransactionId
  let stored ← varchar 64 text
  let amount ← notNull "transaction_amount" r.transactionAmount
  let transactionAmount ← numeric amount
  let transactionType ← notNull "transaction_type" r.transactionType
  let channel ← notNull "channel" r.channel
  let status ← notNull "status" r.status
  check "ck_transactions_amount_positive" (positive transactionAmount)
  check "ck_transactions_type" (transactionType ∈ ["purchase","withdrawal","transfer","refund"])
  check "ck_transactions_channel" (channel ∈ ["online","pos","atm","mobile"])
  check "ck_transactions_status" (status ∈ ["pending","approved","declined","flagged"])
  pure (stored,{
    transactionId := r.transactionId
    transactionAmount,transactionType,channel,status
    processedTimestamp := r.processedTimestamp.getD now
    updatedAt := r.updatedAt.getD now
    columns := r.columns})

-- ON CONFLICT (external_transaction_id) DO UPDATE
def onConflict (now : Rat) (old excluded : TransactionRow C) : TransactionRow C :=
  {old with
    status := excluded.status
    transactionAmount := excluded.transactionAmount
    processedTimestamp := now
    updatedAt := now}

def idTaken (rows : Transactions C) (transactionId : String) : Prop :=
  ∃ entry ∈ rows.entries, entry.2.transactionId = transactionId

instance (rows : Transactions C) (transactionId : String) : Decidable (idTaken rows transactionId) :=
  inferInstanceAs (Decidable (∃ entry ∈ rows.entries, entry.2.transactionId = transactionId))

def place (now : Rat) (formed : String × TransactionRow C) (rows : Transactions C) : Except String (Transactions C) :=
  match rows.get? formed.1 with
  | some old => .ok (rows.set formed.1 (onConflict now old formed.2))
  | none =>
    if idTaken rows formed.2.transactionId then
      .error "duplicate key value violates unique constraint transactions_pkey"
    else .ok (rows.set formed.1 formed.2)

-- The rows of one statement, in order: touched are the identifiers it has written.
def upsertRows (h : PostgresHandler C) (now : Rat) :
    List (TransactionRecord C) → List String → Transactions C → Except String (Transactions C)
  | [],_,rows => .ok rows
  | r :: rest,touched,rows => do
    let formed ← formRow h now r
    if formed.1 ∈ touched then .error "ON CONFLICT DO UPDATE command cannot affect row a second time"
    else
      let next ← place now formed rows
      upsertRows h now rest (formed.1 :: touched) next

-- A statement that fails writes nothing.
def execute (h : PostgresHandler C) (now : Rat) (batch : List (TransactionRecord C)) : Effect (Transactions C) Nat :=
  fun rows =>
    match upsertRows h now batch [] rows with
    | .ok next => (.ok batch.length,next)
    | .error e => (.error e,rows)

def session (body : Effect (Transactions C) α) : Effect (Transactions C) α := fun rows =>
  match body rows with
  | (.ok a,next) => (.ok a,next)
  | (.error e,_) => (.error e,rows)

def upsertBatches (h : PostgresHandler C) (now : Rat) : List (List (TransactionRecord C)) → Nat → Effect (Transactions C) Nat
  | [],total => pure total
  | batch :: rest,total => do
    let rowcount ← execute h now batch
    upsertBatches h now rest (total + rowcount)

-- now() is the time the transaction began, the same in all its statements.
def bulkUpsertTransactions (h : PostgresHandler C) (now : Rat) (records : List (TransactionRecord C)) (batchSize : Nat) :
    Effect (Transactions C) Nat :=
  session (if batchSize = 0 then ofExcept (.error "range() arg 3 must not be zero")
    else upsertBatches h now (Batches.batches batchSize records) 0)

-- One record in a statement of its own.
def applied (h : PostgresHandler C) (now : Rat) (rows : Transactions C) (r : TransactionRecord C) :
    Except String (Transactions C) := do
  let formed ← formRow h now r
  place now formed rows

section Rows
variable {h : PostgresHandler C} {now : Rat}

-- What the row of a record takes from it.
structure Formed (r : TransactionRecord C) (k : String) (row : TransactionRow C) : Prop where
  named : identifier r = some k
  sameId : row.transactionId = r.transactionId
  status : r.status = some row.status
  amount : ∃ given, r.transactionAmount = some given ∧ numeric given = .ok row.transactionAmount

theorem notNull_ok (given : notNull column v = .ok a) : v = some a := by
  cases v with
  | none => cases given
  | some b => cases given; rfl

theorem formRow_formed (formed : formRow h now r = .ok (k,row)) : Formed r k row := by
  obtain ⟨_,_,formed⟩ := Fallible.bind_ok.mp formed
  obtain ⟨text,hasText,formed⟩ := Fallible.bind_ok.mp formed
  obtain ⟨stored,fits,formed⟩ := Fallible.bind_ok.mp formed
  obtain ⟨amount,hasAmount,formed⟩ := Fallible.bind_ok.mp formed
  obtain ⟨rounded,inRange,formed⟩ := Fallible.bind_ok.mp formed
  obtain ⟨_,_,formed⟩ := Fallible.bind_ok.mp formed
  obtain ⟨_,_,formed⟩ := Fallible.bind_ok.mp formed
  obtain ⟨status,hasStatus,formed⟩ := Fallible.bind_ok.mp formed
  obtain ⟨_,_,formed⟩ := Fallible.bind_ok.mp formed
  obtain ⟨_,_,formed⟩ := Fallible.bind_ok.mp formed
  obtain ⟨_,_,formed⟩ := Fallible.bind_ok.mp formed
  obtain ⟨_,_,formed⟩ := Fallible.bind_ok.mp formed
  cases formed
  refine ⟨?_,rfl,notNull_ok hasStatus,amount,notNull_ok hasAmount,inRange⟩
  rw [identifier,notNull_ok hasText,Option.bind_some,fits]
  rfl

theorem idTaken_get? (rows : Transactions C) (transactionId : String) :
    idTaken rows transactionId ↔ ∃ k row, rows.get? k = some row ∧ row.transactionId = transactionId := by
  constructor
  · intro given
    obtain ⟨⟨k,row⟩,member,same⟩ := given
    exact ⟨k,row,(OrderedDict.get?_entry rows k row).mp member,same⟩
  · intro given
    obtain ⟨k,row,found,same⟩ := given
    exact ⟨(k,row),(OrderedDict.get?_entry rows k row).mpr found,same⟩

-- What a table is after a row was placed in it.
structure Placed (formed : String × TransactionRow C) (rows t : Transactions C) : Prop where
  here : ∃ row, t.get? formed.1 = some row ∧ row.status = formed.2.status ∧
    row.transactionAmount = formed.2.transactionAmount
  others : ∀ k, k ≠ formed.1 → t.get? k = rows.get? k
  ids : ∀ transactionId, idTaken t transactionId ↔
    idTaken rows transactionId ∨ formed.1 ∉ rows.keys ∧ formed.2.transactionId = transactionId

theorem idTaken_set (rows : Transactions C) (k : String) (row : TransactionRow C)
    (same : ∀ old, rows.get? k = some old → old.transactionId = row.transactionId) (transactionId : String) :
    idTaken (rows.set k row) transactionId ↔
      idTaken rows transactionId ∨ k ∉ rows.keys ∧ row.transactionId = transactionId := by
  rw [idTaken_get?,idTaken_get?,← OrderedDict.get?_eq_none]
  constructor
  · intro given
    obtain ⟨key,found,there,has⟩ := given
    rw [OrderedDict.get?_set] at there
    by_cases this : key = k
    · rw [if_pos this] at there
      cases there
      cases was : rows.get? k with
      | none => exact .inr ⟨rfl,has⟩
      | some old => exact .inl ⟨k,old,was,(same old was).trans has⟩
    · rw [if_neg this] at there
      exact .inl ⟨key,found,there,has⟩
  · intro given
    rcases given with ⟨key,found,there,has⟩ | ⟨_,has⟩
    · by_cases this : key = k
      · subst this
        refine ⟨key,row,?_,(same found there).symm.trans has⟩
        rw [OrderedDict.get?_set,if_pos rfl]
      · refine ⟨key,found,?_,has⟩
        rw [OrderedDict.get?_set,if_neg this]
        exact there
    · refine ⟨k,row,?_,has⟩
      rw [OrderedDict.get?_set,if_pos rfl]

theorem place_placed (formed : String × TransactionRow C) (ran : place now formed rows = .ok t) : Placed formed rows t := by
  unfold place at ran
  cases was : rows.get? formed.1 with
  | some old =>
    rw [was] at ran
    cases ran
    refine ⟨⟨onConflict now old formed.2,by rw [OrderedDict.get?_set,if_pos rfl],rfl,rfl⟩,?_,?_⟩
    · intro k other
      rw [OrderedDict.get?_set,if_neg other]
    · intro transactionId
      have present : formed.1 ∈ rows.keys := (OrderedDict.mem_keys _ _).mpr ⟨old,was⟩
      rw [idTaken_set rows formed.1 _ fun found there => ?_]
      · simp [present]
      · rw [was] at there
        cases there
        rfl
  | none =>
    rw [was] at ran
    simp only at ran
    split at ran
    · cases ran
    · cases ran
      refine ⟨⟨formed.2,by rw [OrderedDict.get?_set,if_pos rfl],rfl,rfl⟩,?_,?_⟩
      · intro k other
        rw [OrderedDict.get?_set,if_neg other]
      · intro transactionId
        apply idTaken_set
        intro old there
        rw [was] at there
        cases there

theorem place_error (now : Rat) (formed : String × TransactionRow C) (rows : Transactions C) :
    (∃ e, place now formed rows = .error e) ↔ formed.1 ∉ rows.keys ∧ idTaken rows formed.2.transactionId := by
  rw [← OrderedDict.get?_eq_none]
  unfold place
  cases was : rows.get? formed.1 with
  | some old => simp
  | none =>
    simp only [true_and]
    split <;> simp [*]

theorem applied_ok (ran : applied h now rows r = .ok t) : ∃ k row, Formed r k row ∧ Placed (k,row) rows t := by
  obtain ⟨⟨k,row⟩,formed,placed⟩ := Fallible.bind_ok.mp ran
  exact ⟨k,row,formRow_formed formed,place_placed _ placed⟩

-- The identifiers are only read, and those of other records stay as they are.
theorem applied_others (ran : applied h now rows r = .ok t) (other : identifier r ≠ some k) : t.get? k = rows.get? k := by
  obtain ⟨key,row,formed,placed⟩ := applied_ok ran
  apply placed.others
  intro same
  exact other (same ▸ formed.named)

theorem applied_keys (ran : applied h now rows r = .ok t) (k : String) :
    k ∈ t.keys ↔ k ∈ rows.keys ∨ identifier r = some k := by
  by_cases this : identifier r = some k
  · obtain ⟨key,row,formed,placed⟩ := applied_ok ran
    obtain ⟨found,there,_⟩ := placed.here
    have same : key = k := Option.some.inj (formed.named.symm.trans this)
    rw [same] at there
    simp only [this,or_true,iff_true]
    exact (OrderedDict.mem_keys t k).mpr ⟨found,there⟩
  · rw [OrderedDict.mem_keys,OrderedDict.mem_keys,applied_others ran this]
    simp [this]

end Rows

section Statement
variable (h : PostgresHandler C) (now : Rat)

-- A statement is the records one after the other, of identifiers it has not written.
theorem upsertRows_ok (batch : List (TransactionRecord C)) (touched : List String) (rows t : Transactions C) :
    upsertRows h now batch touched rows = .ok t ↔
      batch.foldlM (applied h now) rows = .ok t ∧ (batch.map identifier).Nodup ∧
        ∀ k ∈ touched, some k ∉ batch.map identifier := by
  induction batch generalizing touched rows with
  | nil => simp [upsertRows,pure,Except.pure]
  | cons r rest ih =>
    rw [Fallible.fold_cons,List.map_cons,List.nodup_cons]
    constructor
    · intro ran
      obtain ⟨⟨k,row⟩,formed,ran⟩ := Fallible.bind_ok.mp ran
      have named := (formRow_formed formed).named
      split at ran
      · cases ran
      · rename_i fresh
        obtain ⟨next,placed,ran⟩ := Fallible.bind_ok.mp ran
        obtain ⟨folded,unique,untouched⟩ := (ih (k :: touched) next).mp ran
        refine ⟨⟨next,Fallible.bind_ok.mpr ⟨_,formed,placed⟩,folded⟩,⟨?_,unique⟩,?_⟩
        · rw [named]
          exact untouched k List.mem_cons_self
        · intro key member
          rw [List.mem_cons,named,not_or]
          refine ⟨?_,untouched key (List.mem_cons_of_mem _ member)⟩
          intro same
          cases same
          exact fresh member
    · intro given
      obtain ⟨⟨next,ran,folded⟩,⟨new,unique⟩,untouched⟩ := given
      obtain ⟨⟨k,row⟩,formed,placed⟩ := Fallible.bind_ok.mp ran
      have named := (formRow_formed formed).named
      rw [named] at new
      have fresh : k ∉ touched := by
        intro member
        exact untouched k member (List.mem_cons.mpr (.inl named.symm))
      refine Fallible.bind_ok.mpr ⟨(k,row),formed,?_⟩
      rw [if_neg fresh]
      refine Fallible.bind_ok.mpr ⟨next,placed,(ih (k :: touched) next).mpr ⟨folded,unique,?_⟩⟩
      intro key member
      rcases List.mem_cons.mp member with rfl | early
      · exact new
      · exact fun there => untouched key early (List.mem_cons_of_mem _ there)

theorem execute_ok (batch : List (TransactionRecord C)) (rows t : Transactions C) :
    execute h now batch rows = (.ok n,t) ↔ n = batch.length ∧ batch.foldlM (applied h now) rows = .ok t ∧
      (batch.map identifier).Nodup := by
  have exact := upsertRows_ok h now batch [] rows
  unfold execute
  cases ran : upsertRows h now batch [] rows with
  | ok next =>
    obtain ⟨folded,unique,_⟩ := (exact next).mp ran
    simp only [folded,unique,Prod.mk.injEq,Except.ok.injEq,and_true]
    constructor
    · rintro ⟨rfl,rfl⟩; exact ⟨rfl,rfl⟩
    · rintro ⟨rfl,rfl⟩; exact ⟨rfl,rfl⟩
  | error e =>
    constructor
    · intro absurdity
      cases absurdity
    · intro given
      obtain ⟨_,folded,unique⟩ := given
      rw [(exact t).mpr ⟨folded,unique,by simp⟩] at ran
      cases ran

theorem upsertBatches_ok (batches : List (List (TransactionRecord C))) (total : Nat) (rows t : Transactions C) :
    (∃ n, upsertBatches h now batches total rows = (.ok n,t)) ↔
      batches.flatten.foldlM (applied h now) rows = .ok t ∧ ∀ batch ∈ batches, (batch.map identifier).Nodup := by
  induction batches generalizing total rows with
  | nil =>
    constructor
    · intro given
      obtain ⟨n,ran⟩ := given
      cases ran
      exact ⟨rfl,by simp⟩
    · intro given
      obtain ⟨folded,_⟩ := given
      cases folded
      exact ⟨total,rfl⟩
  | cons batch rest ih =>
    rw [List.flatten_cons,Fallible.fold_append,List.forall_mem_cons,upsertBatches]
    rcases ran : execute h now batch rows with ⟨outcome,next⟩
    cases outcome with
    | ok rowcount =>
      obtain ⟨_,folded,unique⟩ := (execute_ok h now batch rows next).mp ran
      rw [Effect.bind_ok _ ran,ih,folded]
      simp [unique]
    | error e =>
      rw [Effect.bind_error _ ran]
      constructor
      · intro given
        obtain ⟨n,absurdity⟩ := given
        cases absurdity
      · intro given
        obtain ⟨⟨next,folded,_⟩,unique,_⟩ := given
        rw [(execute_ok h now batch rows next).mpr ⟨rfl,folded,unique⟩] at ran
        cases ran

-- Everything a call can come to: the records one after the other, or nothing.
theorem bulkUpsertTransactions_cases (records : List (TransactionRecord C)) (positive : 1 ≤ batchSize) (rows : Transactions C) :
    (∃ n t, bulkUpsertTransactions h now records batchSize rows = (.ok n,t) ∧
        records.foldlM (applied h now) rows = .ok t ∧
        ∀ batch ∈ Batches.batches batchSize records, (batch.map identifier).Nodup) ∨
      (∃ e, bulkUpsertTransactions h now records batchSize rows = (.error e,rows)) ∧
        ¬((∃ t, records.foldlM (applied h now) rows = .ok t) ∧
          ∀ batch ∈ Batches.batches batchSize records, (batch.map identifier).Nodup) := by
  have whole := Batches.batches_flatten positive records
  have exact := upsertBatches_ok h now (Batches.batches batchSize records) 0 rows
  rw [whole] at exact
  have nonzero : batchSize ≠ 0 := by omega
  rw [bulkUpsertTransactions,if_neg nonzero]
  unfold session
  rcases ran : upsertBatches h now (Batches.batches batchSize records) 0 rows with ⟨outcome,t⟩
  cases outcome with
  | ok n => exact .inl ⟨n,t,rfl,(exact t).mp ⟨n,ran⟩⟩
  | error e =>
    refine .inr ⟨⟨e,rfl⟩,?_⟩
    intro given
    obtain ⟨⟨t,folded⟩,unique⟩ := given
    obtain ⟨n,returned⟩ := (exact t).mpr ⟨folded,unique⟩
    rw [ran] at returned
    cases returned

end Statement

section Law
variable {h : PostgresHandler C} {now : Rat}

-- The record is the first of its identifier, which is not in the table.
def New (rows : Transactions C) (before : List (TransactionRecord C)) (r : TransactionRecord C) : Prop :=
  (∀ k, identifier r = some k → k ∉ rows.keys) ∧ ∀ q ∈ before, identifier q ≠ identifier r

def IdGiven (rows : Transactions C) (before : List (TransactionRecord C)) (transactionId : String) : Prop :=
  idTaken rows transactionId ∨
    ∃ early q late, before = early ++ q :: late ∧ New rows early q ∧ q.transactionId = transactionId

-- A record that breaks a constraint, or a new one under the transaction_id of a
-- row or of a new record before it.
def Refused (h : PostgresHandler C) (now : Rat) (rows : Transactions C) (records : List (TransactionRecord C)) : Prop :=
  ∃ before r after, records = before ++ r :: after ∧
    ((∃ e, formRow h now r = .error e) ∨ New rows before r ∧ IdGiven rows before r.transactionId)

theorem idGiven_snoc (rows : Transactions C) (before : List (TransactionRecord C)) (r : TransactionRecord C)
    (transactionId : String) :
    IdGiven rows (before ++ [r]) transactionId ↔
      IdGiven rows before transactionId ∨ New rows before r ∧ r.transactionId = transactionId := by
  unfold IdGiven
  rw [or_assoc]
  refine or_congr_right ?_
  constructor
  · intro given
    obtain ⟨early,q,late,split,new,same⟩ := given
    rcases List.eq_nil_or_concat late with rfl | ⟨shorter,final,rfl⟩
    · obtain ⟨rfl,one⟩ := List.append_inj' split rfl
      cases one
      exact .inr ⟨new,same⟩
    · rw [List.concat_eq_append,← List.cons_append,← List.append_assoc] at split
      exact .inl ⟨early,q,shorter,List.append_inj_left' split rfl,new,same⟩
  · intro given
    rcases given with ⟨early,q,late,rfl,new,same⟩ | ⟨new,same⟩
    · exact ⟨early,q,late ++ [r],by simp,new,same⟩
    · exact ⟨before,r,[],rfl,new,same⟩

-- The identifiers and the primary keys of the table after some of the records.
theorem folded_keys (before : List (TransactionRecord C)) (rows t : Transactions C)
    (folded : before.foldlM (applied h now) rows = .ok t) (k : String) :
    k ∈ t.keys ↔ k ∈ rows.keys ∨ ∃ q ∈ before, identifier q = some k := by
  induction before generalizing rows with
  | nil => cases folded; simp
  | cons r rest ih =>
    obtain ⟨next,ran,folded⟩ := (Fallible.fold_cons r rest).mp folded
    rw [ih next folded,applied_keys ran,or_assoc]
    simp

theorem new_after (folded : before.foldlM (applied h now) rows = .ok t) (named : identifier r = some k) :
    New rows before r ↔ k ∉ t.keys := by
  rw [folded_keys before rows t folded,not_or]
  unfold New
  rw [named]
  constructor
  · intro given
    obtain ⟨absent,others⟩ := given
    refine ⟨absent k rfl,?_⟩
    intro given
    obtain ⟨q,member,same⟩ := given
    exact others q member same
  · intro given
    obtain ⟨absent,others⟩ := given
    refine ⟨?_,fun q member same => others ⟨q,member,same⟩⟩
    intro key same
    cases same
    exact absent

theorem folded_ids (before : List (TransactionRecord C)) (rows t : Transactions C)
    (folded : before.foldlM (applied h now) rows = .ok t) (transactionId : String) :
    idTaken t transactionId ↔ IdGiven rows before transactionId := by
  induction before using List.reverseRecOn generalizing t with
  | nil =>
    cases folded
    simp [IdGiven]
  | append_singleton before r ih =>
    obtain ⟨middle,earlier,last⟩ := (Fallible.fold_append before [r]).mp folded
    have ran : applied h now middle r = .ok t := by
      obtain ⟨next,ran,same⟩ := (Fallible.fold_cons r []).mp last
      cases same
      exact ran
    obtain ⟨k,row,formed,placed⟩ := applied_ok ran
    rw [placed.ids,ih middle earlier,idGiven_snoc,new_after earlier formed.named,formed.sameId]

theorem refused_exact (records : List (TransactionRecord C)) (rows : Transactions C) :
    Refused h now rows records ↔ ∃ e, records.foldlM (applied h now) rows = .error e := by
  constructor
  · intro given
    obtain ⟨before,r,after,rfl,bad⟩ := given
    cases whole : (before ++ r :: after).foldlM (applied h now) rows with
    | error e => exact ⟨e,rfl⟩
    | ok t =>
      exfalso
      obtain ⟨middle,earlier,later⟩ := (Fallible.fold_append before _).mp whole
      obtain ⟨next,ran,_⟩ := (Fallible.fold_cons r after).mp later
      obtain ⟨⟨k,row⟩,formed,placed⟩ := Fallible.bind_ok.mp ran
      rcases bad with ⟨e,broken⟩ | ⟨new,given⟩
      · rw [broken] at formed
        cases formed
      · have fits := formRow_formed formed
        have absent := (new_after earlier fits.named).mp new
        have taken : idTaken middle row.transactionId := by
          rw [fits.sameId]
          exact (folded_ids before rows middle earlier _).mpr given
        obtain ⟨e,stopped⟩ := (place_error now (k,row) middle).mpr ⟨absent,taken⟩
        rw [stopped] at placed
        cases placed
  · intro given
    obtain ⟨e,failed⟩ := given
    obtain ⟨before,r,after,t,split,ran,stopped⟩ := Fallible.fold_error records failed
    refine ⟨before,r,after,split,?_⟩
    rcases Fallible.bind_error.mp stopped with broken | ⟨⟨k,row⟩,formed,stopped⟩
    · exact .inl ⟨e,broken⟩
    · have fits := formRow_formed formed
      obtain ⟨absent,taken⟩ := (place_error now (k,row) t).mp ⟨e,stopped⟩
      refine .inr ⟨(new_after ran fits.named).mpr absent,?_⟩
      rw [← fits.sameId]
      exact (folded_ids before rows t ran _).mp taken

-- The row of a record no later one has the identifier of.
theorem folded_last (folded : (before ++ r :: after).foldlM (applied h now) rows = .ok t)
    (last : ∀ q ∈ after, identifier q ≠ identifier r) :
    ∃ k row amount, identifier r = some k ∧ t.get? k = some row ∧ r.status = some row.status ∧
      r.transactionAmount = some amount ∧ numeric amount = .ok row.transactionAmount := by
  obtain ⟨middle,_,later⟩ := (Fallible.fold_append before _).mp folded
  obtain ⟨next,ran,rest⟩ := (Fallible.fold_cons r after).mp later
  obtain ⟨k,row,formed,placed⟩ := applied_ok ran
  obtain ⟨left,there,status,amount⟩ := placed.here
  obtain ⟨given,has,rounded⟩ := formed.amount
  have keeps : ∀ q ∈ after, ∀ u v, applied h now u q = .ok v → u.get? k = some left → v.get? k = some left := by
    intro q member u v step found
    rw [applied_others step fun same => last q member (same.trans formed.named.symm)]
    exact found
  have kept := Fallible.fold_keeps (fun u => u.get? k = some left) after keeps rest there
  refine ⟨k,left,given,formed.named,kept,?_,has,?_⟩
  · rw [status]
    exact formed.status
  · rw [amount]
    exact rounded

-- What is asked of the bulk upsert of a list, on a table.
structure BatchingLaw (h : PostgresHandler C) (now : Rat) (records : List (TransactionRecord C)) (rows : Transactions C) :
    Prop where
  same : ∀ b₁ b₂, 1 ≤ b₁ → 1 ≤ b₂ →
    (bulkUpsertTransactions h now records b₁ rows).1.isOk = (bulkUpsertTransactions h now records b₂ rows).1.isOk ∧
      (bulkUpsertTransactions h now records b₁ rows).2 = (bulkUpsertTransactions h now records b₂ rows).2
  lastWins : ∀ b, 1 ≤ b → ∀ n t, bulkUpsertTransactions h now records b rows = (.ok n,t) →
    ∀ before r after, records = before ++ r :: after → (∀ q ∈ after, identifier q ≠ identifier r) →
      ∃ k row amount, identifier r = some k ∧ t.get? k = some row ∧ r.status = some row.status ∧
        r.transactionAmount = some amount ∧ numeric amount = .ok row.transactionAmount
  atomic : ∀ b, 1 ≤ b → ∀ e t, bulkUpsertTransactions h now records b rows = (.error e,t) → t = rows

theorem folded_or_refused (h : PostgresHandler C) (now : Rat) (records : List (TransactionRecord C)) (rows : Transactions C) :
    (∃ t, records.foldlM (applied h now) rows = .ok t) ∨ Refused h now rows records := by
  cases folded : records.foldlM (applied h now) rows with
  | ok t => exact .inl ⟨t,rfl⟩
  | error e => exact .inr ((refused_exact records rows).mpr ⟨e,folded⟩)

-- One statement a record never writes a row twice.
theorem oneByOne_ok (folded : records.foldlM (applied h now) rows = .ok t) :
    ∃ n, bulkUpsertTransactions h now records 1 rows = (.ok n,t) := by
  rcases bulkUpsertTransactions_cases h now records (Nat.le_refl 1) rows with
    ⟨n,u,ran,same,_⟩ | ⟨_,stuck⟩
  · rw [folded] at same
    cases same
    exact ⟨n,ran⟩
  · refine absurd ⟨⟨t,folded⟩,?_⟩ stuck
    intro batch member
    have short := Batches.batches_one records member
    match batch with
    | [] => simp
    | [_] => simp
    | _ :: _ :: _ => simp at short

-- With identifiers that differ, or a record that is refused, every size comes to the
-- same: the records one after the other, or nothing.
theorem settled_outcome (records : List (TransactionRecord C)) (rows : Transactions C)
    (condition : (records.map identifier).Nodup ∨ Refused h now rows records) :
    (∃ t, records.foldlM (applied h now) rows = .ok t ∧
        ∀ b, 1 ≤ b → ∃ n, bulkUpsertTransactions h now records b rows = (.ok n,t)) ∨
      ∀ b, 1 ≤ b → ∃ e, bulkUpsertTransactions h now records b rows = (.error e,rows) := by
  by_cases refused : Refused h now rows records
  · right
    intro b positive
    obtain ⟨e,failed⟩ := (refused_exact records rows).mp refused
    rcases bulkUpsertTransactions_cases h now records positive rows with ⟨_,_,_,folded,_⟩ | ⟨raised,_⟩
    · rw [failed] at folded
      cases folded
    · exact raised
  · left
    have unique := condition.resolve_right refused
    obtain ⟨t,folded⟩ := (folded_or_refused h now records rows).resolve_right refused
    refine ⟨t,folded,fun b positive => ?_⟩
    rcases bulkUpsertTransactions_cases h now records positive rows with ⟨n,u,ran,same,_⟩ | ⟨_,stuck⟩
    · rw [folded] at same
      cases same
      exact ⟨n,ran⟩
    · refine absurd ⟨⟨t,folded⟩,fun batch member => ?_⟩ stuck
      have part := (List.sublist_flatten_of_mem member).map identifier
      rw [Batches.batches_flatten positive] at part
      exact unique.sublist part

theorem returned_law (folded : records.foldlM (applied h now) rows = .ok t)
    (returns : ∀ b, 1 ≤ b → ∃ n, bulkUpsertTransactions h now records b rows = (.ok n,t)) :
    BatchingLaw h now records rows := by
  refine ⟨?_,?_,?_⟩
  · intro b₁ b₂ first second
    obtain ⟨n,one⟩ := returns b₁ first
    obtain ⟨m,other⟩ := returns b₂ second
    rw [one,other]
    exact ⟨rfl,rfl⟩
  · intro b positive n u ran before r after split last
    obtain ⟨m,returned⟩ := returns b positive
    rw [ran] at returned
    cases returned
    rw [split] at folded
    exact folded_last folded last
  · intro b positive e u ran
    obtain ⟨m,returned⟩ := returns b positive
    rw [ran] at returned
    cases returned

theorem raised_law (raises : ∀ b, 1 ≤ b → ∃ e, bulkUpsertTransactions h now records b rows = (.error e,rows)) :
    BatchingLaw h now records rows := by
  refine ⟨?_,?_,?_⟩
  · intro b₁ b₂ first second
    obtain ⟨e,one⟩ := raises b₁ first
    obtain ⟨f,other⟩ := raises b₂ second
    rw [one,other]
    exact ⟨rfl,rfl⟩
  · intro b positive n u ran
    obtain ⟨e,raised⟩ := raises b positive
    rw [ran] at raised
    cases raised
  · intro b positive e u ran
    obtain ⟨f,raised⟩ := raises b positive
    rw [ran] at raised
    cases raised
    rfl

-- Where one by one returns, so does one statement of all the records.
theorem BatchingLaw.unique (law : BatchingLaw h now records rows)
    (folded : records.foldlM (applied h now) rows = .ok t) : (records.map identifier).Nodup := by
  by_cases empty : records = []
  · rw [empty]
    exact List.nodup_nil
  · have size : 1 ≤ records.length := List.length_pos_of_ne_nil empty
    obtain ⟨n,ran⟩ := oneByOne_ok folded
    have same := (law.same 1 records.length (Nat.le_refl 1) size).1
    rw [ran] at same
    rcases bulkUpsertTransactions_cases h now records size rows with ⟨_,_,_,_,unique⟩ | ⟨⟨e,failed⟩,_⟩
    · apply unique
      rw [Batches.batches_whole empty]
      exact List.mem_singleton.mpr rfl
    · rw [failed] at same
      cases same

end Law

def anyHandler : PostgresHandler Unit := ⟨fun _ => .ok ()⟩

def purchase (transactionId status : String) : TransactionRecord Unit :=
  ⟨transactionId,some "t1",some (.finite 10),some "purchase",some "online",some status,none,none,()⟩

end PostgresHandler
end RiskPulse
