import RiskPulse.StorageSteps

namespace RiskPulse.StorageOrchestrator
open Interleaved Runs

-- The key and the record of a task that has a record still to write or to confirm,
-- where the orchestrator writes ahead.
def pends (c : StorageOrchestrator) : Task → Option (String × Record)
  | .writeToCache id record | .confirmWriteAhead id record => some (c.writeAheadKey id,record)
  | .beginPostgres id record | .awaitPostgres id record =>
    if c.writesAhead then some (c.writeAheadKey id,record) else none
  | _ => none

-- An entry goes, other than by expiry, only when a Postgres write of its record
-- has succeeded.
def KeepsEntry (c : StorageOrchestrator) (p : StoragePool) (action : StorageAction) : Prop :=
  (∀ key, action ≠ .outside (.expires key)) → ∀ key record, p.shared.writeAhead key = some record →
    (c.system.step p action).shared.writeAhead key ≠ some record → record ∈ p.shared.persisted

-- Whatever the task has to write or to confirm under the key is this record.
def Only (c : StorageOrchestrator) (key : String) (record : Record) (_ : Storage) (task : Task) : Prop :=
  ∀ other, pends c task = some (key,other) → other = record

def EntryOf (key : String) (record : Record) (s : Storage) : Prop :=
  ∀ other, s.writeAhead key = some other → other = record ∨ other ∈ s.persisted

-- The condition on a store that starts: what is still to be done under its key is
-- for the same record, and the entry there holds that record or a persisted one.
def Undisputed (c : StorageOrchestrator) (p : StoragePool) : StorageAction → Prop
  | .outside (.storeTransaction record uuid4) => c.writesAhead = true →
    AllTasks (Only c (c.writeAheadKey (transactionId record uuid4)) record) p ∧
      EntryOf (c.writeAheadKey (transactionId record uuid4)) record p.shared
  | _ => True

def Persisted (s : Storage) : Task → Prop
  | .confirmWriteAhead _ record => record ∈ s.persisted
  | _ => True

-- Under each key there is one record in question, and what waits to be confirmed
-- has been persisted.
structure Agreed (c : StorageOrchestrator) (p : StoragePool) : Prop where
  one : ∀ key, ∃ record, AllTasks (Only c key record) p ∧ EntryOf key record p.shared
  confirmed : AllTasks Persisted p

inductive EntryStep (c : StorageOrchestrator) (task : Task) (s : Storage) : Storage → Prop where
  | untouched : t.writeAhead = s.writeAhead → EntryStep c task s t
  | written : task = .writeToCache named record →
      t.writeAhead = (s.setEntry (c.writeAheadKey named) (some record)).writeAhead → EntryStep c task s t
  | deleted : task = .confirmWriteAhead named record →
      t.writeAhead = (s.setEntry (c.writeAheadKey named) none).writeAhead → EntryStep c task s t

theorem did_entries (did : Did c o s task t next) : EntryStep c task s t := by
  cases did with
  | cacheWritten => exact .written rfl rfl
  | cacheFailed _ _ either =>
    rcases either with rfl | rfl
    · exact .untouched rfl
    · exact .written rfl rfl
  | confirmed either =>
    rcases either with rfl | rfl
    · exact .untouched rfl
    · exact .deleted rfl rfl
  | cacheOpen | postgresOpen | postgresBegun | postgresReturned | postgresFailed | postgresAborted | buffered | checked
  | nothingTaken | taken | turnedBack | uploading | uploaded | uploadFailed | restored | checkedUp | checkedDown
  | checkAborted => exact .untouched rfl

theorem did_persisted (did : Did c o s task t next) (found : record ∈ s.persisted) : record ∈ t.persisted := by
  cases did with
  | postgresReturned => exact List.mem_append_left _ found
  | cacheFailed _ _ either | confirmed either => rcases either with rfl | rfl <;> exact found
  | cacheOpen | cacheWritten | postgresOpen | postgresBegun | postgresFailed | postgresAborted | buffered | checked
  | nothingTaken | taken | turnedBack | uploading | uploaded | uploadFailed | restored | checkedUp | checkedDown
  | checkAborted => exact found

-- What a task leaves to write or to confirm it had itself to write, and what it
-- leaves to confirm it has persisted.
theorem did_leaves (did : Did c o s task t next) (tasks : List Task) (continues : next = some tasks) :
    ∀ later ∈ tasks, (pends c later = none ∨ pends c later = pends c task) ∧ Persisted t later := by
  intro later member
  cases did_follows did tasks continues later member with
  | begun => exact ⟨.inr rfl,trivial⟩
  | returned ahead persisted => exact ⟨.inr (by simp [pends,ahead]),persisted⟩
  | checked | taken | turnedBack | uploading | uploadFailed => exact ⟨.inl rfl,trivial⟩

theorem only_stays (c : StorageOrchestrator) (s t : Storage) (only : Only c key record s task) :
    Only c key record t task := only

theorem persisted_stays (did : Did c o s task t next) (other : Task) (persisted : Persisted s other) : Persisted t other := by
  cases other with
  | confirmWriteAhead named record => exact did_persisted did persisted
  | _ => trivial

theorem event_pends (c : StorageOrchestrator) (e : Event) (s : Storage) (task : Task) (started : task ∈ (c.event e s).2) :
    Persisted t task ∧ (pends c task = none ∨ ∃ record uuid4, e = .storeTransaction record uuid4 ∧
      c.writesAhead = true ∧ pends c task = some (c.writeAheadKey (transactionId record uuid4),record)) := by
  cases event_starts c e s started with
  | cache ahead => exact ⟨trivial,.inr ⟨_,_,rfl,ahead,rfl⟩⟩
  | postgres =>
    cases ahead : c.writesAhead with
    | true => exact ⟨trivial,.inr ⟨_,_,rfl,rfl,by simp [pends,ahead]⟩⟩
    | false => exact ⟨trivial,.inl (by simp [pends,ahead])⟩
  | buffer | check | take | health | healthPostgres => exact ⟨trivial,.inl rfl⟩

theorem event_entries (c : StorageOrchestrator) (e : Event) (s : Storage) (entry : (c.event e s).1.writeAhead key = some record) :
    s.writeAhead key = some record := by
  cases e with
  | expires gone =>
    simp only [event,Storage.setEntry] at entry
    split at entry
    · cases entry
    · exact entry
  | _ => exact entry

theorem start_agreed (c : StorageOrchestrator) : Agreed c ⟨.start,[]⟩ := by
  constructor
  · intro key
    refine ⟨.empty,?_,?_⟩
    · intro call member
      cases member
    · intro other entry
      cases entry
  · intro call member
    cases member

theorem event_agreed (c : StorageOrchestrator) (p : StoragePool) (e : Event) (agreed : Agreed c p)
    (undisputed : Undisputed c p (.outside e)) : Agreed c (c.system.step p (.outside e)) := by
  have entries : ∀ key record, EntryOf key record p.shared → EntryOf key record (c.event e p.shared).1 := by
    intro key record holds other entry
    rcases holds other (event_entries c e p.shared entry) with same | persisted
    · exact .inl same
    · right
      cases e <;> exact persisted
  constructor
  · intro key
    by_cases stored : ∃ record uuid4, e = .storeTransaction record uuid4 ∧ c.writesAhead = true ∧
        c.writeAheadKey (transactionId record uuid4) = key
    · obtain ⟨record,uuid4,rfl,ahead,rfl⟩ := stored
      obtain ⟨only,entry⟩ := undisputed ahead
      refine ⟨record,allTasks_outside only (fun task => only_stays c _ _) ?_,entries _ _ entry⟩
      intro task started other pending
      rcases (event_pends (t:=p.shared) c _ p.shared task started).2 with nothing | ⟨_,_,same,_,written⟩
      · rw [nothing] at pending
        cases pending
      · cases same
        rw [written] at pending
        cases pending
        rfl
    · obtain ⟨record,only,entry⟩ := agreed.one key
      refine ⟨record,allTasks_outside only (fun task => only_stays c _ _) ?_,entries _ _ entry⟩
      intro task started other pending
      rcases (event_pends (t:=p.shared) c _ p.shared task started).2 with nothing | ⟨_,_,same,ahead,written⟩
      · rw [nothing] at pending
        cases pending
      · rw [written] at pending
        cases pending
        exact absurd ⟨_,_,same,ahead,rfl⟩ stored
  · apply allTasks_outside agreed.confirmed
    · intro task persisted
      cases task with
      | confirmWriteAhead named record => cases e <;> exact persisted
      | _ => trivial
    · intro task started
      exact (event_pends c e p.shared task started).1

theorem did_entryOf (did : Did c o s task t next) (only : Only c key record s task) (entry : EntryOf key record s) :
    EntryOf key record t := by
  intro other found
  have grows : ∀ r, r = record ∨ r ∈ s.persisted → r = record ∨ r ∈ t.persisted := by
    intro r either
    rcases either with same | persisted
    · exact .inl same
    · exact .inr (did_persisted did persisted)
  have changed := did_entries did
  cases changed with
  | untouched same =>
    rw [same] at found
    exact grows other (entry other found)
  | written isWrite same =>
    rw [same] at found
    simp only [Storage.setEntry] at found
    split at found
    · rename_i here
      cases found
      apply Or.inl
      apply only
      rw [isWrite,here]
      rfl
    · exact grows other (entry other found)
  | deleted isConfirm same =>
    rw [same] at found
    simp only [Storage.setEntry] at found
    split at found
    · cases found
    · exact grows other (entry other found)

theorem step_agreed (c : StorageOrchestrator) (p : StoragePool) (action : StorageAction) (agreed : Agreed c p)
    (undisputed : Undisputed c p action) : Agreed c (c.system.step p action) := by
  rcases c.system.step_cases p action with ⟨e,rfl,_⟩ | ⟨n,o,task,rest,before,after,rfl,found,split,stepped⟩ | ⟨same,_⟩
  · exact event_agreed c p e agreed undisputed
  · have own : task :: rest ∈ p.calls := List.mem_of_getElem? found
    have did := exec_did c task o p.shared
    have leaves := did_leaves did
    rw [stepped]
    constructor
    · intro key
      obtain ⟨record,only,entry⟩ := agreed.one key
      have mine := only _ own task List.mem_cons_self
      refine ⟨record,allTasks_run only split (fun other => only_stays c _ _) ?_,did_entryOf did mine entry⟩
      intro tasks next later member other pending
      rcases (leaves tasks next later member).1 with nothing | same
      · rw [nothing] at pending
        cases pending
      · rw [same] at pending
        exact mine other pending
    · apply allTasks_run agreed.confirmed split
      · exact persisted_stays did
      · intro tasks next later member
        exact (leaves tasks next later member).2
  · rw [same]
    exact agreed

theorem agreed_keeps (c : StorageOrchestrator) (p : StoragePool) (action : StorageAction) (agreed : Agreed c p) :
    KeepsEntry c p action := by
  intro lasting key record found gone
  rcases c.system.step_cases p action with ⟨e,rfl,stepped⟩ | ⟨n,o,task,rest,before,after,rfl,run,split,stepped⟩ | ⟨same,_⟩
  · apply absurd _ gone
    rw [stepped]
    cases e with
    | expires key => exact absurd rfl (lasting key)
    | _ => exact found
  · obtain ⟨one,only,entry⟩ := agreed.one key
    have own : task :: rest ∈ p.calls := List.mem_of_getElem? run
    have mine := only _ own task List.mem_cons_self
    have confirmed := agreed.confirmed _ own task List.mem_cons_self
    rw [stepped] at gone
    have changed := did_entries (exec_did c task o p.shared)
    have ran : c.system.exec task o p.shared = c.exec task o p.shared := rfl
    rw [ran] at gone
    generalize (c.exec task o p.shared).1 = t at changed gone
    rcases entry record found with rfl | persisted
    · cases changed with
      | untouched same => exact absurd (by rw [same]; exact found) gone
      | written isWrite same =>
        apply absurd _ gone
        dsimp only
        rw [same]
        simp only [Storage.setEntry]
        split
        · rename_i here
          apply congrArg
          apply mine
          rw [isWrite,here]
          rfl
        · exact found
      | deleted isConfirm same =>
        subst isConfirm
        rw [same] at gone
        simp only [Storage.setEntry] at gone
        split at gone
        · rename_i here
          rw [← mine _ (by rw [here]; rfl)]
          exact confirmed
        · exact absurd found gone
    · exact persisted
  · rw [same] at gone
    exact absurd found gone

section Kept

def writing : StorageOrchestrator :=
  ⟨true,true,false,false,500,1000,true,5,30,fun id => match id with | .str text => text | _ => "None"⟩

def succeeds (n : Nat) : StorageAction := .run n ⟨.returned 1,true⟩

-- One store, its Postgres write returned and its entry deleted.
def oneStore : List StorageAction :=
  [.outside (.storeTransaction .empty "u"),succeeds 0,succeeds 0,succeeds 0,succeeds 0]

end Kept

section Lost

-- Two records without an external id meet on the key of None.
def unnamed (customer : String) : Record :=
  .ofList [("external_transaction_id",.none),("customer_id",.str customer)]

def firstAwaits : List StorageAction :=
  [.outside (.storeTransaction (unnamed "a") "u"),succeeds 0,succeeds 0,
    .outside (.storeTransaction (unnamed "b") "v")]

end Lost

end RiskPulse.StorageOrchestrator
