import RiskPulse.StorageOrchestrator

namespace RiskPulse

def Outcome.Bad (o : Outcome) : Prop := ∀ latency, o.answer ≠ .returned latency

theorem setHealth_health (s : Storage) (target b : StorageBackend) (health : BackendHealth) :
    (s.setHealth target health).health b = if b = target then health else s.health b := rfl

namespace StorageOrchestrator

def uploadedState (s : Storage) (b : BatchBackend) (batch : List Record) (latency : Rat) : Storage :=
  {s.recordSuccess b.backend latency with
    uploaded := fun other => if other = b then s.uploaded b + batch else s.uploaded other}

def bufferedState (s : Storage) (b : BatchBackend) (record : Record) : Storage :=
  {s.setBuffer b (s.buffers b ++ [record]) with
    buffered := fun other => if other = b then s.buffered b + {record} else s.buffered other}

-- All that one task can do: the state it leaves and the tasks it puts in its place,
-- none of them when it ends its call.
inductive Did (c : StorageOrchestrator) (o : Outcome) (s : Storage) : Task → Storage → Option (List Task) → Prop where
  | cacheOpen : s.open? .redis = true → Did c o s (.writeToCache named record) s (some [])
  | cacheWritten : s.open? .redis = false → o.answer = .returned latency → Did c o s (.writeToCache named record)
      (((s.setEntry (c.writeAheadKey named) (some record)).contact .redis).recordSuccess .redis latency) (some [])
  | cacheFailed : s.open? .redis = false → o.Bad → (t = s ∨ t = s.setEntry (c.writeAheadKey named) (some record)) →
      Did c o s (.writeToCache named record) ((t.contact .redis).recordFailure .redis) (some [])
  | postgresOpen : s.open? .postgres = true → Did c o s (.beginPostgres named record) s (some [])
  | postgresBegun : s.open? .postgres = false →
      Did c o s (.beginPostgres named record) (s.contact .postgres) (some [.awaitPostgres named record])
  | postgresReturned : o.answer = .returned latency →
      Did c o s (.awaitPostgres named record) ((s.persist record).recordSuccess .postgres latency)
        (some (if c.writesAhead then [.confirmWriteAhead named record] else []))
  | postgresFailed : o.answer = .failed → Did c o s (.awaitPostgres named record) (s.recordFailure .postgres) (some [])
  | postgresAborted : o.answer = .aborted → Did c o s (.awaitPostgres named record) s none
  | confirmed : (t = s ∨ t = s.setEntry (c.writeAheadKey named) none) → (next = some [] ∨ next = none) →
      Did c o s (.confirmWriteAhead named record) t next
  | buffered : Did c o s (.buffer b record) (bufferedState s b record) (some [])
  | checked : Did c o s .checkAndFlush s
      (some ((if c.s3BatchSize ≤ (s.buffers .s3).length then flushS3Buffer else []) ++
        (if c.snowflakeBatchSize ≤ (s.buffers .snowflake).length then flushSnowflakeBuffer else [])))
  | nothingTaken : s.buffers b = [] → Did c o s (.takeBatch b) s (some [])
  | taken : s.buffers b ≠ [] → Did c o s (.takeBatch b) (s.setBuffer b []) (some [.guardBatch b (s.buffers b)])
  | turnedBack : s.open? b.backend = true ∨ c.configured b = false →
      Did c o s (.guardBatch b batch) s (some [.restore b batch])
  | uploading : s.open? b.backend = false → c.configured b = true →
      Did c o s (.guardBatch b batch) (s.contact b.backend) (some [.upload b batch])
  | uploaded : o.answer = .returned latency → Did c o s (.upload b batch) (uploadedState s b batch latency) (some [])
  | uploadFailed : o.Bad → Did c o s (.upload b batch) (s.recordFailure b.backend) (some [.restore b batch])
  | restored : Did c o s (.restore b batch) (s.setBuffer b (batch ++ s.buffers b)) (some [])
  | checkedUp : o.answer = .returned latency →
      Did c o s (.checkBackend target) (s.setHealth target {s.health target with state := .healthy}) (some [])
  | checkedDown : o.answer = .failed →
      Did c o s (.checkBackend target) (s.setHealth target {s.health target with state := .unavailable}) (some [])
  | checkAborted : o.answer = .aborted → Did c o s (.checkBackend target) s none

theorem exec_did (c : StorageOrchestrator) (task : Task) (o : Outcome) (s : Storage) :
    Did c o s task (c.exec task o s).1 (c.exec task o s).2 := by
  cases task with
  | writeToCache named record =>
    unfold exec
    dsimp only
    cases isOpen : s.open? .redis with
    | true => exact .cacheOpen isOpen
    | false =>
      obtain ⟨answer,took⟩ := o
      cases answer with
      | returned latency => exact .cacheWritten isOpen rfl
      | failed | aborted =>
        cases took with
        | true => exact .cacheFailed isOpen (by intro latency same; cases same) (.inr rfl)
        | false => exact .cacheFailed isOpen (by intro latency same; cases same) (.inl rfl)
  | beginPostgres named record =>
    unfold exec
    dsimp only
    cases isOpen : s.open? .postgres with
    | true => exact .postgresOpen isOpen
    | false => exact .postgresBegun isOpen
  | awaitPostgres named record =>
    obtain ⟨answer,took⟩ := o
    cases answer with
    | returned latency => exact .postgresReturned rfl
    | failed => exact .postgresFailed rfl
    | aborted => exact .postgresAborted rfl
  | confirmWriteAhead named record =>
    obtain ⟨answer,took⟩ := o
    cases answer with
    | returned latency => exact .confirmed (.inr rfl) (.inl rfl)
    | failed =>
      cases took with
      | true => exact .confirmed (.inr rfl) (.inl rfl)
      | false => exact .confirmed (.inl rfl) (.inl rfl)
    | aborted =>
      cases took with
      | true => exact .confirmed (.inr rfl) (.inr rfl)
      | false => exact .confirmed (.inl rfl) (.inr rfl)
  | buffer b record => exact .buffered
  | checkAndFlush => exact .checked
  | takeBatch b =>
    unfold exec
    dsimp only
    cases buffer : s.buffers b with
    | nil => exact .nothingTaken buffer
    | cons first rest =>
      have taken : Did c o s (.takeBatch b) (s.setBuffer b []) (some [.guardBatch b (s.buffers b)]) :=
        .taken (by simp [buffer])
      rw [buffer] at taken
      exact taken
  | guardBatch b batch =>
    unfold exec
    dsimp only
    cases isOpen : s.open? b.backend with
    | true => exact .turnedBack (.inl isOpen)
    | false =>
      cases has : c.configured b with
      | true => exact .uploading isOpen has
      | false => exact .turnedBack (.inr has)
  | upload b batch =>
    obtain ⟨answer,took⟩ := o
    cases answer with
    | returned latency => exact .uploaded rfl
    | failed | aborted => exact .uploadFailed (by intro latency same; cases same)
  | restore b batch => exact .restored
  | checkBackend other =>
    obtain ⟨answer,took⟩ := o
    cases answer with
    | returned latency => exact .checkedUp rfl
    | failed => exact .checkedDown rfl
    | aborted => exact .checkAborted rfl

inductive Starts (c : StorageOrchestrator) : Event → Task → Prop where
  | cache : c.writesAhead = true → Starts c (.storeTransaction record uuid4) (.writeToCache (transactionId record uuid4) record)
  | postgres : c.postgres = true → Starts c (.storeTransaction record uuid4) (.beginPostgres (transactionId record uuid4) record)
  | buffer : Starts c (.storeTransaction record uuid4) (.buffer b record)
  | check : Starts c (.storeTransaction record uuid4) .checkAndFlush
  | take : Starts c e (.takeBatch b)
  | health : c.cache = true → Starts c .checkAllBackends (.checkBackend .redis)
  | healthPostgres : c.postgres = true → Starts c .checkAllBackends (.checkBackend .postgres)

theorem event_starts (c : StorageOrchestrator) (e : Event) (s : Storage) (started : task ∈ (c.event e s).2) :
    Starts c e task := by
  cases e with
  | storeTransaction record uuid4 =>
    simp only [event,storeTransaction,List.mem_append,List.mem_ite_nil_right,List.mem_singleton] at started
    rcases started with (((⟨ahead,rfl⟩ | ⟨has,rfl⟩) | ⟨_,rfl⟩) | ⟨_,rfl⟩) | rfl
    · exact .cache ahead
    · exact .postgres has
    · exact .buffer
    · exact .buffer
    · exact .check
  | flushS3Buffer | flushSnowflakeBuffer =>
    rw [List.mem_singleton.mp started]
    exact .take
  | flushAllBuffers | close =>
    rcases List.mem_cons.mp started with rfl | last
    · exact .take
    · rw [List.mem_singleton.mp last]
      exact .take
  | checkAllBackends =>
    simp only [event,checkAllBackends,List.mem_append,List.mem_ite_nil_right,List.mem_singleton] at started
    rcases started with ⟨has,rfl⟩ | ⟨has,rfl⟩
    · exact .health has
    · exact .healthPostgres has
  | passes elapsed | expires key => cases started

theorem checked_takes (c : StorageOrchestrator) (s : Storage)
    (started : task ∈ (if c.s3BatchSize ≤ (s.buffers .s3).length then flushS3Buffer else []) ++
      (if c.snowflakeBatchSize ≤ (s.buffers .snowflake).length then flushSnowflakeBuffer else [])) :
    ∃ b, task = .takeBatch b := by
  rw [List.mem_append,List.mem_ite_nil_right,List.mem_ite_nil_right,flushS3Buffer,flushSnowflakeBuffer,
    List.mem_singleton,List.mem_singleton] at started
  rcases started with ⟨_,rfl⟩ | ⟨_,rfl⟩
  · exact ⟨.s3,rfl⟩
  · exact ⟨.snowflake,rfl⟩

-- What a task leaves to be done after it.
inductive Follows (c : StorageOrchestrator) (t : Storage) : Task → Task → Prop where
  | begun : Follows c t (.beginPostgres named record) (.awaitPostgres named record)
  | returned : c.writesAhead = true → record ∈ t.persisted →
      Follows c t (.awaitPostgres named record) (.confirmWriteAhead named record)
  | checked : Follows c t .checkAndFlush (.takeBatch b)
  | taken : Follows c t (.takeBatch b) (.guardBatch b batch)
  | turnedBack : Follows c t (.guardBatch b batch) (.restore b batch)
  | uploading : c.configured b = true → Follows c t (.guardBatch b batch) (.upload b batch)
  | uploadFailed : Follows c t (.upload b batch) (.restore b batch)

theorem did_follows (did : Did c o s task t next) (tasks : List Task) (continues : next = some tasks) :
    ∀ later ∈ tasks, Follows c t task later := by
  intro later member
  cases did with
  | cacheOpen | cacheWritten | cacheFailed | postgresOpen | postgresFailed | buffered | nothingTaken | uploaded | restored
  | checkedUp | checkedDown => cases continues; cases member
  | postgresAborted | checkAborted => cases continues
  | postgresBegun =>
    cases continues
    rw [List.mem_singleton.mp member]
    exact .begun
  | postgresReturned =>
    cases continues
    rw [List.mem_ite_nil_right,List.mem_singleton] at member
    obtain ⟨ahead,rfl⟩ := member
    exact .returned ahead (List.mem_append_right _ List.mem_cons_self)
  | confirmed _ ended =>
    rcases ended with rfl | rfl
    · cases continues; cases member
    · cases continues
  | checked =>
    cases continues
    obtain ⟨b,rfl⟩ := checked_takes c s member
    exact .checked
  | taken =>
    cases continues
    rw [List.mem_singleton.mp member]
    exact .taken
  | turnedBack =>
    cases continues
    rw [List.mem_singleton.mp member]
    exact .turnedBack
  | uploading _ has =>
    cases continues
    rw [List.mem_singleton.mp member]
    exact .uploading has
  | uploadFailed =>
    cases continues
    rw [List.mem_singleton.mp member]
    exact .uploadFailed

end StorageOrchestrator
end RiskPulse
