import RiskPulse.KafkaConsumer

namespace RiskPulse
open Runs

def ConsumerPhase.inFlight : ConsumerPhase → List Message
  | .polling messages | .processing messages => messages
  | _ => []

namespace Consumer

def inFlight (s : Consumer) : List Message := s.phase.inFlight

theorem inFlight_phase {s : Consumer} {reached : ConsumerPhase} (here : s.phase = reached) : s.inFlight = reached.inFlight := by rw [inFlight,here]

def Settled (s : Consumer) (place : Partition × Nat) : Prop := place ∈ s.returned ∨ place ∈ s.deadLettered

-- Every message below the committed position of its partition, from the first one
-- of the assignment on, has come back from process_batch or is dead-lettered.
def AtLeastOnce (s : Consumer) : Prop := ∀ p offset, s.first p ≤ offset → offset < s.committed p → s.Settled (p,offset)

end Consumer

namespace TransactionConsumer

-- The condition on a step: a message polled holds a JSON object, and nothing that
-- commits or drops what was polled happens while messages are in flight.
def Careful (c : TransactionConsumer) (topics : Topics) (s : Consumer) : ConsumerAction → Prop
  | .poll (.message p) => c.readable (topics.message p (s.position p)) = true
  | .poll (.raised _) | .interrupt => s.inFlight = []
  | .process (.raised _ dead) => ∀ message ∈ s.inFlight, message.place ∈ dead
  | .revoke _ .failed => True
  | .revoke _ _ => c.enableAutoCommit = false → s.inFlight = []
  | .autoCommit => c.enableAutoCommit = true → s.inFlight = []
  | _ => True

structure Tracked (c : TransactionConsumer) (s : Consumer) : Prop where
  polled : ∀ p offset, s.first p ≤ offset → offset < s.position p →
    s.Settled (p,offset) ∨ ∃ message ∈ s.inFlight, message.place = (p,offset)
  readable : ∀ message ∈ s.inFlight, c.readable message = true
  committed : s.AtLeastOnce

variable (c : TransactionConsumer) (topics : Topics)

theorem start_tracked : c.Tracked .start := by
  constructor
  · intro p offset _ below
    cases below
  · intro message member
    cases member
  · intro p offset _ below
    cases below

-- With nothing in flight all that was polled is settled, so a commit is safe.
theorem commit_tracked (tracked : c.Tracked s) (none : s.inFlight = []) : c.Tracked s.commit := by
  have settled : ∀ p offset, s.first p ≤ offset → offset < s.position p → s.Settled (p,offset) := by
    intro p offset since below
    rcases tracked.polled p offset since below with done | ⟨message,member,_⟩
    · exact done
    · rw [none] at member
      cases member
  constructor
  · exact tracked.polled
  · exact tracked.readable
  · intro p offset since below
    unfold Consumer.commit at since below
    dsimp only at since below
    split at below
    · exact settled p offset since below
    · exact tracked.committed p offset since below

theorem commitOffsets_tracked (outcome : CommitOutcome) (tracked : c.Tracked s)
    (none : c.enableAutoCommit = false → outcome ≠ .failed → s.inFlight = []) :
    c.Tracked (c.commitOffsets outcome s) := by
  unfold commitOffsets
  split
  · exact tracked
  · rename_i manual
    cases outcome with
    | committed => exact commit_tracked c tracked (none (by simpa using manual) (by simp))
    | failed | raised fatal => exact tracked

theorem assign_tracked (p : Partition) (start : Nat) (tracked : c.Tracked s) : c.Tracked (s.assign p start) := by
  constructor
  · intro q offset since below
    unfold Consumer.assign at since below
    dsimp only at since below
    split at below
    · rename_i same
      rw [if_pos same] at since
      omega
    · rename_i different
      rw [if_neg different] at since
      exact tracked.polled q offset since below
  · exact tracked.readable
  · intro q offset since below
    unfold Consumer.assign at since below
    dsimp only at since below
    split at below
    · rename_i same
      rw [if_pos same] at since
      omega
    · rename_i different
      rw [if_neg different] at since
      exact tracked.committed q offset since below

theorem assigns_tracked (starts : List (Partition × Nat)) (tracked : c.Tracked s) :
    c.Tracked (starts.foldl (fun t entry => t.assign entry.1 entry.2) s) := by
  induction starts generalizing s with
  | nil => exact tracked
  | cons entry rest ih => exact ih (assign_tracked c entry.1 entry.2 tracked)

theorem phase_tracked (tracked : c.Tracked s) (phase : ConsumerPhase)
    (kept : phase.inFlight = s.inFlight) : c.Tracked {s with phase := phase} := by
  constructor
  · intro p offset since below
    rw [Consumer.inFlight,kept]
    exact tracked.polled p offset since below
  · rw [Consumer.inFlight,kept]
    exact tracked.readable
  · exact tracked.committed

theorem readable_record (readable : c.readable message = true) : ∃ record, c.deserialize message = .record record := by
  unfold TransactionConsumer.readable at readable
  split at readable
  · exact ⟨_,by assumption⟩
  · cases readable

theorem deserializeMessages_readable (readable : ∀ message ∈ messages, c.readable message = true) :
    ∃ records, c.deserializeMessages messages = some records ∧ records.length = messages.length := by
  induction messages with
  | nil => exact ⟨[],rfl,rfl⟩
  | cons first rest ih =>
    obtain ⟨record,decoded⟩ := c.readable_record (readable first List.mem_cons_self)
    obtain ⟨records,others,same⟩ := ih fun message member => readable message (List.mem_cons_of_mem _ member)
    exact ⟨record :: records,by simp [deserializeMessages,decoded,others],by simp [same]⟩

theorem afterPoll_readable (readable : ∀ message ∈ messages, c.readable message = true) (s : Consumer) :
    c.afterPoll messages s = {s with phase := if messages = [] then .idle else .processing messages} := by
  unfold afterPoll
  cases messages with
  | nil => rfl
  | cons first rest =>
    obtain ⟨records,decoded,same⟩ := c.deserializeMessages_readable readable
    cases records with
    | nil => cases same
    | cons record records => simp [decoded]

theorem afterPoll_tracked (tracked : c.Tracked s) (polling : s.phase = .polling messages) :
    c.Tracked (c.afterPoll messages s) := by
  have flight : s.inFlight = messages := Consumer.inFlight_phase polling
  rw [afterPoll_readable c (by rw [← flight]; exact tracked.readable)]
  apply phase_tracked c tracked
  rw [flight]
  by_cases empty : messages = []
  · simp [empty,ConsumerPhase.inFlight]
  · simp [empty,ConsumerPhase.inFlight]

theorem pollOn_tracked (tracked : c.Tracked {s with phase := .polling messages}) : c.Tracked (c.pollOn messages s) := by
  unfold pollOn
  dsimp only
  split
  · exact tracked
  · exact afterPoll_tracked c tracked rfl

theorem message_tracked (tracked : c.Tracked s) (polling : s.phase = .polling messages) (p : Partition)
    (readable : c.readable (topics.message p (s.position p)) = true) :
    c.Tracked {s with
      phase := .polling (messages ++ [topics.message p (s.position p)])
      position := fun other => if other = p then s.position p + 1 else s.position other} := by
  have flight : s.inFlight = messages := Consumer.inFlight_phase polling
  constructor
  · intro q offset since below
    have before : offset < s.position q → s.Settled (q,offset) ∨
        ∃ message ∈ messages ++ [topics.message p (s.position p)], message.place = (q,offset) := by
      intro earlier
      rcases tracked.polled q offset since earlier with done | ⟨message,member,place⟩
      · exact .inl done
      · rw [flight] at member
        exact .inr ⟨message,List.mem_append_left _ member,place⟩
    dsimp only at below
    split at below
    · rename_i same
      subst same
      by_cases last : offset = s.position q
      · subst last
        exact .inr ⟨_,List.mem_append_right _ List.mem_cons_self,rfl⟩
      · exact before (by omega)
    · exact before below
  · intro message member
    rcases List.mem_append.mp member with old | new
    · exact tracked.readable message (by rw [flight]; exact old)
    · rw [List.mem_singleton.mp new]
      exact readable
  · exact tracked.committed

theorem pollStep_tracked (tracked : c.Tracked s) (polling : s.phase = .polling messages) (result : Polled)
    (careful : c.Careful topics s (.poll result)) : c.Tracked (c.pollStep topics messages s result) := by
  cases result with
  | message p =>
    unfold pollStep
    dsimp only
    split
    · exact pollOn_tracked c (message_tracked c topics tracked polling p careful)
    · exact tracked
  | nothing => exact afterPoll_tracked c tracked polling
  | passedOver => exact tracked
  | raised fatal =>
    apply phase_tracked c tracked
    rw [show s.inFlight = [] from careful]
    cases fatal <;> rfl

theorem settle_tracked (tracked : c.Tracked s) (returned dead : List (Partition × Nat)) (phase : ConsumerPhase)
    (none : phase.inFlight = [])
    (settled : ∀ message ∈ s.inFlight, message.place ∈ returned ∨ message.place ∈ dead) :
    c.Tracked {s with phase := phase, returned := s.returned ++ returned, deadLettered := s.deadLettered ++ dead} := by
  have grows : ∀ place, s.Settled place →
      place ∈ s.returned ++ returned ∨ place ∈ s.deadLettered ++ dead := by
    intro place done
    rcases done with came | filed
    · exact .inl (List.mem_append_left _ came)
    · exact .inr (List.mem_append_left _ filed)
  constructor
  · intro p offset since below
    left
    rcases tracked.polled p offset since below with done | ⟨message,member,place⟩
    · exact grows _ done
    · rw [← place]
      rcases settled message member with came | filed
      · exact .inl (List.mem_append_right _ came)
      · exact .inr (List.mem_append_right _ filed)
  · intro message member
    rw [Consumer.inFlight,none] at member
    cases member
  · intro p offset since below
    exact grows _ (tracked.committed p offset since below)

theorem batchPlaces_readable (readable : ∀ message ∈ messages, c.readable message = true) (member : message ∈ messages) :
    message.place ∈ c.batchPlaces messages :=
  List.mem_map.mpr ⟨message,List.mem_filter.mpr ⟨member,readable message member⟩,rfl⟩

theorem process_tracked (tracked : c.Tracked s) (processing : s.phase = .processing messages) (outcome : BatchOutcome)
    (careful : c.Careful topics s (.process outcome)) : c.Tracked (c.step topics s (.process outcome)) := by
  have flight : s.inFlight = messages := Consumer.inFlight_phase processing
  have places : ∀ message ∈ s.inFlight, message.place ∈ c.batchPlaces messages := by
    intro message member
    apply batchPlaces_readable c
    · rw [← flight]
      exact tracked.readable
    · rw [← flight]
      exact member
  unfold step
  dsimp only
  rw [processing]
  cases outcome with
  | returned =>
    have settled := settle_tracked c tracked (c.batchPlaces messages) [] .processed rfl
      fun message member => .inl (places message member)
    rw [List.append_nil] at settled
    exact settled
  | raised fatal dead =>
    have settled := settle_tracked c tracked [] ((c.batchPlaces messages).filter fun place => place ∈ dead)
      (if fatal then .closing else .idle) (by cases fatal <;> rfl)
      fun message member => .inr (List.mem_filter.mpr ⟨places message member,by simpa using careful message member⟩)
    rw [List.append_nil] at settled
    exact settled

theorem escape_tracked (tracked : c.Tracked s) (none : s.inFlight = []) (fatal : Bool) : c.Tracked (s.escape fatal) := by
  apply phase_tracked c tracked
  rw [none]
  cases fatal <;> rfl

theorem revoke_tracked (tracked : c.Tracked s) (partitions : List Partition) : c.Tracked (s.revoke partitions) :=
  ⟨tracked.polled,tracked.readable,tracked.committed⟩

theorem commitOffsets_inFlight (outcome : CommitOutcome) (s : Consumer) :
    (c.commitOffsets outcome s).inFlight = s.inFlight := by
  unfold commitOffsets
  split
  · rfl
  · cases outcome <;> rfl

theorem onRevoke_inFlight (partitions : List Partition) (outcome : CommitOutcome) (none : s.inFlight = []) :
    (c.onRevoke partitions outcome s).inFlight = [] := by
  have revoked : ((c.commitOffsets outcome s).revoke partitions).inFlight = [] :=
    (commitOffsets_inFlight c outcome s).trans none
  unfold onRevoke
  dsimp only
  split
  · rename_i fatal
    split
    · exact revoked
    · cases fatal <;> rfl
  · exact revoked

theorem committed_tracked (tracked : c.Tracked s) (none : s.inFlight = []) (outcome : CommitOutcome)
    (phase : ConsumerPhase) (quiet : phase.inFlight = []) : c.Tracked {c.commitOffsets outcome s with phase := phase} := by
  apply phase_tracked c (commitOffsets_tracked c outcome tracked fun _ _ => none)
  rw [quiet,commitOffsets_inFlight,none]

theorem onRevoke_tracked (tracked : c.Tracked s) (partitions : List Partition) (outcome : CommitOutcome)
    (none : c.enableAutoCommit = false → outcome ≠ .failed → s.inFlight = []) :
    c.Tracked (c.onRevoke partitions outcome s) := by
  have revoked := revoke_tracked c (commitOffsets_tracked c outcome tracked none) partitions
  have phase : ((c.commitOffsets outcome s).revoke partitions).inFlight = s.inFlight :=
    commitOffsets_inFlight c outcome s
  unfold onRevoke
  dsimp only
  split
  · split
    · exact revoked
    · rename_i fatal manual
      apply escape_tracked c revoked
      rw [phase]
      exact none (by simpa using manual) (by simp)
  · exact revoked

theorem step_tracked (tracked : c.Tracked s) (action : ConsumerAction) (careful : c.Careful topics s action) :
    c.Tracked (c.step topics s action) := by
  cases action with
  | stop => exact ⟨tracked.polled,tracked.readable,tracked.committed⟩
  | enter =>
    unfold step
    dsimp only
    split
    · rename_i idle
      have none : s.inFlight = [] := Consumer.inFlight_phase idle
      split
      · exact phase_tracked c tracked _ none.symm
      · exact pollOn_tracked c (phase_tracked c tracked _ none.symm)
    · exact tracked
  | assign starts =>
    unfold step
    dsimp only
    split
    · exact assigns_tracked c starts tracked
    · exact tracked
  | revoke partitions outcome =>
    have none : c.enableAutoCommit = false → outcome ≠ .failed → s.inFlight = [] := by
      intro manual effective
      cases outcome with
      | failed => exact absurd rfl effective
      | committed | raised fatal => exact careful manual
    unfold step
    dsimp only
    split
    · exact onRevoke_tracked c tracked partitions outcome none
    · rename_i leaving
      have quiet : s.inFlight = [] := Consumer.inFlight_phase leaving
      apply phase_tracked c (onRevoke_tracked c tracked partitions outcome none)
      rw [onRevoke_inFlight c partitions outcome quiet]
      split <;> rfl
    · exact tracked
  | poll result =>
    unfold step
    dsimp only
    split
    · rename_i messages polling
      exact pollStep_tracked c topics tracked polling result careful
    · exact tracked
  | process outcome =>
    by_cases processing : ∃ messages, s.phase = .processing messages
    · obtain ⟨messages,phase⟩ := processing
      exact process_tracked c topics tracked phase outcome careful
    · unfold step
      dsimp only
      split
      · exact absurd ⟨_,by assumption⟩ processing
      · exact tracked
  | commit outcome =>
    unfold step
    dsimp only
    split
    · rename_i processed
      have none : s.inFlight = [] := Consumer.inFlight_phase processed
      split
      · exact escape_tracked c tracked none _
      · exact committed_tracked c tracked none outcome .idle rfl
    · rename_i closing
      have none : s.inFlight = [] := Consumer.inFlight_phase closing
      split
      · exact phase_tracked c tracked _ none.symm
      · exact committed_tracked c tracked none outcome .leaving rfl
    · exact tracked
  | autoCommit =>
    unfold step
    dsimp only
    split
    · exact tracked
    · split
      · exact commit_tracked c tracked (careful (by assumption))
      · exact tracked
  | interrupt =>
    unfold step
    dsimp only
    have none : s.inFlight = [] := careful
    split <;> exact phase_tracked c tracked _ none.symm
  | leave =>
    unfold step
    dsimp only
    split
    · rename_i leaving
      exact phase_tracked c tracked _ (Consumer.inFlight_phase leaving).symm
    · exact tracked

-- In every run of careful steps, whatever is committed is settled at that time.
theorem careful_at_least_once (actions : List ConsumerAction)
    (careful : Along (c.step topics) (c.Careful topics) .start actions) :
    Along (c.step topics) (fun s action => (c.step topics s action).AtLeastOnce) .start actions :=
  along_gives (fun _ action tracked careful => step_tracked c topics tracked action careful)
    (fun _ action tracked careful => (step_tracked c topics tracked action careful).committed) (start_tracked c) careful

section Runs

def worker : TransactionConsumer := ⟨1000,false,1000,fun _ => .nan⟩

def rawEvents : Partition := ⟨"txn.raw.events",0⟩

-- One batch of two messages, from the assignment of the partition to the commit.
def uncommitted : List ConsumerAction :=
  [.enter,.assign [(rawEvents,0)],.poll (.message rawEvents),.poll (.message rawEvents),.poll .nothing,.process .returned]

def objects : Topics := fun _ _ => (.bytes [123,125],none)

theorem objects_at_least_once :
    Along (worker.step objects) (fun s action => (worker.step objects s action).AtLeastOnce) 
      .start (uncommitted ++ [.commit .committed]) := by
  apply careful_at_least_once
  have first : worker.readable (objects.message rawEvents 0) = true := by decide +kernel
  have second : worker.readable (objects.message rawEvents 1) = true := by decide +kernel
  exact ⟨trivial,trivial,first,second,trivial,trivial,trivial,trivial⟩

-- Offset 0 holds a brace that is never closed.
def malformedFirst : Topics := fun _ offset => if offset = 0 then (.bytes [123],none) else (.bytes [123,125],none)

-- The commit after the batch of the second message covers the first, which was
-- only logged.
theorem malformed_message_lost :
    ¬Along (worker.step malformedFirst) (fun s action => (worker.step malformedFirst s action).AtLeastOnce) .start
      (uncommitted ++ [.commit .committed]) := by
  intro along
  have once := along_at along
  have settled := once rawEvents 0 (by decide +kernel) (by decide +kernel)
  rcases settled with returned | filed
  · exact absurd returned (by decide +kernel)
  · exact absurd filed (by decide +kernel)

end Runs

end TransactionConsumer
end RiskPulse
