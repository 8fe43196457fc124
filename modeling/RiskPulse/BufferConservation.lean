import Mathlib.Algebra.Order.Group.Multiset
import RiskPulse.StorageSteps

namespace RiskPulse.StorageOrchestrator
open Interleaved Runs

inductive Holds (b : BatchBackend) (batch : List Record) : Task → Prop where
  | guarding : Holds b batch (.guardBatch b batch)
  | uploading : Holds b batch (.upload b batch)
  | restoring : Holds b batch (.restore b batch)

def held (b : BatchBackend) : Task → Multiset Record
  | .guardBatch other batch | .upload other batch | .restore other batch => if other = b then batch else 0
  | _ => 0

-- For each backend by itself: what was ever buffered is in the buffer, held by a
-- flush in progress, or in a batch whose upload returned.
def Conserved (p : StoragePool) : Prop :=
  ∀ b, p.shared.buffered b = ↑(p.shared.buffers b) + weight (held b) p + p.shared.uploaded b

-- The tasks of a call that wait behind another one hold no batch.
def Light (task : Task) : Prop := ∀ b, held b task = 0

-- What one task does to the books of a backend: what it and the state had before
-- goes to what the state and the tasks it leaves have then.
def Balanced (b : BatchBackend) (s : Storage) (task : Task) (t : Storage) (tasks : List Task) : Prop :=
  t.buffered b + (↑(s.buffers b) + held b task + s.uploaded b) =
    s.buffered b + (↑(t.buffers b) + (tasks.map (held b)).sum + t.uploaded b)

theorem balanced_same {s t : Storage} (b : BatchBackend) (buffered : t.buffered = s.buffered)
    (buffers : t.buffers = s.buffers) (uploaded : t.uploaded = s.uploaded)
    (carried : (tasks.map (held b)).sum = held b task) : Balanced b s task t tasks := by
  unfold Balanced
  rw [buffered,buffers,uploaded,carried]

theorem balanced_one {s t : Storage} {later : Task} (b : BatchBackend) (buffered : t.buffered = s.buffered)
    (buffers : t.buffers = s.buffers) (uploaded : t.uploaded = s.uploaded) (carried : held b later = held b task) :
    Balanced b s task t [later] :=
  balanced_same b buffered buffers uploaded (by simp [carried])

theorem buffered_balanced (s : Storage) (other b : BatchBackend) (record : Record) :
    Balanced b s (.buffer other record) (bufferedState s other record) [] := by
  unfold Balanced bufferedState Storage.setBuffer
  by_cases same : b = other
  · subst same
    simp only [if_true,held,← Multiset.coe_add,Multiset.coe_singleton,List.map_nil,List.sum_nil]
    abel
  · simp only [if_neg same,held,List.map_nil,List.sum_nil]

theorem taken_balanced (s : Storage) (other b : BatchBackend) :
    Balanced b s (.takeBatch other) (s.setBuffer other []) [.guardBatch other (s.buffers other)] := by
  unfold Balanced Storage.setBuffer
  by_cases same : b = other
  · subst same
    simp only [if_true,held,List.map_cons,List.map_nil,List.sum_cons,List.sum_nil,Multiset.coe_nil]
    abel
  · have different : ¬other = b := fun equal => same equal.symm
    simp only [if_neg same,held,if_neg different,List.map_cons,List.map_nil,List.sum_cons,List.sum_nil,add_zero]

theorem uploaded_balanced (s : Storage) (other b : BatchBackend) (batch : List Record) (latency : Rat) :
    Balanced b s (.upload other batch) (uploadedState s other batch latency) [] := by
  unfold Balanced uploadedState Storage.recordSuccess Storage.setHealth
  by_cases same : b = other
  · subst same
    simp only [if_true,held,List.map_nil,List.sum_nil]
    abel
  · have different : ¬other = b := fun equal => same equal.symm
    simp only [if_neg same,held,if_neg different,List.map_nil,List.sum_nil]

theorem restored_balanced (s : Storage) (other b : BatchBackend) (batch : List Record) :
    Balanced b s (.restore other batch) (s.setBuffer other (batch ++ s.buffers other)) [] := by
  unfold Balanced Storage.setBuffer
  by_cases same : b = other
  · subst same
    simp only [if_true,held,← Multiset.coe_add,List.map_nil,List.sum_nil]
    abel
  · have different : ¬other = b := fun equal => same equal.symm
    simp only [if_neg same,held,if_neg different,List.map_nil,List.sum_nil]

-- A task that goes on balances the books of both backends, and of the tasks it
-- leaves only the first may hold a batch. One that ends its call by an exception
-- held nothing and touches no book.
theorem did_balanced (did : Did c o s task t next) :
    (∃ tasks, next = some tasks ∧ (∀ later ∈ tasks.tail, Light later) ∧ ∀ b, Balanced b s task t tasks) ∨
      (next = none ∧ Light task ∧ t.buffered = s.buffered ∧ t.buffers = s.buffers ∧ t.uploaded = s.uploaded) := by
  cases did with
  | cacheOpen | cacheWritten | postgresOpen | postgresFailed | nothingTaken | checkedUp | checkedDown =>
    exact .inl ⟨[],rfl,by simp,fun b => balanced_same b rfl rfl rfl rfl⟩
  | cacheFailed _ _ either =>
    rcases either with rfl | rfl
    · exact .inl ⟨[],rfl,by simp,fun b => balanced_same b rfl rfl rfl rfl⟩
    · exact .inl ⟨[],rfl,by simp,fun b => balanced_same b rfl rfl rfl rfl⟩
  | postgresBegun | turnedBack | uploading | uploadFailed =>
    exact .inl ⟨_,rfl,by simp,fun b => balanced_one b rfl rfl rfl rfl⟩
  | postgresReturned =>
    refine .inl ⟨_,rfl,?_,fun b => balanced_same b rfl rfl rfl ?_⟩
    · cases c.writesAhead <;> simp
    · cases c.writesAhead <;> simp [held]
  | confirmed state ended =>
    have same : t.buffered = s.buffered ∧ t.buffers = s.buffers ∧ t.uploaded = s.uploaded := by
      rcases state with rfl | rfl
      · exact ⟨rfl,rfl,rfl⟩
      · exact ⟨rfl,rfl,rfl⟩
    rcases ended with rfl | rfl
    · exact .inl ⟨[],rfl,by simp,fun b => balanced_same b same.1 same.2.1 same.2.2 rfl⟩
    · exact .inr ⟨rfl,fun _ => rfl,same⟩
  | postgresAborted | checkAborted => exact .inr ⟨rfl,fun _ => rfl,rfl,rfl,rfl⟩
  | buffered => exact .inl ⟨[],rfl,by simp,fun b => buffered_balanced s _ b _⟩
  | checked =>
    refine .inl ⟨_,rfl,?_,fun b => balanced_same b rfl rfl rfl ?_⟩
    · intro later member
      obtain ⟨b,rfl⟩ := checked_takes c s (List.mem_of_mem_tail member)
      exact fun _ => rfl
    · split <;> split <;> rfl
  | taken => exact .inl ⟨_,rfl,by simp,fun b => taken_balanced s _ b⟩
  | uploaded => exact .inl ⟨[],rfl,by simp,fun b => uploaded_balanced s _ b _ _⟩
  | restored => exact .inl ⟨[],rfl,by simp,fun b => restored_balanced s _ b _⟩

theorem event_light (c : StorageOrchestrator) (s : Storage) (e : Event) : ∀ task ∈ (c.event e s).2, Light task := by
  intro task started
  cases event_starts c e s started <;> exact fun _ => rfl

theorem event_books (c : StorageOrchestrator) (s : Storage) (e : Event) : (c.event e s).1.buffered = s.buffered ∧
    (c.event e s).1.buffers = s.buffers ∧ (c.event e s).1.uploaded = s.uploaded := by
  cases e <;> exact ⟨rfl,rfl,rfl⟩

theorem light_sum {tasks : List Task} (light : ∀ task ∈ tasks, Light task) (b : BatchBackend) :
    (tasks.map (held b)).sum = 0 := by
  induction tasks with
  | nil => rfl
  | cons task rest ih =>
    have first := light task List.mem_cons_self b
    have others := ih fun other member => light other (List.mem_cons_of_mem _ member)
    rw [List.map_cons,List.sum_cons,first,others,add_zero]

-- The arithmetic of one step: the books balance before it, the task moves them
-- evenly, and the tasks to run weigh accordingly.
theorem books_move {buffered buffered' buffer buffer' weight weight' uploaded uploaded' held tasks : Multiset Record}
    (balance : buffered = buffer + weight + uploaded)
    (moved : buffered' + (buffer + held + uploaded) = buffered + (buffer' + tasks + uploaded'))
    (weighed : weight' + held = weight + tasks) : buffered' = buffer' + weight' + uploaded' := by
  refine add_right_cancel (b:=buffer + held + uploaded) ?_
  calc buffered' + (buffer + held + uploaded) = buffered + (buffer' + tasks + uploaded') := moved
    _ = (weight + tasks) + (buffer + uploaded + buffer' + uploaded') := by rw [balance]; abel
    _ = (weight' + held) + (buffer + uploaded + buffer' + uploaded') := by rw [weighed]
    _ = buffer' + weight' + uploaded' + (buffer + held + uploaded) := by abel

structure Books (p : StoragePool) : Prop where
  conserved : Conserved p
  waiting : AllTails Light p

theorem step_books (c : StorageOrchestrator) (p : StoragePool) (action : StorageAction) (books : Books p) :
    Books (c.system.step p action) := by
  rcases c.system.step_cases p action with ⟨e,rfl,stepped⟩ | ⟨n,o,task,rest,before,after,rfl,found,split,stepped⟩ |
    ⟨same,_⟩
  · obtain ⟨buffered,buffers,uploaded⟩ := event_books c p.shared e
    have light := event_light c p.shared e
    rw [stepped]
    refine ⟨fun b => ?_,allTails_outside books.waiting fun task member => light task (List.mem_of_mem_tail member)⟩
    have balance := books.conserved b
    rw [weight_outside]
    have nothing : (((c.system.event e p.shared).2).map (held b)).sum = 0 := light_sum light b
    have shared : c.system.event e p.shared = c.event e p.shared := rfl
    rw [nothing,add_zero,shared,buffered,buffers,uploaded]
    exact balance
  · rw [stepped]
    have ran : c.system.exec task o p.shared = c.exec task o p.shared := rfl
    rw [ran]
    rcases did_balanced (exec_did c task o p.shared) with ⟨tasks,next,light,balanced⟩ |
      ⟨ended,nothing,buffered,buffers,uploaded⟩
    · refine ⟨fun b => ?_,allTails_run books.waiting split fun others same => ?_⟩
      · have moved := balanced b
        have weighed := weight_run (held b) p (c.exec task o p.shared).1 split tasks
        rw [next]
        exact books_move (books.conserved b) moved weighed
      · rw [next] at same
        cases same
        exact light
    · refine ⟨fun b => ?_,allTails_run books.waiting split fun others same => ?_⟩
      · have behind : ((rest.map (held b)).sum : Multiset Record) = 0 :=
          light_sum (fun later member => books.waiting (task :: rest) (by rw [split]; simp) later member) b
        have weighed := weight_end (held b) p (c.exec task o p.shared).1 split
        rw [nothing b,behind,add_zero,add_zero] at weighed
        have balance := books.conserved b
        rw [ended]
        dsimp only
        rw [buffered,buffers,uploaded,weighed]
        exact balance
      · rw [ended] at same
        cases same
  · rw [same]
    exact books

-- What a task does with the batch of a backend: a flush takes the whole buffer,
-- and hands the batch on unchanged until the upload returns or the batch is put
-- back in front of what is in the buffer by then.
def InOrder (b : BatchBackend) (task : Task) (s t : Storage) (next : Option (List Task)) : Prop :=
  (task = .takeBatch b → t.buffers b = [] ∧ (s.buffers b = [] ∨ next = some [.guardBatch b (s.buffers b)])) ∧
  ∀ batch, Holds b batch task →
    (∃ later, next = some [later] ∧ Holds b batch later ∧ t.buffers = s.buffers ∧ t.uploaded = s.uploaded) ∨
    (next = some [] ∧ t.buffers = s.buffers ∧ t.uploaded b = s.uploaded b + batch) ∨
    (next = some [] ∧ t.buffers b = batch ++ s.buffers b ∧ t.uploaded = s.uploaded)

theorem did_inOrder (did : Did c o s task t next) (b : BatchBackend) : InOrder b task s t next := by
  constructor
  · rintro rfl
    cases did with
    | nothingTaken empty => exact ⟨empty,.inl empty⟩
    | taken => exact ⟨by simp [Storage.setBuffer],.inr rfl⟩
  · intro batch holds
    cases holds with
    | guarding =>
      cases did with
      | turnedBack => exact .inl ⟨_,rfl,.restoring,rfl,rfl⟩
      | uploading => exact .inl ⟨_,rfl,.uploading,rfl,rfl⟩
    | uploading =>
      cases did with
      | uploaded => exact .inr (.inl ⟨rfl,rfl,by simp [uploadedState]⟩)
      | uploadFailed => exact .inl ⟨_,rfl,.restoring,rfl,rfl⟩
    | restoring =>
      cases did with
      | restored => exact .inr (.inr ⟨rfl,by simp [Storage.setBuffer],rfl⟩)

theorem run_books (c : StorageOrchestrator) (health : StorageBackend → BackendHealth) (actions : List StorageAction) :
    Books (run c.system.step ⟨{Storage.start with health := health},[]⟩ actions) := by
  refine run_keeps c.system.step (step_books c) ⟨fun b => rfl,?_⟩ actions
  intro call member
  cases member

def Flushing (b : BatchBackend) (batch : List Record) (n : Nat) (rest : List Task) (p : StoragePool) : Prop :=
  ∃ task, Holds b batch task ∧ p.calls[n]? = some (task :: rest)

-- A step ends the flush: the upload of the batch returned, or the batch is back in
-- the buffer, in its order and ahead of all that is there.
def Settles (b : BatchBackend) (batch : List Record) (p q : StoragePool) : Prop :=
  (q.shared.uploaded b = p.shared.uploaded b + batch ∧ q.shared.buffers b = p.shared.buffers b) ∨
    (q.shared.buffers b = batch ++ p.shared.buffers b ∧ q.shared.uploaded b = p.shared.uploaded b)

theorem step_flushing (c : StorageOrchestrator) (p : StoragePool) (action : StorageAction)
    (flushing : Flushing b batch n rest p) :
    Flushing b batch n rest (c.system.step p action) ∨ Settles b batch p (c.system.step p action) := by
  obtain ⟨task,holds,found⟩ := flushing
  by_cases own : ∃ o, action = .run n o
  · obtain ⟨o,rfl⟩ := own
    obtain ⟨shared,calls⟩ := c.system.step_own p n o found
    have ran : c.system.exec task o p.shared = c.exec task o p.shared := rfl
    rw [ran] at shared calls
    rcases (did_inOrder (exec_did c task o p.shared) b).2 batch holds with ⟨later,next,same,_,_⟩ | ⟨_,buffers,uploaded⟩ |
      ⟨_,buffers,uploaded⟩
    · rw [next] at calls
      exact .inl ⟨later,same,calls⟩
    · exact .inr (.inl (by rw [shared]; exact ⟨uploaded,by rw [buffers]⟩))
    · exact .inr (.inr (by rw [shared]; exact ⟨buffers,by rw [uploaded]⟩))
  · exact .inl ⟨task,holds,c.system.step_other p action n (fun o same => own ⟨o,same⟩) found⟩

theorem run_flushing (c : StorageOrchestrator) (actions : List StorageAction) (p : StoragePool)
    (flushing : Flushing b batch n rest p) :
    Flushing b batch n rest (run c.system.step p actions) ∨
      ∃ first action later, actions = first ++ action :: later ∧
        Settles b batch (run c.system.step p first) (run c.system.step p (first ++ [action])) := by
  induction actions generalizing p with
  | nil => exact .inl flushing
  | cons action others ih =>
    rcases step_flushing c p action flushing with still | settled
    · rcases ih _ still with last | ⟨first,next,later,rfl,ends⟩
      · exact .inl last
      · exact .inr ⟨action :: first,next,later,rfl,ends⟩
    · exact .inr ⟨[],action,others,rfl,settled⟩

theorem take_flushing (c : StorageOrchestrator) (p : StoragePool) (o : Outcome)
    (found : p.calls[n]? = some (.takeBatch b :: rest)) (some : p.shared.buffers b ≠ []) :
    Flushing b (p.shared.buffers b) n rest (c.system.step p (.run n o)) ∧
      (c.system.step p (.run n o)).shared.buffers b = [] := by
  obtain ⟨shared,calls⟩ := c.system.step_own p n o found
  have ran : c.system.exec (.takeBatch b) o p.shared = c.exec (.takeBatch b) o p.shared := rfl
  rw [ran] at shared calls
  obtain ⟨empty,next⟩ := (did_inOrder (exec_did c (.takeBatch b) o p.shared) b).1 rfl
  rw [next.resolve_left some] at calls
  exact ⟨⟨_,.guarding,calls⟩,by rw [shared]; exact empty⟩

-- From every health state and along every order of steps of any number of calls:
-- the books of each backend balance. And a flush that takes a buffer holds all of
-- it until its upload returns or the whole of it is put back in front.
theorem buffer_conservation (c : StorageOrchestrator) (health : StorageBackend → BackendHealth)
    (actions : List StorageAction) :
    Conserved (run c.system.step ⟨{Storage.start with health := health},[]⟩ actions) ∧
      ∀ earlier n o later, actions = earlier ++ .run n o :: later → ∀ b rest,
        (run c.system.step ⟨{Storage.start with health := health},[]⟩ earlier).calls[n]? = some (.takeBatch b :: rest) →
        ∀ batch, (run c.system.step ⟨{Storage.start with health := health},[]⟩ earlier).shared.buffers b = batch →
          batch ≠ [] →
          Flushing b batch n rest (run c.system.step ⟨{Storage.start with health := health},[]⟩ actions) ∨
            ∃ first action last, later = first ++ action :: last ∧
              Settles b batch
                (run c.system.step ⟨{Storage.start with health := health},[]⟩ (earlier ++ .run n o :: first))
                (run c.system.step ⟨{Storage.start with health := health},[]⟩ (earlier ++ .run n o :: first ++ [action])) := by
  refine ⟨(run_books c health actions).conserved,?_⟩
  rintro earlier n o later rfl b rest found batch rfl some
  obtain ⟨taken,_⟩ := take_flushing c _ o found some
  rcases run_flushing c later _ taken with still | ⟨first,action,last,rfl,settled⟩
  · refine .inl ?_
    rw [run_append]
    exact still
  · refine .inr ⟨first,action,last,rfl,?_⟩
    have unfolded : ∀ others : List StorageAction,
        run c.system.step ⟨{Storage.start with health := health},[]⟩ (earlier ++ .run n o :: others) =
          run c.system.step (c.system.step (run c.system.step ⟨{Storage.start with health := health},[]⟩ earlier) (.run n o))
            others := fun others => run_append c.system.step _ earlier (.run n o :: others)
    rw [List.append_assoc,List.cons_append,unfolded first,unfolded (first ++ [action])]
    exact settled

end RiskPulse.StorageOrchestrator
