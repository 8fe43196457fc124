import Mathlib.Tactic.Linarith
import RiskPulse.QuarantineHandler

namespace RiskPulse
open Interleaved Runs

namespace QuarantineState

def active (entry : QuarantinedRecord) : Bool := decide (entry.status = .quarantined)

def balance (s : QuarantineState) : Int := s.metrics.activeQuarantined - s.count

theorem find_put (s : QuarantineState) (id : String) (entry : QuarantinedRecord) (other : String) :
    find {s with store := s.store.set id entry} other = if other = id then some entry else s.find other := by
  simp only [find,OrderedDict.get?_set]
  split <;> rfl

theorem find_write (s : QuarantineState) (id : String) (entry : QuarantinedRecord) (other : String) :
    (s.write id entry).find other = if other = id then some entry else s.find other := by
  unfold write
  split
  · exact find_put s id entry other
  · rename_i absent
    simp only [find,OrderedDict.get?_set]
    by_cases same : other = id
    · subst same
      rw [(OrderedDict.get?_eq_none _ _).mpr absent,if_pos rfl,if_pos rfl]
      rfl
    · rw [if_neg same,if_neg same]

-- A stored record that is replaced by another one.
theorem count_put (s : QuarantineState) (id : String) (found : s.store.get? id = some old) (entry : QuarantinedRecord) :
    count {s with store := s.store.set id entry} + (if active old then 1 else 0) = s.count + if active entry then 1 else 0 :=
  OrderedDict.count_set active s.store found entry

theorem write_stored (s : QuarantineState) (id : String) (found : s.store.get? id = some old) (entry : QuarantinedRecord) :
    s.write id entry = {s with store := s.store.set id entry} :=
  if_pos ((OrderedDict.mem_keys _ _).mpr ⟨old,found⟩)

end QuarantineState

namespace QuarantineHandler
open QuarantineState
variable (q : QuarantineHandler)

-- What a task still to run will add to the active records of the metrics.
def pending : QuarantineTask → Int
  | .recordQuarantine _ => 1
  | .recordDiscard => -1
  | .candidate _ => 0

-- A candidate's record is quarantined and has a retry left when its turn comes.
def Eligible (p : Pool QuarantineState QuarantineTask) : Action Verdict QuarantineCall → Prop
  | .outside _ => True
  | .run n _ => ∀ id rest entry, p.calls[n]? = some (.candidate id :: rest) → p.shared.find id = some entry →
      q.eligible entry = true

-- Once no call is in progress the metrics count the quarantined records, no record was
-- tried more often than allowed, and one that was reprocessed or discarded is as it was.
def Accounted (p : Pool QuarantineState QuarantineTask) (action : Action Verdict QuarantineCall) : Prop :=
  let next := step q.system p action
  (waiting next = [] → next.shared.metrics.activeQuarantined = next.shared.count) ∧
    (∀ id entry, next.shared.find id = some entry → entry.retryCount ≤ q.maxRetryAttempts) ∧
    ∀ id entry, p.shared.find id = some entry → entry.status ≠ .quarantined → next.shared.find id = some entry

-- The ids are drawn ones, what was purged is settled, and the retries are bounded.
structure Sound (s : QuarantineState) : Prop where
  issued : ∀ id entry, s.find id = some entry → ∃ n < s.issued, q.uuid4 n = id
  settled : ∀ id entry, s.purged.get? id = some entry → entry.status ≠ .quarantined
  bounded : ∀ id entry, s.find id = some entry → entry.retryCount ≤ q.maxRetryAttempts

-- Only the first task of a call can be one that the metrics wait for.
structure Tracked (p : Pool QuarantineState QuarantineTask) : Prop where
  sound : Sound q p.shared
  tails : AllTails (fun task : QuarantineTask => ∃ id, task = .candidate id) p
  balanced : p.shared.balance + weight pending p = 0

def start : Pool QuarantineState QuarantineTask := ⟨.start,[]⟩

theorem start_tracked : Tracked q start where
  sound := ⟨fun _ _ found => (by cases found),fun _ _ found => (by cases found),fun _ _ found => (by cases found)⟩
  tails _ member := by cases member
  balanced := rfl

-- A purge moves records out of the store and changes none.
theorem purge_find (cutoff : String) (s : QuarantineState) : (q.begin (.purgeExpired cutoff) s).1.find = s.find := by
  funext other
  have unique : ((expired cutoff s).map Prod.fst).Nodup := s.store.unique.sublist (List.filter_sublist.map Prod.fst)
  change ((((expired cutoff s).map Prod.fst).foldl OrderedDict.erase s.store).get? other).or
    (((expired cutoff s).foldl (fun built entry => built.set entry.1 entry.2) s.purged).get? other) = _
  rw [OrderedDict.get?_foldl_erase,OrderedDict.get?_foldl_set _ unique]
  by_cases gone : other ∈ (expired cutoff s).map Prod.fst
  · obtain ⟨⟨id,entry⟩,member,rfl⟩ := List.mem_map.mp gone
    have moved : OrderedDict.lookupEntry id (expired cutoff s) = some entry :=
      (OrderedDict.get?_entry ⟨expired cutoff s,unique⟩ id entry).mp member
    have stored : s.store.get? id = some entry := (OrderedDict.get?_entry _ _ _).mp (List.mem_of_mem_filter member)
    rw [if_pos gone,moved,find,stored]
    rfl
  · have absent : OrderedDict.lookupEntry other (expired cutoff s) = none :=
      (OrderedDict.get?_eq_none ⟨expired cutoff s,unique⟩ other).mpr gone
    rw [if_neg gone,absent]
    rfl

-- A record that is written under a drawn id.
theorem Sound.written {id : String} {next : QuarantineState} (sound : Sound q s)
    (reads : ∀ other, next.find other = if other = id then some entry else s.find other) (drawn : ∃ n < next.issued, q.uuid4 n = id)
    (later : s.issued ≤ next.issued) (purged : next.purged = s.purged) (bounded : entry.retryCount ≤ q.maxRetryAttempts) :
    Sound q next := by
  refine ⟨?_,?_,?_⟩
  · intro other old found
    rw [reads] at found
    split at found
    · rename_i same
      rw [same]
      exact drawn
    · obtain ⟨n,earlier,same⟩ := sound.issued other old found
      exact ⟨n,earlier.trans_le later,same⟩
  · intro other old found
    rw [purged] at found
    exact sound.settled other old found
  · intro other old found
    rw [reads] at found
    split at found
    · cases found
      exact bounded
    · exact sound.bounded other old found

theorem settled_kept {id : String} {s next : QuarantineState} (reads : ∀ other, next.find other = if other = id then some entry else s.find other)
    (waits : ∀ old, s.find id = some old → old.status = .quarantined) (other : String) (old : QuarantinedRecord)
    (found : s.find other = some old) (terminal : old.status ≠ .quarantined) : next.find other = some old := by
  rw [reads,if_neg]
  · exact found
  · rintro rfl
    exact terminal (waits old found)

-- What the first section of a call does to the records and to the balance.
structure Begun (s next : QuarantineState) (tasks : List QuarantineTask) : Prop where
  sound : Sound q next
  balance : next.balance + (tasks.map pending).sum = s.balance
  tails : ∀ task ∈ tasks.tail, ∃ id, task = .candidate id
  kept : ∀ id entry, s.find id = some entry → entry.status ≠ .quarantined → next.find id = some entry

section Begin
variable {s : QuarantineState} (sound : Sound q s)
include sound

theorem begun_unchanged (tasks : List QuarantineTask) (every : ∀ task ∈ tasks, ∃ id, task = .candidate id) : Begun q s s tasks := by
  have nothing : (tasks.map pending).sum = 0 := by
    apply List.sum_eq_zero
    intro x member
    obtain ⟨task,inside,rfl⟩ := List.mem_map.mp member
    obtain ⟨id,rfl⟩ := every task inside
    rfl
  refine ⟨sound,?_,fun task member => every task (List.mem_of_mem_tail member),fun _ _ found _ => found⟩
  rw [nothing,add_zero]

theorem quarantine_begun (record : Record) (errors : List ValidationError) (now : String) :
    Begun q s (q.begin (.quarantine record errors now) s).1 (q.begin (.quarantine record errors now) s).2 := by
  let entry : QuarantinedRecord := ⟨record,errors.map .of,now,0,.quarantined⟩
  have fresh : s.find (q.uuid4 s.issued) = none := by
    cases held : s.find (q.uuid4 s.issued) with
    | none => rfl
    | some old =>
      obtain ⟨n,earlier,same⟩ := sound.issued _ old held
      exact absurd (q.distinct same) (Nat.ne_of_lt earlier)
  have unstored : q.uuid4 s.issued ∉ s.store.keys := by
    apply (OrderedDict.get?_eq_none _ _).mp
    exact (Option.or_eq_none_iff.mp fresh).1
  have reads : ∀ other, (q.begin (.quarantine record errors now) s).1.find other =
      if other = q.uuid4 s.issued then some entry else s.find other := find_put s _ entry
  refine ⟨sound.written q reads ⟨s.issued,Nat.lt_succ_self _,rfl⟩ (Nat.le_succ _) rfl (Nat.zero_le _),?_,
    fun _ member => (by cases member),settled_kept reads fun old found => ?_⟩
  · have counts := OrderedDict.count_set_fresh active s.store unstored entry
    change s.metrics.activeQuarantined - ((s.store.set (q.uuid4 s.issued) entry).count active : Int) + 1 =
      s.metrics.activeQuarantined - (s.store.count active : Int)
    rw [show active entry = true from rfl,if_pos rfl] at counts
    omega
  · rw [fresh] at found
    cases found

theorem reprocess_begun (id : Option String) : Begun q s (q.begin (.reprocess id) s).1 (q.begin (.reprocess id) s).2 := by
  apply begun_unchanged q sound
  intro task member
  obtain ⟨other,_,rfl⟩ := List.mem_map.mp member
  exact ⟨other,rfl⟩

theorem discard_begun (id : String) : Begun q s (q.begin (.discard id) s).1 (q.begin (.discard id) s).2 := by
  have idle : Begun q s s [] := begun_unchanged q sound [] (by simp)
  rcases stored : s.store.get? id with _ | entry
  · simp only [begin,stored]
    exact idle
  · by_cases quarantined : entry.status = .quarantined
    · let changed : QuarantinedRecord := {entry with status := .discarded}
      have ran : q.begin (.discard id) s = ({s with store := s.store.set id changed},[.recordDiscard]) := by
        simp only [begin,stored,if_pos quarantined]
        rfl
      have known : s.find id = some entry := by rw [find,stored]; rfl
      have reads := find_put s id changed
      rw [ran]
      refine ⟨sound.written q reads (sound.issued id entry known) (Nat.le_refl _) rfl (sound.bounded id entry known),?_,
        fun _ member => (by cases member),settled_kept reads fun old found => ?_⟩
      · have counts := count_put s id stored changed
        rw [show active entry = true from decide_eq_true quarantined,show active changed = false from rfl,if_pos rfl,
          if_neg (by decide)] at counts
        change s.metrics.activeQuarantined - (count {s with store := s.store.set id changed} : Int) + -1 =
          s.metrics.activeQuarantined - (s.count : Int)
        omega
      · cases known.symm.trans found
        exact quarantined
    · simp only [begin,stored,if_neg quarantined]
      exact idle

theorem purgeExpired_begun (cutoff : String) :
    Begun q s (q.begin (.purgeExpired cutoff) s).1 (q.begin (.purgeExpired cutoff) s).2 := by
  have same := purge_find q cutoff s
  have unique : ((expired cutoff s).map Prod.fst).Nodup := s.store.unique.sublist (List.filter_sublist.map Prod.fst)
  refine ⟨⟨fun id entry found => ?_,fun id entry found => ?_,fun id entry found => ?_⟩,?_,fun _ member => (by cases member),
    fun id entry found _ => ?_⟩
  · rw [same] at found
    exact sound.issued id entry found
  · have read : (OrderedDict.lookupEntry id (expired cutoff s)).or (s.purged.get? id) = some entry :=
      (OrderedDict.get?_foldl_set _ unique s.purged id).symm.trans found
    rcases Option.or_eq_some_iff.mp read with moved | ⟨_,before⟩
    · have member := (OrderedDict.get?_entry ⟨expired cutoff s,unique⟩ id entry).mpr moved
      exact (of_decide_eq_true (List.mem_filter.mp member).2).2
    · exact sound.settled id entry before
  · rw [same] at found
    exact sound.bounded id entry found
  · have counts := OrderedDict.count_foldl_erase active ((expired cutoff s).map Prod.fst) s.store (by
      intro id member entry found
      obtain ⟨⟨other,old⟩,gone,rfl⟩ := List.mem_map.mp member
      have stored : s.store.get? other = some old := (OrderedDict.get?_entry _ _ _).mp (List.mem_of_mem_filter gone)
      cases stored.symm.trans found
      exact decide_eq_false (of_decide_eq_true (List.mem_filter.mp gone).2).2)
    change s.metrics.activeQuarantined - ((((expired cutoff s).map Prod.fst).foldl OrderedDict.erase s.store).count active : Int) + 0 =
      s.metrics.activeQuarantined - (s.store.count active : Int)
    rw [counts,add_zero]
  · rw [same]
    exact found

theorem begin_begun (call : QuarantineCall) : Begun q s (q.begin call s).1 (q.begin call s).2 := by
  cases call with
  | quarantine record errors now => exact quarantine_begun q sound record errors now
  | reprocess id => exact reprocess_begun q sound id
  | discard id => exact discard_begun q sound id
  | purgeExpired cutoff => exact purgeExpired_begun q sound cutoff

end Begin

section Written

variable {s : QuarantineState} {id : String} {entry : QuarantinedRecord} (stored : s.store.get? id = some entry)
  (quarantined : entry.status = .quarantined)

include stored quarantined

theorem write_counts (changed : QuarantinedRecord) : (s.write id changed).purged = s.purged ∧ (s.write id changed).issued = s.issued ∧
    (s.write id changed).metrics = s.metrics ∧ (s.write id changed).count + 1 = s.count + if active changed then 1 else 0 := by
  have was : active entry = true := decide_eq_true quarantined
  have counts := count_put s id stored changed
  rw [was] at counts
  rw [write_stored s id stored]
  exact ⟨rfl,rfl,rfl,counts⟩

theorem write_active (changed : QuarantinedRecord) (same : changed.status = entry.status) : (s.write id changed).balance = s.balance := by
  obtain ⟨_,_,metrics,counts⟩ := write_counts stored quarantined changed
  have still : active changed = true := decide_eq_true (same.trans quarantined)
  rw [still,if_pos rfl] at counts
  have same_count : (s.write id changed).count = s.count := Nat.succ.inj counts
  rw [balance,balance,metrics,same_count]

-- One active record less, in the store and in the metrics.
theorem write_ended (changed : QuarantinedRecord) (f : QuarantineMetrics → QuarantineMetrics) (other : changed.status ≠ .quarantined)
    (fewer : ∀ m, (f m).activeQuarantined = m.activeQuarantined - 1) : ((s.write id changed).measured f).balance = s.balance := by
  obtain ⟨_,_,metrics,counts⟩ := write_counts stored quarantined changed
  have ended : active changed = false := decide_eq_false other
  rw [ended,if_neg (by decide)] at counts
  change (f (s.write id changed).metrics).activeQuarantined - ((s.write id changed).count : Int) = s.balance
  rw [metrics,fewer,balance]
  omega

end Written

-- What a candidate's turn does to an eligible record.
theorem process_eligible (id : String) (verdict : Verdict) (s : QuarantineState) (stored : s.store.get? id = some entry)
    (able : q.eligible entry = true) :
    ∃ changed, (∀ other, (q.process id verdict entry s).1.find other = if other = id then some changed else s.find other) ∧
      changed.retryCount = entry.retryCount + 1 ∧ (q.process id verdict entry s).1.purged = s.purged ∧
      (q.process id verdict entry s).1.issued = s.issued ∧ (q.process id verdict entry s).1.balance = s.balance ∧
      ((q.process id verdict entry s).2 = none ∨ (q.process id verdict entry s).2 = some []) := by
  obtain ⟨quarantined,room⟩ := of_decide_eq_true able
  have written := write_counts stored quarantined
  cases verdict with
  | raises =>
    let changed : QuarantinedRecord := {entry with retryCount := entry.retryCount + 1}
    exact ⟨changed,find_write s id changed,rfl,(written changed).1,(written changed).2.1,write_active stored quarantined changed rfl,.inl rfl⟩
  | valid =>
    let changed : QuarantinedRecord := {entry with retryCount := entry.retryCount + 1, status := .reprocessed}
    refine ⟨changed,find_write s id changed,rfl,(written changed).1,(written changed).2.1,?_,.inr rfl⟩
    apply write_ended stored quarantined changed .recordReprocess (fun same => by cases same)
    intro m
    simp only [QuarantineMetrics.activeQuarantined,QuarantineMetrics.recordReprocess]
    omega
  | invalid errors =>
    by_cases last : q.maxRetryAttempts ≤ entry.retryCount + 1
    · let changed : QuarantinedRecord := {entry with retryCount := entry.retryCount + 1, status := .discarded}
      have ran : q.process id (.invalid errors) entry s = ((s.write id changed).measured .recordDiscard,some []) := if_pos last
      rw [ran]
      refine ⟨changed,find_write s id changed,rfl,(written changed).1,(written changed).2.1,?_,.inr rfl⟩
      apply write_ended stored quarantined changed .recordDiscard (fun same => by cases same)
      intro m
      simp only [QuarantineMetrics.activeQuarantined,QuarantineMetrics.recordDiscard]
      omega
    · let changed : QuarantinedRecord := {entry with
        retryCount := entry.retryCount + 1, failureReasons := errors.map .of}
      have ran : q.process id (.invalid errors) entry s = (s.write id changed,some []) := if_neg last
      rw [ran]
      exact ⟨changed,find_write s id changed,rfl,(written changed).1,(written changed).2.1,write_active stored quarantined changed rfl,.inr rfl⟩

-- A task that is done, or that ends its call, and adds what it was to add.
theorem task_tracked (tracked : Tracked q p) (split : p.calls = before ++ (task :: rest) :: after) (sound : Sound q t)
    (leaves : next = some [] ∨ (next = none ∧ pending task = 0)) (balance : t.balance = p.shared.balance + pending task) :
    Tracked q ⟨t,before ++ remaining rest next :: after⟩ := by
  have balanced := tracked.balanced
  have others : (rest.map pending).sum = 0 := by
    apply List.sum_eq_zero
    intro x member
    obtain ⟨other,inside,rfl⟩ := List.mem_map.mp member
    obtain ⟨id,rfl⟩ := tracked.tails (task :: rest) (by rw [split]; simp) other inside
    rfl
  rcases leaves with rfl | ⟨rfl,none⟩
  · refine ⟨sound,allTails_run tracked.tails split (by simp),?_⟩
    have weighed := weight_run pending p t split []
    rw [List.map_nil,List.sum_nil,add_zero] at weighed
    change t.balance + _ = 0
    linarith
  · refine ⟨sound,allTails_run tracked.tails split (by simp),?_⟩
    have weighed := weight_end pending p t split
    rw [others,none,add_zero,add_zero] at weighed
    change t.balance + _ = 0
    linarith

-- What a task does to the records and to the balance, where a candidate is eligible.
theorem exec_parts (task : QuarantineTask) (verdict : Verdict) (s : QuarantineState) (sound : Sound q s)
    (eligible : ∀ id entry, task = .candidate id → s.find id = some entry → q.eligible entry = true) :
    Sound q (q.exec task verdict s).1 ∧ (q.exec task verdict s).1.balance = s.balance + pending task ∧
      ((q.exec task verdict s).2 = some [] ∨ ((q.exec task verdict s).2 = none ∧ pending task = 0)) ∧
      ∀ id entry, s.find id = some entry → entry.status ≠ .quarantined → (q.exec task verdict s).1.find id = some entry := by
  cases task with
  | recordQuarantine reasons =>
    refine ⟨⟨sound.issued,sound.settled,sound.bounded⟩,?_,.inl rfl,fun _ _ found _ => found⟩
    change (s.metrics.recordQuarantine reasons).activeQuarantined - (s.count : Int) = _
    simp only [QuarantineMetrics.activeQuarantined,QuarantineMetrics.recordQuarantine,pending,balance]
    omega
  | recordDiscard =>
    refine ⟨⟨sound.issued,sound.settled,sound.bounded⟩,?_,.inl rfl,fun _ _ found _ => found⟩
    change s.metrics.recordDiscard.activeQuarantined - (s.count : Int) = _
    simp only [QuarantineMetrics.activeQuarantined,QuarantineMetrics.recordDiscard,pending,balance]
    omega
  | candidate id =>
    rcases held : s.find id with _ | entry
    · have ran : q.exec (.candidate id) verdict s = (s,some []) := by simp only [exec,held]
      rw [ran]
      exact ⟨sound,(add_zero _).symm,.inl rfl,fun _ _ found _ => found⟩
    · have able := eligible id entry rfl held
      obtain ⟨quarantined,room⟩ := of_decide_eq_true able
      have stored : s.store.get? id = some entry := by
        rcases Option.or_eq_some_iff.mp held with inside | ⟨_,gone⟩
        · exact inside
        · exact absurd quarantined (sound.settled id entry gone)
      have ran : q.exec (.candidate id) verdict s = q.process id verdict entry s := by simp only [exec,held]
      obtain ⟨changed,reads,tried,purged,issued,same,leaves⟩ := process_eligible q id verdict s stored able
      rw [ran]
      have drawn : ∃ n < (q.process id verdict entry s).1.issued, q.uuid4 n = id := by
        rw [issued]
        exact sound.issued id entry held
      refine ⟨sound.written q reads drawn (by rw [issued]) purged (by omega),?_,?_,settled_kept reads fun old found => ?_⟩
      · rw [same]
        exact (add_zero _).symm
      · rcases leaves with nothing | nothing
        · exact .inr ⟨nothing,rfl⟩
        · exact .inl nothing
      · cases held.symm.trans found
        exact quarantined

-- A step in which every candidate is eligible keeps the accounts.
theorem step_tracked (p : Pool QuarantineState QuarantineTask) (action : Action Verdict QuarantineCall) (tracked : Tracked q p)
    (eligible : Eligible q p action) : Tracked q (step q.system p action) ∧
      ∀ id entry, p.shared.find id = some entry → entry.status ≠ .quarantined →
        (step q.system p action).shared.find id = some entry := by
  rcases step_cases q.system p action with ⟨call,rfl,stepped⟩ | ⟨n,verdict,task,rest,before,after,rfl,found,split,stepped⟩ | ⟨idle,_⟩
  · obtain ⟨still,balance,tails,kept⟩ := begin_begun q tracked.sound call
    rw [stepped]
    refine ⟨⟨still,allTails_outside tracked.tails tails,?_⟩,kept⟩
    rw [weight_outside]
    have balanced := tracked.balanced
    change (q.begin call p.shared).1.balance + (weight pending p + ((q.begin call p.shared).2.map pending).sum) = 0
    linarith
  · have able : ∀ id entry, task = .candidate id → p.shared.find id = some entry → q.eligible entry = true := by
      rintro id entry rfl held
      exact eligible id rest entry found held
    obtain ⟨sound,balance,leaves,kept⟩ := exec_parts q task verdict p.shared tracked.sound able
    rw [stepped]
    exact ⟨task_tracked q tracked split sound leaves balance,kept⟩
  · rw [idle]
    exact ⟨tracked,fun _ _ found _ => found⟩

theorem tracked_quiet (tracked : Tracked q p) (quiet : waiting p = []) :
    p.shared.metrics.activeQuarantined = p.shared.count := by
  have nothing : weight pending p = 0 := by
    apply List.sum_eq_zero
    intro x member
    obtain ⟨call,inside,rfl⟩ := List.mem_map.mp member
    rw [List.flatten_eq_nil_iff.mp quiet call inside]
    rfl
  have balanced := tracked.balanced
  rw [nothing,balance] at balanced
  linarith

-- A candidate that is not eligible is changed all the same.
theorem accounted_eligible (p : Pool QuarantineState QuarantineTask) (action : Action Verdict QuarantineCall)
    (accounted : Accounted q p action) : Eligible q p action := by
  cases action with
  | outside call => trivial
  | run n verdict =>
    intro id rest entry found held
    obtain ⟨stepped,_⟩ := step_own q.system p n verdict found
    have ran : q.exec (.candidate id) verdict p.shared = q.process id verdict entry p.shared := by simp only [exec,held]
    obtain ⟨changed,read,tried⟩ : ∃ changed, (step q.system p (.run n verdict)).shared.find id = some changed ∧
        changed.retryCount = entry.retryCount + 1 := by
      rw [stepped]
      change ∃ changed, (q.exec (.candidate id) verdict p.shared).1.find id = some changed ∧ _
      rw [ran]
      cases verdict with
      | raises => exact ⟨_,(find_write _ _ _ _).trans (if_pos rfl),rfl⟩
      | valid => exact ⟨_,(find_write _ _ _ _).trans (if_pos rfl),rfl⟩
      | invalid errors =>
        simp only [process]
        split
        · exact ⟨_,(find_write _ _ _ _).trans (if_pos rfl),rfl⟩
        · exact ⟨_,(find_write _ _ _ _).trans (if_pos rfl),rfl⟩
    have bounded := accounted.2.1 id changed read
    apply decide_eq_true
    constructor
    · by_contra terminal
      cases (accounted.2.2 id entry held terminal).symm.trans read
      omega
    · omega

-- The accounts hold in a run exactly when every candidate is eligible in its turn.
theorem quarantine_accounted (actions : List (Action Verdict QuarantineCall)) :
    Along (step q.system) (Accounted q) start actions ↔ Along (step q.system) (Eligible q) start actions := by
  constructor
  · have keeps : ∀ p action, True → Accounted q p action → True := fun _ _ _ _ => trivial
    have gives : ∀ p action, True → Accounted q p action → Eligible q p action :=
      fun p action _ accounted => accounted_eligible q p action accounted
    exact fun along => along_gives keeps gives trivial along
  · have keeps : ∀ p action, Tracked q p → Eligible q p action → Tracked q (step q.system p action) :=
      fun p action tracked eligible => (step_tracked q p action tracked eligible).1
    have gives : ∀ p action, Tracked q p → Eligible q p action → Accounted q p action := by
      intro p action tracked eligible
      obtain ⟨next,kept⟩ := step_tracked q p action tracked eligible
      exact ⟨tracked_quiet q next,next.sound.bounded,kept⟩
    exact fun along => along_gives keeps gives (start_tracked q) along

def threeTries : QuarantineHandler where
  maxRetryAttempts := 3
  uuid4 := fun n => String.ofList ('q' :: List.replicate n 'q')
  distinct := fun n k same => by simpa using congrArg String.toList same

def reprocessedTwice : List (Action Verdict QuarantineCall) :=
  [.outside (.quarantine .empty [] "2026-01-01T00:00:00+00:00"),.run 0 .valid,
    .outside (.reprocess (some "q")),.run 1 .valid,.outside (.reprocess (some "q")),.run 2 .valid]

-- A record that was reprocessed is reprocessed again when its id is given.
theorem settled_record_reprocessed :
    let last := run (step threeTries.system) start reprocessedTwice
    waiting last = [] ∧ last.shared.metrics.activeQuarantined = -1 ∧ last.shared.count = 0 ∧
      ¬Along (step threeTries.system) (Accounted threeTries) start reprocessedTwice := by
  refine ⟨rfl,rfl,rfl,fun along => ?_⟩
  have counted := along.2.2.2.2.2.1.1 rfl
  exact absurd counted (by decide)

end QuarantineHandler
end RiskPulse
