import RiskPulse.DeliveryContract
import RiskPulse.Library.Interleaving

namespace RiskPulse.NotificationService
open Effect Interleaved
variable (c : NotificationService)

def requestOf (d : NotificationDelivery) : Except String ProviderRequest :=
  match d.channel with
  | .email => c.emailRequest d
  | .sms => c.smsRequest d
  | .webhook => c.webhookRequest d
  | .inApp => c.inAppRequest d

-- A delivery up to the await of its provider, and whether it gets there.
def beginDelivery (d : NotificationDelivery) (s : ServiceState) : ServiceState × Bool :=
  let s := created d s
  if d.preferences.isChannelEnabled d.recipient d.channel d.alert.severity = false then
    (marks d (.markFailed d.moment.markedAt "channel_disabled_by_preference") s,false)
  else if d.alert.severity ≠ .critical ∧ d.preferences.isInQuietHours d.moment.currentHour d.recipient = true then
    (marks d (.markFailed d.moment.markedAt "quiet_hours") s,false)
  else
    let (allowed,buckets) := c.admission d s.buckets
    if allowed = false then (marks d .markRateLimited {s with buckets},false)
    else
      match c.requestOf d with
      | .error reason => (marks d (.markFailed d.moment.markedAt reason) {s with buckets},false)
      | .ok request => (called d request {s with buckets},true)

-- From the provider's return, or its exception, to the end.
def resumeDelivery (d : NotificationDelivery) (reference : Nat) (s : ServiceState) : ServiceState :=
  match d.moment.result with
  | .error reason => marks d (.markFailed d.moment.markedAt reason) s
  | .ok result =>
    match d.channel with
    | .email | .sms =>
      annotate reference "provider_message_id" (result.value "message_id") (marks d (.markSent d.moment.markedAt) s)
    | .webhook => marks d (.markDelivered d.moment.markedAt) s
    | .inApp =>
      if result.value "status" = .str "delivered" then marks d (.markDelivered d.moment.markedAt) s
      else annotate reference "queued" (.bool true) (marks d (.markSent d.moment.markedAt) s)

theorem attempt_provided (d : NotificationDelivery) (request : Except String ProviderRequest) (finish : Record → Effect ServiceState Unit)
    (finished : Record → ServiceState → ServiceState) (finishes : ∀ result t, finish result t = (.ok (),finished result t))
    (handler : String → Effect ServiceState Unit) (t : ServiceState) :
    (attempt (ofExcept request >>= fun made => provide d made >>= finish) handler t).2 =
      match request with
      | .error reason => (handler reason t).2
      | .ok made =>
        match d.moment.result with
        | .error reason => (handler reason (called d made t)).2
        | .ok result => finished result (called d made t) := by
  cases request with
  | error reason => rfl
  | ok made =>
    have asked : provide d made t = (d.moment.result,called d made t) := rfl
    simp only
    cases answered : d.moment.result with
    | error reason =>
      rw [answered] at asked
      exact congrArg Prod.snd (attempt_error handler (bind_error finish asked))
    | ok result =>
      rw [answered] at asked
      have ran : (provide d made >>= finish) t = (.ok (),finished result (called d made t)) :=
        (bind_ok finish asked).trans (finishes result _)
      exact congrArg Prod.snd (attempt_ok handler ran)

theorem dispatch_split (d : NotificationDelivery) (reference : Nat) (t : ServiceState) :
    (attempt (c.dispatch d reference) (fun reason => modify (marks d (.markFailed d.moment.markedAt reason))) t).2 =
      match c.requestOf d with
      | .error reason => marks d (.markFailed d.moment.markedAt reason) t
      | .ok request => resumeDelivery d reference (called d request t) := by
  unfold dispatch requestOf resumeDelivery
  cases d.channel with
  | email => exact attempt_provided d _ _ (fun result t => annotate reference "provider_message_id" (result.value "message_id")
      (marks d (.markSent d.moment.markedAt) t)) (fun _ _ => rfl) _ t
  | sms => exact attempt_provided d _ _ (fun result t => annotate reference "provider_message_id" (result.value "message_id")
      (marks d (.markSent d.moment.markedAt) t)) (fun _ _ => rfl) _ t
  | webhook => exact attempt_provided d _ _ (fun _ t => marks d (.markDelivered d.moment.markedAt) t) (fun _ _ => rfl) _ t
  | inApp =>
    refine attempt_provided d _ _ (fun result t => if result.value "status" = .str "delivered" then marks d (.markDelivered d.moment.markedAt) t
      else annotate reference "queued" (.bool true) (marks d (.markSent d.moment.markedAt) t)) ?_ _ t
    intro result t
    split
    · rfl
    · rfl

-- A delivery that nothing interrupts is the two, one after the other.
theorem deliver_split (d : NotificationDelivery) (s : ServiceState) :
    c.deliverToChannel d s = (s.tracker.objects.length,
      if (c.beginDelivery d s).2 then resumeDelivery d s.tracker.objects.length (c.beginDelivery d s).1 else (c.beginDelivery d s).1) := by
  unfold deliverToChannel beginDelivery
  simp only
  split
  · rfl
  split
  · rfl
  split
  · rfl
  · rw [dispatch_split]
    cases c.requestOf d with
    | error reason => rfl
    | ok request => rfl

def markNotificationRead (notificationId : String) (now : Rat) (s : ServiceState) : ServiceState :=
  {s with tracker := s.tracker.mark notificationId (.markRead now)}

inductive DeliveryTask where
  | begin (d : NotificationDelivery)
  | resume (d : NotificationDelivery) (reference : Nat)

-- The record that waits for its provider.
def DeliveryTask.awaits : DeliveryTask → Option Nat
  | .begin _ => none
  | .resume _ reference => some reference

inductive ServiceEvent where
  | notify (call : NotifyCall)
  | read (notificationId : String) (now : Rat)

-- The identifiers in the order uuid4 gives them, one for each record.
variable (ids : Nat → String)

def identified (d : NotificationDelivery) (s : ServiceState) : NotificationDelivery :=
  {d with moment := {d.moment with uuid4 := ids s.tracker.objects.length}}

-- Calls of notify that run at the same time, and what the recipients read meanwhile.
def delivering : Interleaved ServiceState DeliveryTask Unit ServiceEvent where
  exec
    | .begin d,_,s =>
      let (t,waits) := c.beginDelivery (identified ids d s) s
      (t,some (if waits then [.resume (identified ids d s) s.tracker.objects.length] else []))
    | .resume d reference,_,s => (resumeDelivery d reference s,some [])
  event
    | .notify call,s => (s,(c.deliveries call).map .begin)
    | .read notificationId now,s => (markNotificationRead notificationId now s,[])

section Own
variable {c} {d : NotificationDelivery} {s : ServiceState}

-- A marking of a record whose identifier is known changes that record alone.
theorem marks_known (known : s.tracker.records.get? d.moment.uuid4 = some reference) (f : NotificationRecord → NotificationRecord) :
    (marks d f s).tracker = ⟨s.tracker.objects.modify reference f,s.tracker.records,s.tracker.byAlert⟩ := by
  rw [marks,DeliveryTracker.mark,known]
  rfl

-- What the service makes of a record once its provider has answered.
def Answered (status : DeliveryStatus) : Prop := status = .sent ∨ status = .delivered ∨ status = .failed

theorem resume_marks (known : s.tracker.records.get? d.moment.uuid4 = some reference) :
    ∃ f : NotificationRecord → NotificationRecord, (∀ r, Answered (f r).status) ∧
      (resumeDelivery d reference s).tracker = ⟨s.tracker.objects.modify reference f,s.tracker.records,s.tracker.byAlert⟩ := by
  have sent : ∀ key value, ∃ f : NotificationRecord → NotificationRecord, (∀ r, Answered (f r).status) ∧
      (annotate reference key value (marks d (.markSent d.moment.markedAt) s)).tracker =
        ⟨s.tracker.objects.modify reference f,s.tracker.records,s.tracker.byAlert⟩ := by
    intro key value
    refine ⟨(fun r : NotificationRecord => {r with metadata := r.metadata.set key value}) ∘ .markSent d.moment.markedAt,fun r => .inl rfl,?_⟩
    unfold annotate DeliveryTracker.change
    rw [marks_known known,List.modify_modify_eq]
  unfold resumeDelivery
  split
  · exact ⟨_,fun _ => .inr (.inr rfl),marks_known known _⟩
  · split
    · exact sent _ _
    · exact sent _ _
    · exact ⟨_,fun _ => .inr (.inl rfl),marks_known known _⟩
    · split
      · exact ⟨_,fun _ => .inr (.inl rfl),marks_known known _⟩
      · exact sent _ _

-- Up to the await a delivery adds its record, which is pending where it waits.
theorem begin_adds (d : NotificationDelivery) (s : ServiceState) :
    ∃ r, (c.beginDelivery d s).1.tracker.objects = s.tracker.objects ++ [r] ∧
      (c.beginDelivery d s).1.tracker.records = s.tracker.records.set d.moment.uuid4 s.tracker.objects.length ∧
      ((c.beginDelivery d s).2 = true → r.status = .pending) := by
  have known : (created d s).tracker.records.get? d.moment.uuid4 = some s.tracker.objects.length := by
    simp [created,DeliveryTracker.createRecord,OrderedDict.get?_set]
  obtain ⟨first,added,pending⟩ : ∃ r, (created d s).tracker.objects = s.tracker.objects ++ [r] ∧ r.status = .pending := ⟨_,rfl,rfl⟩
  have marked : ∀ (t : ServiceState) (f : NotificationRecord → NotificationRecord), t.tracker = (created d s).tracker →
      ∃ r, (marks d f t,false).1.tracker.objects = s.tracker.objects ++ [r] ∧
        (marks d f t,false).1.tracker.records = s.tracker.records.set d.moment.uuid4 s.tracker.objects.length ∧
        ((marks d f t,false).2 = true → r.status = .pending) := by
    intro t f same
    have tracked := marks_known (same ▸ known : t.tracker.records.get? d.moment.uuid4 = _) f
    rw [same] at tracked
    refine ⟨f first,?_,?_,by intro waits; cases waits⟩
    · rw [tracked,added]
      exact modify_last _ first f
    · rw [tracked]
      rfl
  unfold beginDelivery
  simp only
  split
  · exact marked _ _ rfl
  split
  · exact marked _ _ rfl
  split
  · exact marked _ _ rfl
  · split
    · exact marked _ _ rfl
    · exact ⟨first,added,rfl,fun _ => pending⟩

end Own

-- A record does not turn from read to anything else, nor from delivered to sent.
def Progresses (reference : Nat) (s t : ServiceState) : Prop := ∀ r, s.tracker.objects[reference]? = some r →
  ∃ later, t.tracker.objects[reference]? = some later ∧ (r.status = .read → later.status = .read) ∧
    (r.status = .delivered → later.status ≠ .sent)

abbrev Deliveries := Pool ServiceState DeliveryTask

-- When the provider of the record returns, the record has not been read.
def UnreadOnReturn (reference : Nat) (p : Deliveries) : Action Unit ServiceEvent → Prop
  | .outside _ => True
  | .run n _ => ∀ d rest, p.calls[n]? = some (.resume d reference :: rest) →
    ∀ r ∈ p.shared.tracker.objects[reference]?, r.status ≠ .read

-- An identifier stands for its record, and a record that waits for its provider does so
-- once and is pending or read.
structure Tracked (s : ServiceState) (tasks : List DeliveryTask) : Prop where
  named : ∀ id reference, s.tracker.records.get? id = some reference ↔ reference < s.tracker.objects.length ∧ id = ids reference
  waits : ∀ d reference, .resume d reference ∈ tasks → d.moment.uuid4 = ids reference ∧
    ∃ r, s.tracker.objects[reference]? = some r ∧ (r.status = .pending ∨ r.status = .read)
  once : (tasks.filterMap DeliveryTask.awaits).Nodup

section Steps
variable {c} {ids} {s : ServiceState} {tasks : List DeliveryTask}

theorem progresses_refl (reference : Nat) (s : ServiceState) : Progresses reference s s :=
  fun r found => ⟨r,found,id,fun delivered sent => by rw [delivered] at sent; cases sent⟩

theorem progresses_added (reference : Nat) (added : t.tracker.objects = s.tracker.objects ++ [r]) : Progresses reference s t := by
  intro old found
  have kept : t.tracker.objects[reference]? = some old := by
    rw [added,List.getElem?_append_left (List.getElem?_eq_some_iff.mp found).1,found]
  exact ⟨old,kept,id,fun delivered sent => by rw [delivered] at sent; cases sent⟩

theorem progresses_other (changed : t.tracker.objects = s.tracker.objects.modify other f) (apart : other ≠ reference) :
    Progresses reference s t := by
  intro old found
  have kept : t.tracker.objects[reference]? = some old := by rw [changed,List.getElem?_modify_ne f _ apart,found]
  exact ⟨old,kept,id,fun delivered sent => by rw [delivered] at sent; cases sent⟩

theorem Tracked.fewer (tracked : Tracked ids s tasks) (fewer : others.Sublist tasks) : Tracked ids s others where
  named := tracked.named
  waits d reference waiting := tracked.waits d reference (fewer.subset waiting)
  once := tracked.once.sublist (fewer.filterMap _)

-- One record changes, and stays pending or read where it waits.
theorem Tracked.changed (tracked : Tracked ids s tasks) (objects : t.tracker.objects = s.tracker.objects.modify i f)
    (records : t.tracker.records = s.tracker.records)
    (keeps : ∀ d, .resume d i ∈ tasks → ∀ r, (f r).status = .pending ∨ (f r).status = .read) : Tracked ids t tasks where
  named id reference := by
    rw [objects,records,List.length_modify]
    exact tracked.named id reference
  waits d reference waiting := by
    obtain ⟨name,r,found,status⟩ := tracked.waits d reference waiting
    refine ⟨name,?_⟩
    rw [objects]
    by_cases same : i = reference
    · subst same
      exact ⟨f r,by rw [List.getElem?_modify_eq,found]; rfl,keeps d waiting r⟩
    · exact ⟨r,by rw [List.getElem?_modify_ne f _ same,found],status⟩
  once := tracked.once

theorem begin_named (injective : Function.Injective ids) (tracked : Tracked ids s tasks) (id : String) (reference : Nat) :
    (s.tracker.records.set (ids s.tracker.objects.length) s.tracker.objects.length).get? id = some reference ↔
      reference < s.tracker.objects.length + 1 ∧ id = ids reference := by
  rw [OrderedDict.get?_set]
  by_cases same : id = ids s.tracker.objects.length
  · rw [if_pos same,Option.some_inj]
    constructor
    · rintro rfl
      exact ⟨Nat.lt_succ_self _,same⟩
    · intro ⟨_,named⟩
      exact injective (same.symm.trans named)
  · rw [if_neg same,tracked.named]
    constructor
    · intro ⟨less,named⟩
      exact ⟨Nat.lt_succ_of_lt less,named⟩
    · intro ⟨less,named⟩
      have other : reference ≠ s.tracker.objects.length := fun last => same (last ▸ named)
      exact ⟨by omega,named⟩

theorem Tracked.begin (injective : Function.Injective ids) (d : NotificationDelivery) (tracked : Tracked ids s (before ++ .begin d :: after)) :
    Tracked ids (c.beginDelivery (identified ids d s) s).1
      (before ++ ((if (c.beginDelivery (identified ids d s) s).2 then [.resume (identified ids d s) s.tracker.objects.length] else []) ++ after)) := by
  obtain ⟨r,objects,records,pending⟩ := begin_adds (c := c) (identified ids d s) s
  have left := tracked.fewer ((List.sublist_cons_self (.begin d) after).append_left before)
  have kept : ∀ other reference, .resume other reference ∈ before ++ after → other.moment.uuid4 = ids reference ∧
      ∃ r, (c.beginDelivery (identified ids d s) s).1.tracker.objects[reference]? = some r ∧ (r.status = .pending ∨ r.status = .read) := by
    intro other reference waiting
    obtain ⟨name,r,found,status⟩ := left.waits other reference waiting
    exact ⟨name,r,by rw [objects,List.getElem?_append_left (List.getElem?_eq_some_iff.mp found).1,found],status⟩
  have named : ∀ id reference, (c.beginDelivery (identified ids d s) s).1.tracker.records.get? id = some reference ↔
      reference < (c.beginDelivery (identified ids d s) s).1.tracker.objects.length ∧ id = ids reference := by
    intro id reference
    rw [records,objects,List.length_append,List.length_singleton]
    exact begin_named injective tracked id reference
  cases waits : (c.beginDelivery (identified ids d s) s).2 with
  | false => exact ⟨named,kept,left.once⟩
  | true =>
    refine ⟨named,?_,?_⟩
    · intro other reference waiting
      rcases List.mem_append.mp waiting with first | later
      · exact kept other reference (List.mem_append_left _ first)
      · rcases List.mem_cons.mp later with own | last
        · cases own
          exact ⟨rfl,r,by rw [objects,List.getElem?_concat_length],.inl (pending waits)⟩
        · exact kept other reference (List.mem_append_right _ last)
    · have fresh : s.tracker.objects.length ∉ (before ++ after).filterMap DeliveryTask.awaits := by
        intro member
        obtain ⟨task,inside,awaited⟩ := List.mem_filterMap.mp member
        cases task with
        | begin other => cases awaited
        | resume other reference =>
          cases awaited
          obtain ⟨_,_,found,_⟩ := left.waits other _ inside
          exact absurd (List.getElem?_eq_some_iff.mp found).1 (lt_irrefl _)
      have moved : (before ++ .resume (identified ids d s) s.tracker.objects.length :: after).Perm
          (.resume (identified ids d s) s.tracker.objects.length :: (before ++ after)) := List.perm_middle
      exact ((moved.filterMap DeliveryTask.awaits).nodup_iff).mpr (List.nodup_cons.mpr ⟨fresh,left.once⟩)

-- The record that is answered waits for nothing else.
theorem Tracked.resume (tracked : Tracked ids s (before ++ .resume d reference :: after)) :
    Tracked ids (resumeDelivery d reference s) (before ++ after) := by
  have here := tracked.waits d reference (List.mem_append_right _ List.mem_cons_self)
  obtain ⟨name,r,found,_⟩ := here
  have known : s.tracker.records.get? d.moment.uuid4 = some reference :=
    (tracked.named _ _).mpr ⟨(List.getElem?_eq_some_iff.mp found).1,name⟩
  obtain ⟨f,_,changed⟩ := resume_marks known
  have left := tracked.fewer ((List.sublist_cons_self (.resume d reference) after).append_left before)
  refine left.changed (congrArg DeliveryTracker.objects changed) (by rw [changed]) ?_
  intro other waiting
  have moved : (before ++ .resume d reference :: after).Perm (.resume d reference :: (before ++ after)) := List.perm_middle
  have once := ((moved.filterMap DeliveryTask.awaits).nodup_iff).mp tracked.once
  have awaited : reference ∈ (before ++ after).filterMap DeliveryTask.awaits := List.mem_filterMap.mpr ⟨_,waiting,rfl⟩
  exact absurd awaited (List.nodup_cons.mp once).1

theorem read_marks (id : String) (now : Rat) (s : ServiceState) : markNotificationRead id now s = s ∨
    ∃ reference, (markNotificationRead id now s).tracker.objects = s.tracker.objects.modify reference (.markRead now) ∧
      (markNotificationRead id now s).tracker.records = s.tracker.records := by
  unfold markNotificationRead DeliveryTracker.mark
  cases s.tracker.records.get? id with
  | none => exact .inl rfl
  | some reference => exact .inr ⟨reference,rfl,rfl⟩

theorem Tracked.read (tracked : Tracked ids s tasks) (id : String) (now : Rat) : Tracked ids (markNotificationRead id now s) tasks := by
  rcases read_marks id now s with same | ⟨reference,objects,records⟩
  · rwa [same]
  · exact tracked.changed objects records fun _ _ _ => .inr rfl

theorem progresses_read (reference : Nat) (id : String) (now : Rat) (s : ServiceState) :
    Progresses reference s (markNotificationRead id now s) := by
  rcases read_marks id now s with same | ⟨other,objects,_⟩
  · rw [same]
    exact progresses_refl reference s
  · by_cases same : other = reference
    · subst same
      intro r found
      refine ⟨r.markRead now,by rw [objects,List.getElem?_modify_eq,found]; rfl,fun _ => rfl,?_⟩
      intro _ sent
      cases sent
    · exact progresses_other objects same

-- The answer keeps the record's progress exactly when the record has not been read.
theorem progresses_resume (tracked : Tracked ids s (before ++ .resume d reference :: after)) :
    Progresses reference s (resumeDelivery d reference s) ↔ ∀ r ∈ s.tracker.objects[reference]?, r.status ≠ .read := by
  obtain ⟨name,r,found,status⟩ := tracked.waits d reference (List.mem_append_right _ List.mem_cons_self)
  have known : s.tracker.records.get? d.moment.uuid4 = some reference :=
    (tracked.named _ _).mpr ⟨(List.getElem?_eq_some_iff.mp found).1,name⟩
  obtain ⟨f,answered,changed⟩ := resume_marks known
  have after : (resumeDelivery d reference s).tracker.objects[reference]? = some (f r) := by
    rw [changed,List.getElem?_modify_eq,found]
    rfl
  constructor
  · intro progresses other present wasRead
    cases found.symm.trans present
    obtain ⟨later,now,stays,_⟩ := progresses r found
    cases after.symm.trans now
    rcases answered r with sent | delivered | failed
    · exact absurd (sent.symm.trans (stays wasRead)) (by decide)
    · exact absurd (delivered.symm.trans (stays wasRead)) (by decide)
    · exact absurd (failed.symm.trans (stays wasRead)) (by decide)
  · intro unread other present
    cases found.symm.trans present
    have pending := status.resolve_right (unread r found)
    refine ⟨f r,after,fun read => absurd read (unread r found),?_⟩
    intro delivered
    exact absurd (pending.symm.trans delivered) (by decide)

theorem Tracked.notified (tracked : Tracked ids s tasks) (ds : List NotificationDelivery) : Tracked ids s (tasks ++ ds.map .begin) where
  named := tracked.named
  waits d reference waiting := by
    rcases List.mem_append.mp waiting with old | new
    · exact tracked.waits d reference old
    · obtain ⟨_,_,other⟩ := List.mem_map.mp new
      cases other
  once := by
    have none : (ds.map DeliveryTask.begin).filterMap DeliveryTask.awaits = [] := by
      rw [List.filterMap_map]
      exact List.filterMap_eq_nil_iff.mpr fun _ _ => rfl
    rw [List.filterMap_append,none,List.append_nil]
    exact tracked.once

end Steps

section Pools
variable {c} {ids} {p : Deliveries}

theorem tracked_step (injective : Function.Injective ids) (tracked : Tracked ids p.shared (waiting p)) (action : Action Unit ServiceEvent) :
    Tracked ids ((delivering c ids).step p action).shared (waiting ((delivering c ids).step p action)) := by
  rcases step_cases (delivering c ids) p action with ⟨e,rfl,_⟩ | ⟨n,o,task,rest,before,after,rfl,_,split,stepped⟩ | ⟨idle,_⟩
  · rw [waiting_outside]
    cases e with
    | notify call => exact tracked.notified _
    | read id now => exact (tracked.read id now).fewer (by rw [show ((delivering c ids).event (.read id now) p.shared).2 = [] from rfl,List.append_nil])
  · obtain ⟨all,_⟩ := waiting_run p p.shared split
    rw [all] at tracked
    rw [stepped]
    cases task with
    | begin d =>
      have next := tracked.begin (c := c) injective d
      rw [← (waiting_run p _ split).2] at next
      exact next
    | resume d reference =>
      have next := tracked.resume
      rw [← List.nil_append (rest ++ after.flatten),← (waiting_run p _ split).2] at next
      exact next
  · rw [idle]
    exact tracked

theorem progresses_step (tracked : Tracked ids p.shared (waiting p)) (reference : Nat) (action : Action Unit ServiceEvent) :
    Progresses reference p.shared ((delivering c ids).step p action).shared ↔ UnreadOnReturn reference p action := by
  rcases step_cases (delivering c ids) p action with ⟨e,rfl,stepped⟩ | ⟨n,o,task,rest,before,after,rfl,found,split,stepped⟩ | ⟨idle,n,o,rfl,stopped⟩
  · rw [stepped]
    refine iff_of_true ?_ trivial
    cases e with
    | notify call => exact progresses_refl reference p.shared
    | read id now => exact progresses_read reference id now p.shared
  · rw [stepped]
    cases task with
    | begin d =>
      obtain ⟨r,added,_⟩ := begin_adds (c := c) (identified ids d p.shared) p.shared
      refine iff_of_true (progresses_added reference added) ?_
      intro other later same
      cases found.symm.trans same
    | resume d own =>
      rw [(waiting_run p p.shared split).1] at tracked
      by_cases same : own = reference
      · subst same
        refine (progresses_resume tracked).trans ⟨fun unread _ _ _ => unread,fun unread => unread d rest found⟩
      · obtain ⟨name,r,present,_⟩ := tracked.waits d own (List.mem_append_right _ List.mem_cons_self)
        obtain ⟨f,_,changed⟩ := resume_marks ((tracked.named _ _).mpr ⟨(List.getElem?_eq_some_iff.mp present).1,name⟩)
        refine iff_of_true (progresses_other (congrArg DeliveryTracker.objects changed) same) ?_
        intro other later head
        cases found.symm.trans head
        exact absurd rfl same
  · rw [idle]
    refine iff_of_true (progresses_refl reference p.shared) ?_
    intro d rest head
    exact absurd head (stopped _ _)

theorem start_tracked : Tracked ids ServiceState.start [] where
  named id reference := by
    constructor
    · intro found
      cases found
    · intro ⟨less,_⟩
      cases less
  waits _ _ waiting := by cases waiting
  once := List.nodup_nil

end Pools

-- In any order of deliveries, answers and reads a record's status never goes back exactly
-- when the provider returns for it before it is read.
theorem delivery_progress (injective : Function.Injective ids) (reference : Nat) (actions : List (Action Unit ServiceEvent)) :
    Runs.Along (delivering c ids).step (fun p action => Progresses reference p.shared ((delivering c ids).step p action).shared)
        ⟨.start,[]⟩ actions ↔
      Runs.Along (delivering c ids).step (UnreadOnReturn reference) ⟨.start,[]⟩ actions := by
  have keeps : ∀ p action, Tracked ids p.shared (waiting p) →
      Tracked ids ((delivering c ids).step p action).shared (waiting ((delivering c ids).step p action)) :=
    fun _ action tracked => tracked_step injective tracked action
  exact Runs.along_iff keeps (fun _ action tracked => progresses_step tracked reference action) start_tracked

theorem unread_now (status : (p.shared.tracker.objects[reference]?).map NotificationRecord.status ≠ some .read) (action : Action Unit ServiceEvent) :
    UnreadOnReturn reference p action := by
  cases action with
  | outside e => trivial
  | run n o =>
    intro _ _ _ r found wasRead
    have present : p.shared.tracker.objects[reference]? = some r := found
    exact status (by rw [present,Option.map_some,wasRead])

def counted (n : Nat) : String := String.ofList (List.replicate (n + 1) 'u')

theorem counted_injective : Function.Injective counted := by
  intro a b same
  have lengths := congrArg String.length same
  simpa [counted] using lengths

-- One notification in the application, which the provider delivers.
def connectedService : NotificationService := {exampleService with websocketProvider := true}

def pushCall : NotifyCall :=
  ⟨exampleAlert,["analyst-1"],some [.inApp],false,⟨.empty,some 3⟩,
    fun _ => ⟨"",0,23,0,"2026-01-01",.ok (.ofList [("status",.str "delivered")]),1⟩⟩

theorem delivery_progress_push : Function.Injective counted ∧
    Runs.Along (delivering connectedService counted).step
      (fun p action => Progresses 0 p.shared ((delivering connectedService counted).step p action).shared) ⟨.start,[]⟩
      [.outside (.notify pushCall),.run 0 (),.run 0 (),.outside (.read "u" 2)] := by
  refine ⟨counted_injective,(delivery_progress connectedService counted counted_injective 0 _).mpr ?_⟩
  exact ⟨trivial,unread_now (by decide +kernel) _,unread_now (by decide +kernel) _,trivial,trivial⟩

-- The recipient reads it before the push returns, and it is delivered again.
theorem read_during_push : ¬Runs.Along (delivering connectedService counted).step
    (fun p action => Progresses 0 p.shared ((delivering connectedService counted).step p action).shared) ⟨.start,[]⟩
    [.outside (.notify pushCall),.run 0 (),.outside (.read "u" 1),.run 0 ()] := by
  rintro ⟨_,_,_,last,_⟩
  have read : ((Runs.run (delivering connectedService counted).step ⟨.start,[]⟩
    [.outside (.notify pushCall),.run 0 (),.outside (.read "u" 1)]).shared.tracker.objects[0]?).map NotificationRecord.status = some .read := by
    decide +kernel
  have delivered : ((Runs.run (delivering connectedService counted).step ⟨.start,[]⟩
    [.outside (.notify pushCall),.run 0 (),.outside (.read "u" 1),.run 0 ()]).shared.tracker.objects[0]?).map NotificationRecord.status =
      some .delivered := by decide +kernel
  obtain ⟨r,found,wasRead⟩ := Option.map_eq_some_iff.mp read
  obtain ⟨later,now,stays,_⟩ := last r found
  obtain ⟨other,present,status⟩ := Option.map_eq_some_iff.mp delivered
  cases present.symm.trans now
  exact absurd (status.symm.trans (stays wasRead)) (by decide)

end RiskPulse.NotificationService
