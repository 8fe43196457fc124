import Mathlib.Algebra.Order.Field.Rat
import RiskPulse.Library.Runs
import RiskPulse.NotificationService

namespace RiskPulse.NotificationService
open Effect SlidingWindow
variable (c : NotificationService)

def calledWith (d : NotificationDelivery) (request : ProviderRequest) : ProviderCall :=
  ⟨d.recipient,d.channel,request,d.overrideRateLimit,d.moment.time⟩

def called (d : NotificationDelivery) (request : ProviderRequest) (s : ServiceState) : ServiceState :=
  {s with calls := s.calls ++ [calledWith d request]}

-- The record that a delivery made is the last one, its identifier stands for it, and its
-- status is as told.
def Holding (base : List NotificationRecord) (d : NotificationDelivery) (status : DeliveryStatus → Prop) (t : DeliveryTracker) : Prop :=
  ∃ r, t.objects = base ++ [r] ∧ t.records.get? d.moment.uuid4 = some base.length ∧ r.alertId = d.alert.alertId ∧
    r.recipient = d.recipient ∧ r.channel = d.channel ∧ status r.status

abbrev Settled : DeliveryStatus → Prop := fun status => status ≠ .pending

section Tracker
variable {base : List NotificationRecord} {d : NotificationDelivery} {status : DeliveryStatus → Prop} {t : DeliveryTracker}

theorem created_holding (d : NotificationDelivery) (s : ServiceState) :
    Holding s.tracker.objects d (fun _ => True) (created d s).tracker := by
  refine ⟨_,rfl,?_,rfl,rfl,rfl,trivial⟩
  simp [created,DeliveryTracker.createRecord,OrderedDict.get?_set]

theorem modify_last (base : List NotificationRecord) (r : NotificationRecord) (f : NotificationRecord → NotificationRecord) :
    (base ++ [r]).modify base.length f = base ++ [f r] := by
  induction base with
  | nil => rfl
  | cons first rest ih => simpa using ih

theorem change_holding {wanted : DeliveryStatus → Prop} (holds : Holding base d status t) {f : NotificationRecord → NotificationRecord}
    (same : ∀ r, (f r).alertId = r.alertId ∧ (f r).recipient = r.recipient ∧ (f r).channel = r.channel)
    (moves : ∀ r, status r.status → wanted (f r).status) : Holding base d wanted (t.change base.length f) := by
  obtain ⟨r,objects,found,alert,recipient,channel,has⟩ := holds
  refine ⟨f r,?_,found,(same r).1.trans alert,(same r).2.1.trans recipient,(same r).2.2.trans channel,moves r has⟩
  unfold DeliveryTracker.change
  rw [objects]
  exact modify_last base r f

theorem mark_holding {wanted : DeliveryStatus → Prop} (holds : Holding base d status t) {f : NotificationRecord → NotificationRecord}
    (same : ∀ r, (f r).alertId = r.alertId ∧ (f r).recipient = r.recipient ∧ (f r).channel = r.channel)
    (moves : ∀ r, status r.status → wanted (f r).status) : Holding base d wanted (t.mark d.moment.uuid4 f) := by
  have found := holds.choose_spec.2.1
  unfold DeliveryTracker.mark
  rw [found]
  exact change_holding holds same moves

theorem sent_holding (now : Rat) (holds : Holding base d status t) : Holding base d Settled (t.mark d.moment.uuid4 (.markSent now)) :=
  mark_holding holds (fun _ => ⟨rfl,rfl,rfl⟩) fun _ _ sent => by cases sent

theorem delivered_holding (now : Rat) (holds : Holding base d status t) :
    Holding base d Settled (t.mark d.moment.uuid4 (.markDelivered now)) :=
  mark_holding holds (fun _ => ⟨rfl,rfl,rfl⟩) fun _ _ sent => by cases sent

theorem failed_holding (now : Rat) (reason : String) (holds : Holding base d status t) :
    Holding base d Settled (t.mark d.moment.uuid4 (.markFailed now reason)) :=
  mark_holding holds (fun _ => ⟨rfl,rfl,rfl⟩) fun _ _ failed => by cases failed

theorem limited_holding (holds : Holding base d status t) : Holding base d Settled (t.mark d.moment.uuid4 .markRateLimited) :=
  mark_holding holds (fun _ => ⟨rfl,rfl,rfl⟩) fun _ _ limited => by cases limited

end Tracker

-- After the provider has returned, a sender settles its record and does nothing else.
structure Settles (d : NotificationDelivery) (reference : Nat) (s t : ServiceState) : Prop where
  calls : t.calls = s.calls
  buckets : t.buckets = s.buckets
  settled : ∀ base, base.length = reference → Holding base d (fun _ => True) s.tracker → Holding base d Settled t.tracker

theorem annotated_settles (d : NotificationDelivery) (reference : Nat) (key : String) (value : Value) (now : Rat) (s : ServiceState) :
    Settles d reference s (annotate reference key value (marks d (.markSent now) s)) := by
  refine ⟨rfl,rfl,?_⟩
  intro base same holds
  subst same
  exact change_holding (sent_holding now holds) (fun _ => ⟨rfl,rfl,rfl⟩) fun _ settled => settled

theorem delivered_settles (d : NotificationDelivery) (reference : Nat) (now : Rat) (s : ServiceState) :
    Settles d reference s (marks d (.markDelivered now) s) :=
  ⟨rfl,rfl,fun _ _ holds => delivered_holding now holds⟩

-- What a sender does: it makes at most one call, to the provider of its channel.
inductive Sends (d : NotificationDelivery) (reference : Nat) (s : ServiceState) : Except String Unit → ServiceState → Prop where
  | refused (e : String) : Sends d reference s (.error e) s
  | raised (request : ProviderRequest) (e : String) : Sends d reference s (.error e) (called d request s)
  | returned (request : ProviderRequest) (t : ServiceState) (settles : Settles d reference (called d request s) t) :
    Sends d reference s (.ok ()) t

theorem provided_sends (d : NotificationDelivery) (reference : Nat) (request : Except String ProviderRequest)
    (finish : Record → Effect ServiceState Unit)
    (settles : ∀ result s, ∃ t, finish result s = (.ok (),t) ∧ Settles d reference s t) (s : ServiceState) :
    Sends d reference s ((ofExcept request >>= fun made => provide d made >>= finish) s).1
      ((ofExcept request >>= fun made => provide d made >>= finish) s).2 := by
  cases request with
  | error e => exact .refused e
  | ok made =>
    rw [ofExcept_bind _ s rfl]
    cases result : d.moment.result with
    | error e =>
      have ran : provide d made s = (.error e,called d made s) := by rw [provide,result]; rfl
      rw [bind_error finish ran]
      exact .raised made e
    | ok answer =>
      have ran : provide d made s = (.ok answer,called d made s) := by rw [provide,result]; rfl
      obtain ⟨t,finished,settled⟩ := settles answer (called d made s)
      rw [bind_ok finish ran,finished]
      exact .returned made t settled

theorem dispatch_sends (d : NotificationDelivery) (reference : Nat) (s : ServiceState) :
    Sends d reference s (c.dispatch d reference s).1 (c.dispatch d reference s).2 := by
  unfold dispatch
  cases d.channel with
  | email => exact provided_sends d reference _ _ (fun _ _ => ⟨_,rfl,annotated_settles _ _ _ _ _ _⟩) s
  | sms => exact provided_sends d reference _ _ (fun _ _ => ⟨_,rfl,annotated_settles _ _ _ _ _ _⟩) s
  | webhook => exact provided_sends d reference _ _ (fun _ _ => ⟨_,rfl,delivered_settles _ _ _ _⟩) s
  | inApp =>
    apply provided_sends d reference _ _ _ s
    intro result t
    split
    · exact ⟨_,rfl,delivered_settles _ _ _ _⟩
    · exact ⟨_,rfl,annotated_settles _ _ _ _ _ _⟩

-- The channel is enabled for the recipient at the severity, and the recipient is not in
-- quiet hours or the alert is critical.
def Open (d : NotificationDelivery) : Prop :=
  d.preferences.isChannelEnabled d.recipient d.channel d.alert.severity = true ∧
    (d.preferences.isInQuietHours d.moment.currentHour d.recipient = false ∨ d.alert.severity = .critical)

inductive Outcome (d : NotificationDelivery) (s t : ServiceState) : Prop where
  | closed (calls : t.calls = s.calls) (buckets : t.buckets = s.buckets)
  | limited (denied : (c.admission d s.buckets).1 = false) (calls : t.calls = s.calls) (buckets : t.buckets = (c.admission d s.buckets).2)
  | dispatched (opened : Open d) (admitted : (c.admission d s.buckets).1 = true) (buckets : t.buckets = (c.admission d s.buckets).2)
    (calls : t.calls = s.calls ∨ ∃ request, t.calls = s.calls ++ [calledWith d request])

-- What one delivery does: it adds its record, settled, and one of three things happens.
theorem deliver_exact (d : NotificationDelivery) (s : ServiceState) :
    (c.deliverToChannel d s).1 = s.tracker.objects.length ∧
      Holding s.tracker.objects d Settled (c.deliverToChannel d s).2.tracker ∧ c.Outcome d s (c.deliverToChannel d s).2 := by
  have made := created_holding d s
  unfold deliverToChannel
  simp only
  split
  · exact ⟨rfl,failed_holding _ _ made,.closed rfl rfl⟩
  rename_i enabled
  split
  · exact ⟨rfl,failed_holding _ _ made,.closed rfl rfl⟩
  rename_i awake
  have opened : Open d := by
    refine ⟨eq_true_of_ne_false enabled,?_⟩
    by_cases critical : d.alert.severity = .critical
    · exact .inr critical
    · exact .inl (eq_false_of_ne_true fun quiet => awake ⟨critical,quiet⟩)
  split
  · rename_i denied
    exact ⟨rfl,limited_holding made,.limited denied rfl rfl⟩
  rename_i admitted
  have allowed : (c.admission d s.buckets).1 = true := eq_true_of_ne_false admitted
  refine ⟨rfl,?_⟩
  generalize after : ({created d s with buckets := (c.admission d (created d s).buckets).2} : ServiceState) = u
  have held : Holding s.tracker.objects d (fun _ => True) u.tracker := by rw [← after]; exact made
  have calls : u.calls = s.calls := by rw [← after]; rfl
  have buckets : u.buckets = (c.admission d s.buckets).2 := by rw [← after]; rfl
  have sends := c.dispatch_sends d s.tracker.objects.length u
  rcases ran : c.dispatch d s.tracker.objects.length u with ⟨outcome,v⟩
  rw [ran] at sends
  cases outcome with
  | error e =>
    rw [attempt_error _ ran]
    rcases sends with _ | ⟨request,_⟩
    · exact ⟨failed_holding _ _ held,.dispatched opened allowed buckets (.inl calls)⟩
    · exact ⟨failed_holding _ _ held,.dispatched opened allowed buckets (.inr ⟨request,congrArg (· ++ [_]) calls⟩)⟩
  | ok answer =>
    rw [attempt_ok _ ran]
    rcases sends with _ | _ | ⟨request,_,settles⟩
    exact ⟨settles.settled _ rfl held,.dispatched opened allowed (settles.buckets.trans buckets)
      (.inr ⟨request,settles.calls.trans (congrArg (· ++ [_]) calls)⟩)⟩

-- One record for each pair, in order, none of them pending.
def Recorded (s : ServiceState) (call : NotifyCall) : Prop :=
  ∃ records, (c.notify call s).2.tracker.objects = s.tracker.objects ++ records ∧
    (c.notify call s).1 = List.range' s.tracker.objects.length records.length ∧
    records.map (fun r => (r.recipient,r.channel)) = pairs call ∧ ∀ r ∈ records, r.alertId = call.alert.alertId ∧ r.status ≠ .pending

theorem deliverAll_records (ds : List NotificationDelivery) (s : ServiceState) :
    ∃ records, (c.deliverAll s ds).2.tracker.objects = s.tracker.objects ++ records ∧
      (c.deliverAll s ds).1 = List.range' s.tracker.objects.length records.length ∧
      List.Forall₂ (fun d r => r.alertId = d.alert.alertId ∧ (r.recipient,r.channel) = (d.recipient,d.channel) ∧ r.status ≠ .pending) ds records := by
  induction ds generalizing s with
  | nil => exact ⟨[],(List.append_nil _).symm,rfl,.nil⟩
  | cons d rest ih =>
    obtain ⟨first,⟨r,objects,_,alert,recipient,channel,settled⟩,_⟩ := c.deliver_exact d s
    obtain ⟨records,others,references,all⟩ := ih (c.deliverToChannel d s).2
    refine ⟨r :: records,?_,?_,.cons ⟨alert,by rw [recipient,channel],settled⟩ all⟩
    · rw [deliverAll]
      simp only
      rw [others,objects,List.append_assoc,List.singleton_append]
    · rw [deliverAll]
      simp only
      rw [first,references,objects,List.length_append,List.length_singleton,List.length_cons,List.range'_succ]

theorem deliveries_pairs (call : NotifyCall) : (c.deliveries call).map (fun d => (d.recipient,d.channel)) = pairs call := by
  unfold deliveries
  rw [List.map_map]
  exact List.zipIdx_map_fst 0 (pairs call)

theorem notify_recorded (s : ServiceState) (call : NotifyCall) : c.Recorded s call := by
  obtain ⟨records,objects,references,all⟩ := c.deliverAll_records (c.deliveries call) s
  refine ⟨records,objects,references,?_,?_⟩
  · rw [← c.deliveries_pairs call]
    clear objects references
    generalize c.deliveries call = ds at all ⊢
    induction all with
    | nil => rfl
    | cons same _ ih => rw [List.map_cons,List.map_cons,ih,same.2.1]
  · intro r member
    obtain ⟨n,bound,found⟩ := List.getElem_of_mem member
    have inside : n < (c.deliveries call).length := all.length_eq ▸ bound
    have same := all.get inside bound
    rw [List.get_eq_getElem,List.get_eq_getElem,found] at same
    obtain ⟨entry,_,made⟩ := List.mem_map.mp (List.getElem_mem inside)
    refine ⟨same.1.trans ?_,same.2.2⟩
    rw [← made]
    rfl

-- A call to a provider is for the pair, and all of its gates are open.
def Gated (s : ServiceState) (d : NotificationDelivery) : Prop :=
  (c.deliverToChannel d s).2.calls = s.calls ∨
    Open d ∧ (d.overrideRateLimit = true ∨ (NotificationRateLimiter.isAllowed c.defaultLimit d.moment.time d.recipient
      (some (d.preferences.getPreference d.recipient).rateLimitPerHour) s.buckets).1 = true) ∧
    ∃ request, (c.deliverToChannel d s).2.calls = s.calls ++ [calledWith d request]

theorem deliver_gated (s : ServiceState) (d : NotificationDelivery) : c.Gated s d := by
  rcases (c.deliver_exact d s).2.2 with ⟨calls,_⟩ | ⟨_,calls,_⟩ | ⟨opened,admitted,_,calls⟩
  · exact .inl calls
  · exact .inl calls
  rcases calls with same | made
  · exact .inl same
  refine .inr ⟨opened,?_,made⟩
  unfold admission at admitted
  split at admitted
  · rename_i overridden
    exact .inl overridden
  · exact .inr admitted

section Hour

-- When the providers were called for the recipient without the override.
def callTimes (recipient : String) (calls : List ProviderCall) : List Rat :=
  (calls.filter fun call => decide (call.recipient = recipient) && !call.overrideRateLimit).map ProviderCall.time

def Throttled (recipient : String) (limit : Nat) (now : Rat) (s : ServiceState) : Prop :=
  ∃ log, Limited 3600 limit now (s.buckets.getD recipient []) log ∧ (callTimes recipient s.calls).Sublist log

variable {c} {recipient : String} {limit : Int} {now : Rat} {s : ServiceState} {d : NotificationDelivery}

theorem callTimes_other (other : d.recipient ≠ recipient ∨ d.overrideRateLimit = true) (request : ProviderRequest) (calls : List ProviderCall) :
    callTimes recipient (calls ++ [calledWith d request]) = callTimes recipient calls := by
  rcases other with different | overridden
  · simp [callTimes,calledWith,different]
  · simp [callTimes,calledWith,overridden]

theorem admission_other (other : d.recipient ≠ recipient ∨ d.overrideRateLimit = true) :
    (c.admission d buckets).2.getD recipient [] = buckets.getD recipient [] := by
  unfold admission NotificationRateLimiter.isAllowed OrderedDict.getD
  rcases other with different | overridden
  · split
    · rfl
    · simp only
      split <;> simp [OrderedDict.get?_set,Ne.symm different]
  · rw [if_pos overridden]

-- A delivery to someone else, or with the override, leaves what is counted alone.
theorem deliver_other (other : d.recipient ≠ recipient ∨ d.overrideRateLimit = true) :
    callTimes recipient (c.deliverToChannel d s).2.calls = callTimes recipient s.calls ∧
      (c.deliverToChannel d s).2.buckets.getD recipient [] = s.buckets.getD recipient [] := by
  rcases (c.deliver_exact d s).2.2 with ⟨calls,buckets⟩ | ⟨_,calls,buckets⟩ | ⟨_,_,buckets,same | ⟨request,made⟩⟩
  · rw [calls,buckets]
    exact ⟨rfl,rfl⟩
  · rw [calls,buckets]
    exact ⟨rfl,admission_other other⟩
  · rw [same,buckets]
    exact ⟨rfl,admission_other other⟩
  · rw [made,buckets]
    exact ⟨callTimes_other other request _,admission_other other⟩

-- What the limiter does with the bucket of the recipient.
theorem admission_own (direct : d.overrideRateLimit = false)
    (same : (d.preferences.getPreference d.recipient).rateLimitPerHour = limit) (buckets : DeliveryBuckets) :
    ((c.admission d buckets).1 = false ∧
      (c.admission d buckets).2.getD d.recipient [] = recent 3600 d.moment.time (buckets.getD d.recipient [])) ∨
    ((c.admission d buckets).1 = true ∧ (recent 3600 d.moment.time (buckets.getD d.recipient [])).length < limit.toNat ∧
      (c.admission d buckets).2.getD d.recipient [] = recent 3600 d.moment.time (buckets.getD d.recipient []) ++ [d.moment.time]) := by
  unfold admission NotificationRateLimiter.isAllowed
  rw [direct,same,if_neg Bool.false_ne_true]
  simp only [Option.getD_some]
  split
  · exact .inl ⟨rfl,by rw [OrderedDict.getD_set,if_pos rfl]⟩
  · rename_i room
    exact .inr ⟨rfl,by omega,by rw [OrderedDict.getD_set,if_pos rfl]⟩

theorem deliver_throttled (holds : Throttled recipient limit.toNat now s) (later : now ≤ d.moment.time)
    (constant : (d.preferences.getPreference recipient).rateLimitPerHour = limit) :
    Throttled recipient limit.toNat d.moment.time (c.deliverToChannel d s).2 := by
  obtain ⟨log,limited,part⟩ := holds
  have moved := limited.later later
  by_cases other : d.recipient ≠ recipient ∨ d.overrideRateLimit = true
  · obtain ⟨calls,bucket⟩ := deliver_other (c := c) (s := s) other
    exact ⟨log,by rw [bucket]; exact moved,by rw [calls]; exact part⟩
  obtain ⟨rfl,counted⟩ := not_or.mp other |>.imp not_not.mp id
  have direct : d.overrideRateLimit = false := Bool.not_eq_true _ ▸ counted
  rcases (c.deliver_exact d s).2.2 with ⟨calls,buckets⟩ | ⟨denied,calls,buckets⟩ | ⟨_,admitted,buckets,calls⟩
  · exact ⟨log,by rw [buckets]; exact moved,by rw [calls]; exact part⟩
  · rcases admission_own direct constant s.buckets with ⟨_,bucket⟩ | ⟨allowed,_⟩
    · exact ⟨log,by rw [buckets,bucket]; exact moved.pruned (.inr rfl),by rw [calls]; exact part⟩
    · rw [denied] at allowed
      cases allowed
  · rcases admission_own direct constant s.buckets with ⟨denied,_⟩ | ⟨_,room,bucket⟩
    · rw [admitted] at denied
      cases denied
    · refine ⟨log ++ [d.moment.time],by rw [buckets,bucket]; exact moved.add room,?_⟩
      rcases calls with same | ⟨request,made⟩
      · rw [same]
        exact part.trans (List.sublist_append_left _ _)
      · rw [made]
        have added : callTimes d.recipient (s.calls ++ [calledWith d request]) = callTimes d.recipient s.calls ++ [d.moment.time] := by
          simp [callTimes,calledWith,direct]
        rw [added]
        exact part.append (List.Sublist.refl _)

theorem deliverAll_throttled (ds : List NotificationDelivery) (holds : Throttled recipient limit.toNat now s)
    (later : ∀ d ∈ ds, now ≤ d.moment.time) (ordered : (ds.map fun d => d.moment.time).Pairwise (· ≤ ·))
    (constant : ∀ d ∈ ds, (d.preferences.getPreference recipient).rateLimitPerHour = limit) :
    ∃ last, Throttled recipient limit.toNat last (c.deliverAll s ds).2 := by
  induction ds generalizing now s with
  | nil => exact ⟨now,holds⟩
  | cons d rest ih =>
    obtain ⟨first,others⟩ := List.pairwise_cons.mp ordered
    have step := deliver_throttled (c := c) holds (later d List.mem_cons_self) (constant d List.mem_cons_self)
    apply ih step _ others fun other member => constant other (List.mem_cons_of_mem _ member)
    exact fun other member => first _ (List.mem_map_of_mem member)

end Hour

theorem deliverAll_append (s : ServiceState) (first later : List NotificationDelivery) :
    (c.deliverAll s (first ++ later)).2 = (c.deliverAll (c.deliverAll s first).2 later).2 := by
  induction first generalizing s with
  | nil => rfl
  | cons d rest ih => exact ih (c.deliverToChannel d s).2

def notifyAll (s : ServiceState) (calls : List NotifyCall) : ServiceState := Runs.run (fun s call => (c.notify call s).2) s calls

theorem notifyAll_deliveries (s : ServiceState) (calls : List NotifyCall) :
    c.notifyAll s calls = (c.deliverAll s (calls.flatMap c.deliveries)).2 := by
  induction calls generalizing s with
  | nil => rfl
  | cons call rest ih =>
    rw [List.flatMap_cons,c.deliverAll_append]
    exact ih (c.notify call s).2

-- The readings of the clock in a sequence of calls.
def readings (calls : List NotifyCall) : List Rat := (calls.flatMap c.deliveries).map fun d => d.moment.time

theorem delivery_preferences {calls : List NotifyCall} {d : NotificationDelivery} (member : d ∈ calls.flatMap c.deliveries) :
    ∃ call ∈ calls, d.preferences = call.preferences := by
  obtain ⟨call,named,inside⟩ := List.mem_flatMap.mp member
  obtain ⟨entry,_,made⟩ := List.mem_map.mp inside
  exact ⟨call,named,by rw [← made]; rfl⟩

theorem hour_bounded (calls : List NotifyCall) (recipient : String) (limit : Int) (ordered : (c.readings calls).Pairwise (· ≤ ·))
    (constant : ∀ call ∈ calls, (call.preferences.getPreference recipient).rateLimitPerHour = limit) (position : Rat) :
    (within 3600 position (callTimes recipient (c.notifyAll .start calls).calls)).length ≤ limit.toNat := by
  rw [notifyAll_deliveries]
  have same : ∀ d ∈ calls.flatMap c.deliveries, (d.preferences.getPreference recipient).rateLimitPerHour = limit := by
    intro d member
    obtain ⟨call,named,equal⟩ := c.delivery_preferences member
    rw [equal]
    exact constant call named
  unfold readings at ordered
  generalize calls.flatMap c.deliveries = ds at ordered same ⊢
  have begins : ∃ now : Rat, ∀ d ∈ ds, now ≤ d.moment.time := by
    cases ds with
    | nil => exact ⟨0,fun _ member => by cases member⟩
    | cons d rest =>
      refine ⟨d.moment.time,fun other member => ?_⟩
      rcases List.mem_cons.mp member with rfl | later
      · exact le_rfl
      · exact (List.pairwise_cons.mp ordered).1 _ (List.mem_map_of_mem later)
  obtain ⟨now,later⟩ := begins
  have fresh : Throttled recipient limit.toNat now .start := ⟨[],Limited.start _ _,List.Sublist.refl _⟩
  obtain ⟨last,log,limited,part⟩ := deliverAll_throttled (c := c) ds fresh later ordered same
  exact (within_sublist part 3600 position).trans (limited.paced.bounded position)

theorem delivery_contract (calls : List NotifyCall) (recipient : String) (limit : Int) (ordered : (c.readings calls).Pairwise (· ≤ ·))
    (constant : ∀ call ∈ calls, (call.preferences.getPreference recipient).rateLimitPerHour = limit) :
    (∀ s call, c.Recorded s call) ∧ (∀ s d, c.Gated s d) ∧
      ∀ position, (within 3600 position (callTimes recipient (c.notifyAll .start calls).calls)).length ≤ limit.toNat :=
  ⟨c.notify_recorded,c.deliver_gated,c.hour_bounded calls recipient limit ordered constant⟩

def exampleService : NotificationService where
  str value := match value with
    | .str text => text
    | _ => "None"
  repr value := match value with
    | .str text => "'" ++ text ++ "'"
    | _ => "None"
  fixed2 value := if value = .float (.finite (9 / 10)) then .ok "0.90" else .error "unsupported format string"
  render alert _ := ⟨"Fraud Alert","Account " ++ alert.alertId,none⟩
  dashboardBaseUrl := "http://localhost:8501"
  emailProvider := true
  smsProvider := true
  websocketProvider := false
  defaultLimit := 10
  config := .empty

def exampleAlert : Alert :=
  ⟨"a1",.str "t1",.str "acct1",.mlScore,.critical,.open,.float (.finite (9 / 10)),.none,"",.dict [],.empty,[],none,none,none,0,0⟩

def exampleCall (time : Rat) : NotifyCall :=
  ⟨exampleAlert,["analyst-1"],none,false,⟨.empty,some 3⟩,fun n => ⟨String.ofList (List.replicate n 'u'),time,23,time,"2026-01-01",.ok .empty,time⟩⟩

theorem delivery_contract_analyst :
    (∀ s call, exampleService.Recorded s call) ∧ (∀ s d, exampleService.Gated s d) ∧
      ∀ position, (within 3600 position
        (callTimes "analyst-1" (exampleService.notifyAll .start [exampleCall 0,exampleCall 60]).calls)).length ≤ 3 := by
  apply exampleService.delivery_contract [exampleCall 0,exampleCall 60] "analyst-1" 3
  · decide +kernel
  · decide

end RiskPulse.NotificationService
