import Mathlib.Algebra.Order.Field.Rat
import Mathlib.Data.List.Dedup
import RiskPulse.Library.Runs
import RiskPulse.RuleAggregation

namespace RiskPulse.VelocityTracking
open RulesEngine VelocityTracker

-- A transaction that has been evaluated, as far as the tracker goes: its amount, when its
-- two events were recorded, and the number made of the card where the device has one.
structure TrackedTransaction where
  transaction : Record
  amount : PyFloat
  time : Rat
  deviceTime : Rat
  card : Option Int

-- The tracker, all that has been recorded in it, and the latest reading of the clock.
structure Tracked where
  tracker : VelocityTracker
  history : List TrackedTransaction
  latest : Rat

-- What an evaluation does with the tracker: it records the transaction, and each condition
-- on velocity, amounts or cardinality asks once, with the field and the value it goes by.
inductive TrackerAction where
  | record (transaction : Record) (now deviceNow : Rat)
  | velocity (field : String) (value : Value) (window : Int) (threshold : Value) (now : Rat)
  | cumulativeAmount (field : String) (value : Value) (window : Int) (now : Rat)
  | cardinality (groupBy countField : String) (value : Value) (window : Int) (now : Rat)

variable (h : RulesHost)

def accountEntity (value : Value) : String := "account:" ++ h.str value

def deviceEntity (value : Value) : String := "device:" ++ h.str value

def accountId (transaction : Record) : Value := transaction.getD "account_id" (.str "unknown")

def cardNumber (transaction : Record) : Option Int :=
  if (transaction.value "device_id").truthy then
    match h.hash (transaction.getD "card_last_four" (.str "")) with
    | .ok n => some (n % 10000)
    | .error _ => none
  else none

def recordingClock (now deviceNow : Rat) : EvaluationClock := ⟨now,deviceNow,fun _ => deviceNow,fun _ _ => deviceNow⟩

def step (s : Tracked) : TrackerAction → Tracked
  | .record transaction now deviceNow =>
    { tracker := (recordVelocity h (recordingClock now deviceNow) transaction (accountId transaction) s.tracker).2
      history :=
        match transactionAmount h transaction with
        | .ok amount => s.history ++ [⟨transaction,amount,now,deviceNow,cardNumber h transaction⟩]
        | .error _ => s.history
      latest := deviceNow}
  | .velocity _ value window threshold now =>
    {s with tracker := (getCount (fun _ => now) (accountEntity h value) window threshold s.tracker).2, latest := now}
  | .cumulativeAmount _ value window now =>
    {s with tracker := (getCumulativeAmount h (fun _ => now) (accountEntity h value) window s.tracker).2, latest := now}
  | .cardinality _ _ value window now =>
    {s with tracker := (getDistinctCount (fun _ => now) (deviceEntity h value) window s.tracker).2, latest := now}

def start : Tracked := ⟨⟨.empty,0⟩,[],0⟩

-- The transactions of the last window_seconds with the value in the field.
def matching (history : List TrackedTransaction) (time : TrackedTransaction → Rat) (field : String) (value : Value) (window : Int)
    (now : Rat) : List TrackedTransaction :=
  history.filter fun t => (t.transaction.value field).equals value && decide (now - window ≤ time t ∧ time t ≤ now)

def counted (threshold : Value) (count : Int) (amount : PyFloat) : Except String Int :=
  (withinThreshold threshold amount).map fun within => if within then count + 1 else count

-- The number of different values of a list.
def distinct {α : Type} (same : α → α → Bool) : List α → Nat
  | [] => 0
  | a :: rest => if rest.any (same a) then distinct same rest else distinct same rest + 1

-- A condition is told the number, the sum or the number of different values it asks for.
def Exact (s : Tracked) : TrackerAction → Prop
  | .record _ _ _ => True
  | .velocity field value window threshold now =>
    (getCount (fun _ => now) (accountEntity h value) window threshold s.tracker).1 =
      ((matching s.history TrackedTransaction.time field value window now).map TrackedTransaction.amount).foldlM (counted threshold) 0
  | .cumulativeAmount field value window now =>
    (getCumulativeAmount h (fun _ => now) (accountEntity h value) window s.tracker).1 =
      .ok (((matching s.history TrackedTransaction.time field value window now).map TrackedTransaction.amount).foldl h.plus (.finite 0))
  | .cardinality groupBy countField value window now =>
    (getDistinctCount (fun _ => now) (deviceEntity h value) window s.tracker).1 =
      .ok (distinct Value.equals ((matching s.history TrackedTransaction.deviceTime groupBy value window now).map
        fun t => t.transaction.value countField))

-- What a transaction has put under a key.
def entryUnder (key : String) (t : TrackedTransaction) : Option (Rat × PyFloat) :=
  if accountEntity h (accountId t.transaction) = key then some (t.time,t.amount)
  else if deviceEntity h (t.transaction.value "device_id") = key then t.card.map fun n : Int => (t.deviceTime,.finite (n : Rat))
  else none

def filed (history : List TrackedTransaction) (key : String) : List (TrackedTransaction × Rat × PyFloat) :=
  history.filterMap fun t => (entryUnder h key t).map fun entry => (t,entry)

def deque (s : Tracked) (key : String) : List (Rat × PyFloat) := s.tracker.events.getD key []

-- What was under the key and is no longer in its deque: the oldest entries.
def lost (s : Tracked) (key : String) : List (TrackedTransaction × Rat × PyFloat) :=
  (filed h s.history key).take ((filed h s.history key).length - (deque s key).length)

-- Of the transactions in the window those under the key are those with the value in the
-- field, and none of them is lost.
structure Clean (s : Tracked) (key field : String) (value : Value) (time : TrackedTransaction → Rat) (cutoff : Rat) : Prop where
  under : ∀ t ∈ s.history, cutoff ≤ time t → ((entryUnder h key t).isSome = true ↔ (t.transaction.value field).equals value = true)
  present : ∀ x ∈ lost h s key, x.2.1 < cutoff

-- A velocity condition asks for no event that it prunes itself; and the numbers made of the
-- cards tell the values of the counted field apart.
def Tracks (s : Tracked) : TrackerAction → Prop
  | .record _ _ _ => True
  | .velocity field value window _ now =>
    Clean h s (accountEntity h value) field value TrackedTransaction.time (now - window) ∧
      ∀ e ∈ deque s (accountEntity h value), now - window ≤ e.1 → now - maxWindow ≤ e.1
  | .cumulativeAmount field value window now =>
    Clean h s (accountEntity h value) field value TrackedTransaction.time (now - window)
  | .cardinality groupBy countField value window now =>
    Clean h s (deviceEntity h value) groupBy value TrackedTransaction.deviceTime (now - window) ∧
      (matching s.history TrackedTransaction.deviceTime groupBy value window now).Pairwise fun a b =>
        (a.card = b.card ↔ (a.transaction.value countField).equals (b.transaction.value countField) = true)

-- The clock does not go back.
def Forward (s : Tracked) : TrackerAction → Prop
  | .record _ now deviceNow => s.latest ≤ now ∧ now ≤ deviceNow
  | .velocity _ _ _ _ now | .cumulativeAmount _ _ _ now | .cardinality _ _ _ _ now => s.latest ≤ now

theorem entity_apart (first second : Value) : accountEntity h first ≠ deviceEntity h second := by
  intro same
  have letters := congrArg String.toList same
  simp [accountEntity,deviceEntity] at letters

theorem entry_account (value : Value) (t : TrackedTransaction) : entryUnder h (accountEntity h value) t =
    if accountEntity h (accountId t.transaction) = accountEntity h value then some (t.time,t.amount) else none := by
  unfold entryUnder
  split
  · rfl
  · rw [if_neg]
    exact fun same => entity_apart h _ _ same.symm

theorem entry_device (value : Value) (t : TrackedTransaction) : entryUnder h (deviceEntity h value) t =
    if deviceEntity h (t.transaction.value "device_id") = deviceEntity h value then
      t.card.map fun n : Int => (t.deviceTime,.finite (n : Rat))
    else none := by
  unfold entryUnder
  rw [if_neg (entity_apart h _ _)]

-- The deque of a key is the newest part of what was put under it.
def Filed (s : Tracked) : Prop := ∀ key, deque s key <:+ (filed h s.history key).map Prod.snd

theorem start_filed : Filed h start := fun _ => List.suffix_refl []

theorem recordEvent_deque (key other : String) (amount : PyFloat) (now : Rat) (t : VelocityTracker) :
    (recordEvent key amount now t).events.getD other [] =
      if other = key then (t.events.getD key [] ++ [(now,amount)]).drop ((t.events.getD key [] ++ [(now,amount)]).length - 10000)
      else t.events.getD other [] := by
  unfold recordEvent
  exact OrderedDict.getD_set _ _ _ _ _

theorem suffix_pushed {kept all : List (Rat × PyFloat)} (suffix : kept <:+ all) (n : Nat) (entry : Rat × PyFloat) :
    (kept ++ [entry]).drop n <:+ all ++ [entry] := by
  obtain ⟨before,split⟩ := suffix
  exact (List.drop_suffix n _).trans ⟨before,by rw [← split,List.append_assoc]⟩

theorem filed_append (history : List TrackedTransaction) (t : TrackedTransaction) (key : String) :
    (filed h (history ++ [t]) key).map Prod.snd = (filed h history key).map Prod.snd ++ (entryUnder h key t).toList := by
  unfold filed
  rw [List.filterMap_append,List.map_append]
  congr 1
  cases found : entryUnder h key t <;> simp [found]

theorem recordVelocity_run (clock : EvaluationClock) (transaction : Record) (id : Value) (t : VelocityTracker) :
    (recordVelocity h clock transaction id t).2 =
      match transactionAmount h transaction with
      | .error _ => t
      | .ok amount =>
        match cardNumber h transaction with
        | none => recordEvent (accountEntity h id) amount clock.account t
        | some n => recordEvent (deviceEntity h (transaction.value "device_id")) (.finite (n : Rat)) clock.device
            (recordEvent (accountEntity h id) amount clock.account t) := by
  unfold recordVelocity cardNumber
  cases amounts : transactionAmount h transaction with
  | error e => rw [Effect.ofExcept_failed _ _ rfl]
  | ok amount =>
    rw [Effect.ofExcept_bind _ _ rfl,Effect.modify_bind]
    simp only
    split
    · cases hashed : h.hash (transaction.getD "card_last_four" (.str "")) with
      | error e => rw [Effect.ofExcept_failed _ _ rfl]; rfl
      | ok n => rw [Effect.ofExcept_bind _ _ rfl]; rfl
    · rfl

theorem recordEvent_suffix (deque' : List (Rat × PyFloat)) (suffix : t.events.getD key [] <:+ deque') (amount : PyFloat) (now : Rat) :
    (recordEvent key amount now t).events.getD key [] <:+ deque' ++ [(now,amount)] := by
  rw [recordEvent_deque,if_pos rfl]
  exact suffix_pushed suffix _ _

theorem record_filed (s : Tracked) (before : Filed h s) (transaction : Record) (now deviceNow : Rat) :
    Filed h (step h s (.record transaction now deviceNow)) := by
  intro key
  unfold step deque
  simp only [recordVelocity_run]
  cases transactionAmount h transaction with
  | error e => exact before key
  | ok amount =>
    have old : s.tracker.events.getD key [] <:+ (filed h s.history key).map Prod.snd := before key
    rw [filed_append]
    by_cases account : accountEntity h (accountId transaction) = key
    · have entry : entryUnder h key ⟨transaction,amount,now,deviceNow,cardNumber h transaction⟩ = some (now,amount) := if_pos account
      rw [entry,Option.toList_some]
      subst account
      cases cardNumber h transaction with
      | none => exact recordEvent_suffix _ old amount now
      | some n =>
        simp only
        rw [recordEvent_deque,if_neg (entity_apart h _ _)]
        exact recordEvent_suffix _ old amount now
    · have other : (recordEvent (accountEntity h (accountId transaction)) amount now s.tracker).events.getD key [] =
          s.tracker.events.getD key [] := by rw [recordEvent_deque,if_neg (Ne.symm account)]
      unfold entryUnder
      rw [if_neg account]
      cases card : cardNumber h transaction with
      | none =>
        simp only [recordingClock,other,Option.map_none,ite_self,Option.toList_none,List.append_nil]
        exact old
      | some n =>
        by_cases device : deviceEntity h (transaction.value "device_id") = key
        · subst device
          simp only [recordingClock,if_true,Option.map_some,Option.toList_some]
          rw [← other] at old
          exact recordEvent_suffix _ old _ deviceNow
        · simp only [recordingClock,if_neg device,Option.toList_none,List.append_nil]
          rw [recordEvent_deque,if_neg (Ne.symm device),other]
          exact old

-- What a condition of each kind does with the deque of its key.
theorem getCount_run (now : Rat) (key : String) (window : Int) (threshold : Value) (t : VelocityTracker) :
    (getCount (fun _ => now) key window threshold t).1 =
        ((t.events.getD key []).dropWhile fun e => decide (e.1 < now - maxWindow)).foldlM (countEvents (now - window) threshold) 0 ∧
      ∀ other, (getCount (fun _ => now) key window threshold t).2.events.getD other [] =
        if other = key then (t.events.getD key []).dropWhile fun e => decide (e.1 < now - maxWindow) else t.events.getD other [] := by
  have read : getCount (fun _ => now) key window threshold t =
      (if t.events.getD key [] = [] then pure 0
        else do
          Effect.modify fun u => {u with
            events := u.events.set key ((t.events.getD key []).dropWhile fun e => decide (e.1 < now - maxWindow))}
          Effect.ofExcept (((t.events.getD key []).dropWhile fun e => decide (e.1 < now - maxWindow)).foldlM
            (countEvents (now - window) threshold) 0) : Effect VelocityTracker Int) {t with readings := t.readings + 1} := rfl
  rw [read]
  by_cases empty : t.events.getD key [] = []
  · rw [if_pos empty,empty]
    refine ⟨rfl,fun other => ?_⟩
    split
    · rename_i same
      rw [same]
      exact empty
    · rfl
  · rw [if_neg empty,Effect.modify_bind]
    refine ⟨rfl,fun other => ?_⟩
    change (t.events.set key _).getD other [] = _
    exact OrderedDict.getD_set _ _ _ _ _

theorem getCumulativeAmount_run (now : Rat) (key : String) (window : Int) (t : VelocityTracker) :
    (getCumulativeAmount h (fun _ => now) key window t).1 =
        .ok ((inWindow (now - window) (t.events.getD key [])).foldl h.plus (.finite 0)) ∧
      (getCumulativeAmount h (fun _ => now) key window t).2.events = t.events := ⟨rfl,rfl⟩

theorem getDistinctCount_run (now : Rat) (key : String) (window : Int) (t : VelocityTracker) :
    (getDistinctCount (fun _ => now) key window t).1 = .ok ((inWindow (now - window) (t.events.getD key [])).dedup.length : Int) ∧
      (getDistinctCount (fun _ => now) key window t).2.events = t.events := ⟨rfl,rfl⟩

theorem step_filed (s : Tracked) (before : Filed h s) (action : TrackerAction) : Filed h (step h s action) := by
  cases action with
  | record transaction now deviceNow => exact record_filed h s before transaction now deviceNow
  | velocity field value window threshold now =>
    intro key
    have pruned := (getCount_run now (accountEntity h value) window threshold s.tracker).2 key
    unfold step deque
    dsimp only
    rw [pruned]
    split
    · rename_i same
      subst same
      exact (List.dropWhile_suffix _).trans (before _)
    · exact before key
  | cumulativeAmount field value window now => exact before
  | cardinality groupBy countField value window now => exact before

section Window
variable {time : TrackedTransaction → Rat} {number : TrackedTransaction → PyFloat}

theorem filed_cons (t : TrackedTransaction) (history : List TrackedTransaction) (key : String) :
    filed h (t :: history) key = ((entryUnder h key t).map fun entry => (t,entry)).toList ++ filed h history key := by
  unfold filed
  cases found : entryUnder h key t <;> simp [found]

-- Of what was put under a key the part in the window is what the transactions in the
-- window with the value in the field come to.
theorem filed_window (history : List TrackedTransaction) (key : String) (cutoff now : Rat) (field : String) (value : Value)
    (shape : ∀ t entry, entryUnder h key t = some entry → entry = (time t,number t)) (past : ∀ t ∈ history, time t ≤ now)
    (under : ∀ t ∈ history, cutoff ≤ time t → ((entryUnder h key t).isSome = true ↔ (t.transaction.value field).equals value = true)) :
    ((filed h history key).filter fun x => decide (cutoff ≤ x.2.1)).map (fun x => x.2.2) =
      (history.filter fun t => (t.transaction.value field).equals value && decide (cutoff ≤ time t ∧ time t ≤ now)).map number := by
  induction history with
  | nil => rfl
  | cons t rest ih =>
    have others := ih (fun u member => past u (List.mem_cons_of_mem _ member))
      fun u member => under u (List.mem_cons_of_mem _ member)
    have here := under t List.mem_cons_self
    have early := past t List.mem_cons_self
    rw [filed_cons,List.filter_append,List.map_append,others,List.filter_cons]
    by_cases inside : cutoff ≤ time t
    · cases found : entryUnder h key t with
      | none =>
        rw [found] at here
        have unequal : (t.transaction.value field).equals value = false := by simpa using here inside
        simp [unequal]
      | some entry =>
        rw [found] at here
        have equal : (t.transaction.value field).equals value = true := (here inside).mp rfl
        simp [shape t entry found,equal,inside,early]
    · cases found : entryUnder h key t with
      | none => simp [inside]
      | some entry => simp [shape t entry found,inside]

theorem inWindow_map (cutoff : Rat) (entries : List (TrackedTransaction × Rat × PyFloat)) :
    inWindow cutoff (entries.map Prod.snd) = (entries.filter fun x => decide (cutoff ≤ x.2.1)).map fun x => x.2.2 := by
  unfold inWindow
  rw [List.filter_map,List.map_map]
  rfl

theorem window_exact (s : Tracked) (filed' : Filed h s) (key field : String) (value : Value) (window : Int) (now : Rat)
    (clean : Clean h s key field value time (now - window)) (past : ∀ t ∈ s.history, time t ≤ now)
    (shape : ∀ t entry, entryUnder h key t = some entry → entry = (time t,number t)) :
    inWindow (now - window) (deque s key) = (matching s.history time field value window now).map number := by
  have kept : deque s key = ((filed h s.history key).drop ((filed h s.history key).length - (deque s key).length)).map Prod.snd := by
    have newest := List.suffix_iff_eq_drop.mp (filed' key)
    rw [List.length_map,← List.map_drop] at newest
    exact newest
  have none : (lost h s key).filter (fun x => decide (now - window ≤ x.2.1)) = [] := by
    apply List.filter_eq_nil_iff.mpr
    intro x member
    exact fun inside => absurd (clean.present x member) (not_lt.mpr (of_decide_eq_true inside))
  have whole := filed_window h s.history key (now - window) now field value shape past clean.under
  rw [← List.take_append_drop ((filed h s.history key).length - (deque s key).length) (filed h s.history key),List.filter_append] at whole
  unfold lost at none
  rw [none,List.nil_append] at whole
  rw [kept,inWindow_map]
  exact whole

end Window

theorem countEvents_window (cutoff : Rat) (threshold : Value) (events : List (Rat × PyFloat)) (n : Int) :
    events.foldlM (countEvents cutoff threshold) n = (inWindow cutoff events).foldlM (counted threshold) n := by
  induction events generalizing n with
  | nil => rfl
  | cons e rest ih =>
    rw [List.foldlM_cons]
    by_cases inside : cutoff ≤ e.1
    · have first : inWindow cutoff (e :: rest) = e.2 :: inWindow cutoff rest := by simp [inWindow,inside]
      rw [first,List.foldlM_cons,countEvents,if_pos inside]
      exact congrArg _ (funext ih)
    · have first : inWindow cutoff (e :: rest) = inWindow cutoff rest := by simp [inWindow,inside]
      rw [first,countEvents,if_neg inside]
      exact ih n

-- A condition that asks for no event it prunes sees all that are in the deque.
theorem inWindow_pruned (cutoff old : Rat) (events : List (Rat × PyFloat)) (young : ∀ e ∈ events, cutoff ≤ e.1 → old ≤ e.1) :
    inWindow cutoff (events.dropWhile fun e => decide (e.1 < old)) = inWindow cutoff events := by
  induction events with
  | nil => rfl
  | cons e rest ih =>
    rw [List.dropWhile_cons]
    split
    · rename_i pruned
      have outside : ¬cutoff ≤ e.1 := fun inside =>
        absurd (of_decide_eq_true pruned) (not_lt.mpr (young e List.mem_cons_self inside))
      have first : inWindow cutoff (e :: rest) = inWindow cutoff rest := by simp [inWindow,outside]
      rw [first]
      exact ih fun other member => young other (List.mem_cons_of_mem _ member)
    · rfl

theorem distinct_dedup [DecidableEq β] {α : Type} (f : α → β) (l : List α) :
    (l.map f).dedup.length = distinct (fun a b => decide (f a = f b)) l := by
  induction l with
  | nil => rfl
  | cons a rest ih =>
    have same : rest.any (fun b => decide (f a = f b)) = true ↔ f a ∈ rest.map f := by
      rw [List.any_eq_true,List.mem_map]
      exact ⟨fun ⟨b,member,equal⟩ => ⟨b,member,(of_decide_eq_true equal).symm⟩,
        fun ⟨b,member,equal⟩ => ⟨b,member,decide_eq_true equal.symm⟩⟩
    rw [List.map_cons,distinct]
    by_cases member : f a ∈ rest.map f
    · rw [List.dedup_cons_of_mem member,if_pos (same.mpr member),ih]
    · rw [List.dedup_cons_of_notMem member,if_neg (mt same.mp member),List.length_cons,ih]

theorem distinct_map {α β : Type} (same : β → β → Bool) (f : α → β) (l : List α) :
    distinct same (l.map f) = distinct (fun a b => same (f a) (f b)) l := by
  induction l with
  | nil => rfl
  | cons a rest ih =>
    simp only [List.map_cons,distinct,List.any_map,ih]
    rfl

theorem distinct_congr {α : Type} {same other : α → α → Bool} (l : List α) (agree : l.Pairwise fun a b => same a b = other a b) :
    distinct same l = distinct other l := by
  induction l with
  | nil => rfl
  | cons a rest ih =>
    obtain ⟨first,later⟩ := List.pairwise_cons.mp agree
    have any : rest.any (same a) = rest.any (other a) := by
      rw [Bool.eq_iff_iff,List.any_eq_true,List.any_eq_true]
      constructor <;> (rintro ⟨b,member,equal⟩; exact ⟨b,member,by rw [← equal,first b member]⟩)
    simp only [distinct,any,ih later]

-- What was recorded is not later than the clock.
def Past (s : Tracked) : Prop := ∀ t ∈ s.history, t.time ≤ s.latest ∧ t.deviceTime ≤ s.latest

structure Sound (s : Tracked) : Prop where
  filed : Filed h s
  past : Past s

theorem start_sound : Sound h start := ⟨start_filed h,fun _ member => by cases member⟩

theorem step_past (s : Tracked) (past : Past s) (action : TrackerAction) (forward : Forward s action) : Past (step h s action) := by
  have later : ∀ now, s.latest ≤ now → ∀ t ∈ s.history, t.time ≤ now ∧ t.deviceTime ≤ now :=
    fun now further t member => ⟨(past t member).1.trans further,(past t member).2.trans further⟩
  cases action with
  | record transaction now deviceNow =>
    obtain ⟨first,second⟩ := forward
    unfold step Past
    dsimp only
    cases transactionAmount h transaction with
    | error e => exact later deviceNow (first.trans second)
    | ok amount =>
      intro t member
      rcases List.mem_append.mp member with old | new
      · exact later deviceNow (first.trans second) t old
      · rw [List.mem_singleton.mp new]
        exact ⟨second,le_refl _⟩
  | velocity field value window threshold now => exact later now forward
  | cumulativeAmount field value window now => exact later now forward
  | cardinality groupBy countField value window now => exact later now forward

theorem step_sound (s : Tracked) (sound : Sound h s) (action : TrackerAction) (forward : Forward s action) :
    Sound h (step h s action) :=
  ⟨step_filed h s sound.filed action,step_past h s sound.past action forward⟩

theorem account_shape (value : Value) (t : TrackedTransaction) (entry : Rat × PyFloat)
    (found : entryUnder h (accountEntity h value) t = some entry) : entry = (t.time,t.amount) := by
  rw [entry_account] at found
  split at found
  · exact (Option.some.inj found).symm
  · cases found

def cardAmount (t : TrackedTransaction) : PyFloat := .finite ((t.card.getD 0 : Int) : Rat)

theorem device_shape (value : Value) (t : TrackedTransaction) (entry : Rat × PyFloat)
    (found : entryUnder h (deviceEntity h value) t = some entry) : t.card.isSome = true ∧ entry = (t.deviceTime,cardAmount t) := by
  rw [entry_device] at found
  split at found
  · cases card : t.card with
    | none =>
      rw [card] at found
      cases found
    | some n =>
      rw [card] at found
      refine ⟨rfl,?_⟩
      rw [cardAmount,card]
      exact (Option.some.inj found).symm
  · cases found

theorem cardAmount_inj {a b : TrackedTransaction} (first : a.card.isSome = true) (second : b.card.isSome = true) :
    cardAmount a = cardAmount b ↔ a.card = b.card := by
  obtain ⟨m,foundA⟩ := Option.isSome_iff_exists.mp first
  obtain ⟨n,foundB⟩ := Option.isSome_iff_exists.mp second
  simp [cardAmount,foundA,foundB]

theorem tracks_exact (s : Tracked) (sound : Sound h s) (action : TrackerAction) (forward : Forward s action)
    (tracks : Tracks h s action) : Exact h s action := by
  cases action with
  | record transaction now deviceNow => trivial
  | velocity field value window threshold now =>
    obtain ⟨clean,young⟩ := tracks
    have seen := window_exact h s sound.filed (accountEntity h value) field value window now clean
      (fun t member => (sound.past t member).1.trans forward) (account_shape h value)
    refine (getCount_run now (accountEntity h value) window threshold s.tracker).1.trans ?_
    have pruned := inWindow_pruned (now - window) (now - maxWindow) (deque s (accountEntity h value)) young
    rw [countEvents_window]
    exact congrArg (List.foldlM (counted threshold) 0) (pruned.trans seen)
  | cumulativeAmount field value window now =>
    have seen := window_exact h s sound.filed (accountEntity h value) field value window now tracks
      (fun t member => (sound.past t member).1.trans forward) (account_shape h value)
    refine (getCumulativeAmount_run h now (accountEntity h value) window s.tracker).1.trans ?_
    exact congrArg (fun amounts => Except.ok (amounts.foldl h.plus (.finite 0))) seen
  | cardinality groupBy countField value window now =>
    obtain ⟨clean,apart⟩ := tracks
    have seen := window_exact h s sound.filed (deviceEntity h value) groupBy value window now clean
      (fun t member => (sound.past t member).2.trans forward) fun t entry found => (device_shape h value t entry found).2
    refine (getDistinctCount_run now (deviceEntity h value) window s.tracker).1.trans ?_
    have carded : ∀ t ∈ matching s.history TrackedTransaction.deviceTime groupBy value window now, t.card.isSome = true := by
      intro t member
      obtain ⟨inside,chosen⟩ := List.mem_filter.mp member
      obtain ⟨equal,within⟩ := Bool.and_eq_true_iff.mp chosen
      obtain ⟨entry,found⟩ := Option.isSome_iff_exists.mp ((clean.under t inside (of_decide_eq_true within).1).mpr equal)
      exact (device_shape h value t entry found).1
    have agree : (matching s.history TrackedTransaction.deviceTime groupBy value window now).Pairwise fun a b =>
        decide (cardAmount a = cardAmount b) = (a.transaction.value countField).equals (b.transaction.value countField) := by
      refine apart.imp_of_mem fun first second same => ?_
      rw [Bool.eq_iff_iff,decide_eq_true_iff,cardAmount_inj (carded _ first) (carded _ second)]
      exact same
    have numbers : (inWindow (now - window) (deque s (deviceEntity h value))).dedup.length =
        distinct Value.equals ((matching s.history TrackedTransaction.deviceTime groupBy value window now).map
          fun t => t.transaction.value countField) := by
      rw [seen,distinct_dedup,distinct_map]
      exact distinct_congr _ agree
    exact congrArg (fun n : Nat => Except.ok (n : Int)) numbers

-- In a run whose conditions all keep to the terms each of them is told what it asks for.
theorem tracking_exact (actions : List TrackerAction) (forward : Runs.Along (step h) Forward start actions)
    (tracks : Runs.Along (step h) (Tracks h) start actions) : Runs.Along (step h) (Exact h) start actions :=
  Runs.along_gives (fun s action sound both => step_sound h s sound action both.1)
    (fun s action sound both => tracks_exact h s sound action both.1 both.2) (start_sound h) (Runs.along_and forward tracks)

def cardPayment : Record := .ofList [("account_id",.str "A-1"),("customer_id",.str "C-1"),("transaction_amount",.int 5)]

def askedAbout (field : String) (value : Value) : List TrackerAction :=
  [.record cardPayment 100 100,.velocity field value 300 .none 100]

theorem recorded_once : (step plainHost start (.record cardPayment 100 100)).history =
    [⟨cardPayment,.finite 5,100,100,none⟩] := rfl

theorem filed_once : deque (step plainHost start (.record cardPayment 100 100)) "account:A-1" = [(100,.finite 5)] := rfl

theorem account_asked_exact : Runs.Along (step plainHost) (Exact plainHost) start (askedAbout "account_id" (.str "A-1")) := by
  apply tracking_exact
  · refine ⟨⟨?_,?_⟩,?_,trivial⟩
    · change (0 : Rat) ≤ 100
      decide
    · exact le_refl _
    · exact le_refl _
  · refine ⟨trivial,⟨⟨?_,?_⟩,?_⟩,trivial⟩
    · intro t member _
      rw [recorded_once,List.mem_singleton] at member
      subst member
      exact ⟨fun _ => rfl,fun _ => rfl⟩
    · intro x member
      have none_lost : lost plainHost (step plainHost start (.record cardPayment 100 100)) "account:A-1" = [] := rfl
      rw [show accountEntity plainHost (.str "A-1") = "account:A-1" from rfl,none_lost] at member
      cases member
    · intro e member _
      rw [show accountEntity plainHost (.str "A-1") = "account:A-1" from rfl,filed_once,List.mem_singleton] at member
      subst member
      exact sub_le_self _ (show (0 : Rat) ≤ 86400 by decide)

theorem customer_asked_wrong :
    ¬Runs.Along (step plainHost) (Exact plainHost) start (askedAbout "customer_id" (.str "C-1")) := by
  intro given
  obtain ⟨_,told,_⟩ := given
  have inside : decide ((100 : Rat) - (300 : Int) ≤ 100 ∧ (100 : Rat) ≤ 100) = true := by decide +kernel
  have meant : matching (step plainHost start (.record cardPayment 100 100)).history TrackedTransaction.time "customer_id" (.str "C-1")
      300 100 = [⟨cardPayment,.finite 5,100,100,none⟩] := by
    rw [recorded_once]
    refine List.filter_cons_of_pos ?_
    exact Bool.and_eq_true_iff.mpr ⟨rfl,inside⟩
  have expected : Except.ok (0 : Int) = ((matching (step plainHost start (.record cardPayment 100 100)).history TrackedTransaction.time
      "customer_id" (.str "C-1") 300 100).map TrackedTransaction.amount).foldlM (counted .none) 0 := told
  rw [meant] at expected
  have one : Except.ok (0 : Int) = (Except.ok 1 : Except String Int) := expected
  cases one

section Evaluation

-- What an action does to the tracker.
def trackerStep (t : VelocityTracker) (action : TrackerAction) : VelocityTracker := (step h ⟨t,[],0⟩ action).tracker

theorem step_tracker (s : Tracked) (action : TrackerAction) : (step h s action).tracker = trackerStep h s.tracker action := by
  cases action <;> rfl

-- The question of a condition about this transaction.
def Asks (transaction : Record) : TrackerAction → Prop
  | .record _ _ _ => False
  | .velocity field value _ _ _ | .cumulativeAmount field value _ _ | .cardinality field _ value _ _ => value = transaction.value field

-- Between the two states of the tracker some questions have been asked.
def Asked (transaction : Record) (t u : VelocityTracker) : Prop :=
  ∃ asks : List TrackerAction, (∀ action ∈ asks, Asks transaction action) ∧
    ∀ other : VelocityTracker, other.events = t.events → (asks.foldl (trackerStep h) other).events = u.events

theorem asked_same (transaction : Record) (same : u.events = t.events) : Asked h transaction t u :=
  ⟨[],by simp,fun _ start => start.trans same.symm⟩

theorem asked_twice (transaction : Record) (t u v : VelocityTracker) (first : Asked h transaction t u)
    (second : Asked h transaction u v) : Asked h transaction t v := by
  obtain ⟨early,allEarly,reachEarly⟩ := first
  obtain ⟨late,allLate,reachLate⟩ := second
  refine ⟨early ++ late,?_,fun other start => ?_⟩
  · intro action member
    rcases List.mem_append.mp member with before | after
    · exact allEarly action before
    · exact allLate action after
  · rw [List.foldl_append]
    exact reachLate _ (reachEarly other start)

-- A condition asks one question, of which the answer is compared, or leaves the tracker alone.
theorem velocity_asked (clock : Nat → Rat) (condition : Value) (transaction : Record) (t : VelocityTracker) :
    (evaluateVelocity h clock condition transaction t).2 = t ∨ ∃ name field window threshold, ∃ maxCount : Int,
      condition.attributeGet "field" (.str "account_id") = .ok name ∧ field = h.str name ∧ evaluateVelocity h clock condition transaction t =
        ((getCount (fun _ => clock t.readings) (accountEntity h (transaction.value field)) window threshold t).1.map
            fun count => decide (maxCount < count),
          (getCount (fun _ => clock t.readings) (accountEntity h (transaction.value field)) window threshold t).2) := by
  unfold evaluateVelocity
  cases named : condition.attributeGet "field" (.str "account_id") with
  | error e => exact .inl rfl
  | ok field =>
    rw [Effect.ofExcept_bind _ t rfl]
    by_cases entity : (transaction.value (h.str field)).truthy = true
    · rw [if_pos entity]
      rcases Effect.ofExcept_run (condition.attributeGet "max_count" (.int 10) >>= h.int) _ t with ⟨e,ran⟩ | ⟨maxCount,ran⟩
      · exact .inl (by rw [ran])
      · rw [ran]
        rcases Effect.ofExcept_run (condition.attributeGet "time_window_seconds" (.int 300) >>= h.int) _ t with ⟨e,ran⟩ | ⟨window,ran⟩
        · exact .inl (by rw [ran])
        · rw [ran]
          rcases Effect.ofExcept_run (condition.attributeGet "amount_threshold" .none) _ t with ⟨e,ran⟩ | ⟨threshold,ran⟩
          · exact .inl (by rw [ran])
          · rw [ran]
            refine .inr ⟨field,h.str field,window,threshold,maxCount,rfl,rfl,?_⟩
            exact Effect.bind_pure _ _ t
    · rw [if_neg entity]
      exact .inl rfl

theorem cumulativeAmount_asked (clock : Nat → Rat) (condition : Value) (transaction : Record) (t : VelocityTracker) :
    (evaluateCumulativeAmount h clock condition transaction t).2 = t ∨ ∃ name field window maxAmount,
      condition.attributeGet "field" (.str "account_id") = .ok name ∧ field = h.str name ∧ evaluateCumulativeAmount h clock condition transaction t =
        ((getCumulativeAmount h (fun _ => clock t.readings) (accountEntity h (transaction.value field)) window t).1.map
            fun cumulative => cumulative.greater maxAmount,
          (getCumulativeAmount h (fun _ => clock t.readings) (accountEntity h (transaction.value field)) window t).2) := by
  unfold evaluateCumulativeAmount
  cases named : condition.attributeGet "field" (.str "account_id") with
  | error e => exact .inl rfl
  | ok field =>
    rw [Effect.ofExcept_bind _ t rfl]
    by_cases entity : (transaction.value (h.str field)).truthy = true
    · rw [if_pos entity]
      rcases Effect.ofExcept_run (condition.attributeGet "max_amount" (.float (.finite 100000)) >>= h.float) _ t with
        ⟨e,ran⟩ | ⟨maxAmount,ran⟩
      · exact .inl (by rw [ran])
      · rw [ran]
        rcases Effect.ofExcept_run (condition.attributeGet "time_window_seconds" (.int 86400) >>= h.int) _ t with
          ⟨e,ran⟩ | ⟨window,ran⟩
        · exact .inl (by rw [ran])
        · rw [ran]
          refine .inr ⟨field,h.str field,window,maxAmount,rfl,rfl,?_⟩
          exact Effect.bind_pure _ _ t
    · rw [if_neg entity]
      exact .inl rfl

theorem cardinality_asked (clock : Nat → Rat) (condition : Value) (transaction : Record) (t : VelocityTracker) :
    (evaluateCardinality h clock condition transaction t).2 = t ∨ ∃ groupBy countField window, ∃ maxDistinct : Int,
      condition.attributeGet "group_by" .none = .ok (.str groupBy) ∧ condition.attributeGet "count_field" .none = .ok (.str countField) ∧
        evaluateCardinality h clock condition transaction t =
        ((getDistinctCount (fun _ => clock t.readings) (deviceEntity h (transaction.value groupBy)) window t).1.map
            fun count => decide (maxDistinct < count),
          (getDistinctCount (fun _ => clock t.readings) (deviceEntity h (transaction.value groupBy)) window t).2) := by
  unfold evaluateCardinality
  cases grouped : condition.attributeGet "group_by" .none with
  | error e => exact .inl rfl
  | ok groupBy =>
    rw [Effect.ofExcept_bind _ t rfl]
    cases counting : condition.attributeGet "count_field" .none with
    | error e => exact .inl rfl
    | ok countField =>
      rw [Effect.ofExcept_bind _ t rfl]
      split
      · rename_i group text
        rcases Effect.ofExcept_run (condition.attributeGet "max_distinct" (.int 3) >>= h.int) _ t with ⟨e,ran⟩ | ⟨maxDistinct,ran⟩
        · exact .inl (by rw [ran])
        · rw [ran]
          rcases Effect.ofExcept_run (condition.attributeGet "time_window_seconds" (.int 3600) >>= h.int) _ t with
            ⟨e,ran⟩ | ⟨window,ran⟩
          · exact .inl (by rw [ran])
          · rw [ran]
            by_cases entity : (transaction.value group).truthy = true
            · rw [if_pos entity]
              refine .inr ⟨group,text,window,maxDistinct,rfl,rfl,?_⟩
              exact Effect.bind_pure _ _ t
            · rw [if_neg entity]
              exact .inl rfl
      · exact .inl rfl

theorem getCount_events (now : Rat) (key : String) (window : Int) (threshold : Value) (same : t.events = u.events) :
    (getCount (fun _ => now) key window threshold t).2.events = (getCount (fun _ => now) key window threshold u).2.events := by
  have ends : ∀ v : VelocityTracker, (getCount (fun _ => now) key window threshold v).2.events =
      if v.events.getD key [] = [] then v.events
      else v.events.set key ((v.events.getD key []).dropWhile fun e => decide (e.1 < now - maxWindow)) := by
    intro v
    unfold getCount
    rw [Effect.bind_ok _ (show time (fun _ => now) v = (.ok now,{v with readings := v.readings + 1}) from rfl),Effect.read_bind]
    split
    · rfl
    · rfl
  rw [ends,ends,same]

theorem trackerStep_events (transaction : Record) (action : TrackerAction) (asks : Asks transaction action) (same : t.events = u.events) :
    (trackerStep h t action).events = (trackerStep h u action).events := by
  cases action with
  | record _ _ _ => exact asks.elim
  | velocity field value window threshold now => exact getCount_events now _ window threshold same
  | cumulativeAmount field value window now => exact same
  | cardinality groupBy countField value window now => exact same

theorem asked_once (transaction : Record) (action : TrackerAction) (asks : Asks transaction action) (t : VelocityTracker) :
    Asked h transaction t (trackerStep h t action) := by
  refine ⟨[action],?_,fun other start => trackerStep_events h transaction action asks start⟩
  intro one member
  rw [List.mem_singleton.mp member]
  exact asks

theorem velocity_moves (clock : Nat → Rat) (condition : Value) (transaction : Record) :
    Effect.Moves (Asked h transaction) (evaluateVelocity h clock condition transaction) := by
  intro t
  rcases velocity_asked h clock condition transaction t with same | ⟨_,field,window,threshold,maxCount,_,_,ran⟩
  · rw [same]
    exact asked_same h transaction rfl
  · rw [ran]
    exact asked_once h transaction (.velocity field (transaction.value field) window threshold (clock t.readings)) rfl t

theorem cumulativeAmount_moves (clock : Nat → Rat) (condition : Value) (transaction : Record) :
    Effect.Moves (Asked h transaction) (evaluateCumulativeAmount h clock condition transaction) := by
  intro t
  rcases cumulativeAmount_asked h clock condition transaction t with same | ⟨_,field,window,maxAmount,_,_,ran⟩
  · rw [same]
    exact asked_same h transaction rfl
  · rw [ran]
    exact asked_once h transaction (.cumulativeAmount field (transaction.value field) window (clock t.readings)) rfl t

theorem cardinality_moves (clock : Nat → Rat) (condition : Value) (transaction : Record) :
    Effect.Moves (Asked h transaction) (evaluateCardinality h clock condition transaction) := by
  intro t
  rcases cardinality_asked h clock condition transaction t with same | ⟨groupBy,countField,window,maxDistinct,_,_,ran⟩
  · rw [same]
    exact asked_same h transaction rfl
  · rw [ran]
    exact asked_once h transaction (.cardinality groupBy countField (transaction.value groupBy) window (clock t.readings)) rfl t

theorem stays_moves (transaction : Record) {m : Effect VelocityTracker α} (same : ∀ t, (m t).2.events = t.events) :
    Effect.Moves (Asked h transaction) m := fun t => asked_same h transaction (same t)

theorem allOf_moves (transaction : Record) (evaluate : Value → Effect VelocityTracker Bool)
    (each : ∀ condition, Effect.Moves (Asked h transaction) (evaluate condition)) (conditions : List Value) :
    Effect.Moves (Asked h transaction) (allOf evaluate conditions) := by
  induction conditions with
  | nil => exact stays_moves h transaction fun _ => rfl
  | cons condition rest ih =>
    apply Effect.Moves.bind (asked_twice h transaction) (each condition)
    intro holds
    cases holds with
    | false => exact stays_moves h transaction fun _ => rfl
    | true => exact ih

theorem anyOf_moves (transaction : Record) (evaluate : Value → Effect VelocityTracker Bool)
    (each : ∀ condition, Effect.Moves (Asked h transaction) (evaluate condition)) (conditions : List Value) :
    Effect.Moves (Asked h transaction) (anyOf evaluate conditions) := by
  induction conditions with
  | nil => exact stays_moves h transaction fun _ => rfl
  | cons condition rest ih =>
    apply Effect.Moves.bind (asked_twice h transaction) (each condition)
    intro holds
    cases holds with
    | false => exact ih
    | true => exact stays_moves h transaction fun _ => rfl

-- By induction on the depth left: a condition asks its own question or those of its parts.
theorem evaluateCondition_moves (clock : Nat → Rat) (transaction : Record) (depth : Nat) (condition : Value) :
    Effect.Moves (Asked h transaction) (evaluateCondition h clock transaction depth condition) := by
  have joins := asked_twice h transaction
  induction depth generalizing condition with
  | zero => exact stays_moves h transaction fun _ => rfl
  | succ depth ih =>
    unfold evaluateCondition
    apply Effect.Moves.bind joins (stays_moves h transaction fun _ => rfl)
    intro type
    split
    · exact velocity_moves h clock condition transaction
    · exact cumulativeAmount_moves h clock condition transaction
    · exact stays_moves h transaction fun _ => rfl
    · exact cardinality_moves h clock condition transaction
    · exact stays_moves h transaction fun _ => rfl
    · apply Effect.Moves.bind joins (stays_moves h transaction fun _ => rfl)
      intro operator
      split
      · apply Effect.Moves.bind joins (stays_moves h transaction fun _ => rfl)
        exact allOf_moves h transaction _ ih
      · apply Effect.Moves.bind joins (stays_moves h transaction fun _ => rfl)
        exact anyOf_moves h transaction _ ih
      · exact stays_moves h transaction fun _ => rfl

theorem evaluateRule_moves (clock : EvaluationClock) (transaction : Record) (ids : Identified) (n : Nat) (rule : RuleDefinition) :
    Effect.Moves (Asked h transaction) (evaluateRule h clock transaction ids n rule) := by
  have joins := asked_twice h transaction
  unfold evaluateRule
  split
  · apply Effect.Moves.bind joins (stays_moves h transaction fun _ => rfl)
    intro active
    cases active with
    | false => exact stays_moves h transaction fun _ => rfl
    | true =>
      apply Effect.Moves.attempt joins
      · apply Effect.Moves.bind joins (stays_moves h transaction fun _ => rfl)
        intro _
        apply Effect.Moves.bind joins (evaluateCondition_moves h (clock.condition n) transaction h.recursionLimit rule.condition)
        intro triggered
        exact stays_moves h transaction fun _ => rfl
      · intro e
        exact stays_moves h transaction fun _ => rfl
  · exact stays_moves h transaction fun _ => rfl

theorem evaluateRules_moves (settings : EngineSettings) (clock : EvaluationClock) (transaction : Record) (ids : Identified)
    (rules : List RuleDefinition) (n : Nat) (t : Tally) :
    Effect.Moves (Asked h transaction) (evaluateRules h settings clock transaction ids n rules t) := by
  induction rules generalizing n t with
  | nil => exact stays_moves h transaction fun _ => rfl
  | cons rule rest ih =>
    apply Effect.Moves.bind (asked_twice h transaction) (evaluateRule_moves h clock transaction ids n rule)
    intro record
    split
    · dsimp only
      split
      · exact stays_moves h transaction fun _ => rfl
      · exact ih (n + 1) _
    · exact ih (n + 1) _

theorem recordVelocity_events (clock : EvaluationClock) (transaction : Record) (same : u.events = t.events) :
    (trackerStep h u (.record transaction clock.account clock.device)).events =
      (recordVelocity h clock transaction (accountId transaction) t).2.events := by
  unfold trackerStep step
  simp only [recordVelocity_run]
  cases transactionAmount h transaction with
  | error e => exact same
  | ok amount =>
    cases cardNumber h transaction with
    | none => simp only [recordEvent,recordingClock,same]
    | some n => simp only [recordEvent,recordingClock,same]

-- An evaluation records its transaction and then asks about it.
theorem evaluate_tracked (settings : EngineSettings) (clock : EvaluationClock) (transaction : Record) (uuid4 : String)
    (rules : List RuleDefinition) (t : VelocityTracker) :
    ∃ asks : List TrackerAction, (∀ action ∈ asks, Asks transaction action) ∧ ∀ other : VelocityTracker, other.events = t.events →
      ((.record transaction clock.account clock.device :: asks).foldl (trackerStep h) other).events =
        (evaluate h settings clock transaction uuid4 rules t).2.events := by
  have recorded : ∀ other : VelocityTracker, other.events = t.events → _ :=
    fun other same => recordVelocity_events h clock transaction same
  have later : ∀ ids : Identified, Effect.Moves (Asked h transaction) (do
      let tally ← evaluateRules h settings clock transaction ids 0 rules .start
      if settings.enableAudit && !tally.evaluations.all recordable then Effect.ofExcept (.error "unhashable type")
      else pure (tally.result ids)) := by
    intro ids
    apply Effect.Moves.bind (asked_twice h transaction) (evaluateRules_moves h settings clock transaction ids rules 0 .start)
    intro tally
    split
    · exact stays_moves h transaction fun _ => rfl
    · exact stays_moves h transaction fun _ => rfl
  unfold evaluate
  rw [Effect.bind_run]
  rcases ran : recordVelocity h clock transaction (identify uuid4 transaction).accountId t with ⟨outcome,s⟩
  have reached : (recordVelocity h clock transaction (accountId transaction) t).2 = s := congrArg Prod.snd ran
  rw [reached] at recorded
  cases outcome with
  | error e =>
    refine ⟨[],by simp,fun other same => ?_⟩
    exact recorded other same
  | ok _ =>
    obtain ⟨asks,all,reach⟩ := later (identify uuid4 transaction) s
    refine ⟨asks,all,fun other same => ?_⟩
    exact reach _ (recorded other same)

-- A transaction evaluated against the rules as they are then.
structure Evaluated where
  settings : EngineSettings
  clock : EvaluationClock
  transaction : Record
  uuid4 : String
  rules : List RuleDefinition

def Evaluated.run (t : VelocityTracker) (one : Evaluated) : VelocityTracker :=
  (evaluate h one.settings one.clock one.transaction one.uuid4 one.rules t).2

-- The actions of one evaluation.
def Evaluated.Acts (one : Evaluated) (actions : List TrackerAction) : Prop :=
  ∃ asks, (∀ action ∈ asks, Asks one.transaction action) ∧ actions = .record one.transaction one.clock.account one.clock.device :: asks

def cardEvaluation : Evaluated := ⟨⟨false,false⟩,⟨100,100,fun _ => 100,fun _ _ => 100⟩,cardPayment,"uuid",[]⟩

end Evaluation

end RiskPulse.VelocityTracking
