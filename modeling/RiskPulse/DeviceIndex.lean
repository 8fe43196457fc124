import RiskPulse.DeviceEnricher
import RiskPulse.FloatLaws
import RiskPulse.Library.Runs

namespace RiskPulse.DeviceEnricher
open InMemoryDeviceStore

variable (e : DeviceEnricher)

-- The activity a call records.
def activity (call : DeviceCall) (s : InMemoryDeviceStore) : Option DeviceActivity :=
  if (call.transaction.getD "device_id" (.str "")).truthy then (e.examined call s).2.toOption else none

-- The store, and the activities recorded so far.
structure Course where
  store : InMemoryDeviceStore
  recorded : List DeviceActivity

namespace Course

def start : Course := ⟨.empty,[]⟩

def ofDevice (s : Course) (deviceId : Value) : List DeviceActivity := s.recorded.filter fun a => decide (a.deviceId = deviceId)

def step (s : Course) (call : DeviceCall) : Course := ⟨(e.enrich call s.store).2,s.recorded ++ (e.activity call s.store).toList⟩

-- first_seen and last_seen are the extremes of the timestamps, a naive one taken as UTC.
structure Extremes (h : DeviceHistory) (activities : List DeviceActivity) : Prop where
  first : ∃ a ∈ activities, a.timestamp = h.firstSeen
  earliest : ∀ a ∈ activities, h.firstSeen.aware.instant ≤ a.timestamp.aware.instant
  last : ∃ a ∈ activities, a.timestamp = h.lastSeen
  latest : ∀ a ∈ activities, a.timestamp.aware.instant ≤ h.lastSeen.aware.instant

def Trusted (trust : PyFloat) : Prop := trust.ge (.finite (1 / 2)) = true ∧ (PyFloat.finite 1).ge trust = true

-- What holds of the store whatever the timestamps.
structure Indexed (s : Course) : Prop where
  inverse : ∀ deviceId customerId, deviceId ∈ s.store.getCustomerDevices customerId ↔
    ∃ h, s.store.getDeviceHistory deviceId = some h ∧ customerId ∈ h.customerIds
  counted : ∀ deviceId, ((s.store.getDeviceHistory deviceId).map DeviceHistory.transactionCount).getD 0 = (s.ofDevice deviceId).length
  trusted : ∀ deviceId h, s.store.getDeviceHistory deviceId = some h → Trusted h.trustScore

def Bounded (s : Course) : Prop := ∀ deviceId h, s.store.getDeviceHistory deviceId = some h → Extremes h (s.ofDevice deviceId)

-- From one state to the next no device loses trust.
def Trusting (s next : Course) : Prop := ∀ deviceId h, s.store.getDeviceHistory deviceId = some h →
  ∃ h', next.store.getDeviceHistory deviceId = some h' ∧ h'.trustScore.ge h.trustScore = true

-- The activity a call records is not before the last one recorded for its device.
def InOrder (s : Course) (call : DeviceCall) : Prop := ∀ a ∈ e.activity call s.store, ∀ h ∈ s.store.getDeviceHistory a.deviceId,
  h.lastSeen.aware.instant ≤ a.timestamp.aware.instant

-- What a call keeps, and the risk it reports.
structure Kept (s : Course) (call : DeviceCall) : Prop where
  indexed : Indexed (s.step e call)
  bounded : Bounded (s.step e call)
  trusting : Trusting s (s.step e call)
  risk : (e.enrich call s.store).1.deviceRiskScore.ge (.finite 0) = true ∧
    (PyFloat.finite 1).ge (e.enrich call s.store).1.deviceRiskScore = true

end Course

-- A call records its activity and changes nothing else.
theorem enrich_store (call : DeviceCall) (s : InMemoryDeviceStore) :
    (e.enrich call s).2 = ((e.activity call s).map (s.recordDeviceActivity e.host.float ·)).getD s := by
  unfold enrich activity
  split
  · obtain ⟨result,outcome⟩ := e.examined call s
    cases outcome with
    | error message => rfl
    | ok a => rfl
  · rfl

theorem checkHistory_risk (customer : Option Value) (now : Int) (history : Option DeviceHistory) (result : DeviceEnrichmentResult) :
    (e.checkHistory customer now history result).1.deviceRiskScore = result.deviceRiskScore := by
  unfold checkHistory
  split
  · rfl
  · split
    · rfl
    · dsimp only
      split <;> rfl

-- A risk is nothing yet, or the score of what was found out.
theorem examined_risk (call : DeviceCall) (s : InMemoryDeviceStore) :
    (e.examined call s).1.deviceRiskScore = .finite 0 ∨ ∃ result, (e.examined call s).1.deviceRiskScore = computeRiskScore e.host.float result := by
  unfold examined
  dsimp only
  cases e.parseDeviceInfo call.transaction with
  | error message => exact .inl rfl
  | ok info =>
    cases (call.transaction.getD "device_id" (.str "")).dictKey with
    | none => exact .inl rfl
    | some device =>
      dsimp only
      split
      · rename_i looked message found
        exact .inl ((congrArg (fun pair => pair.1.deviceRiskScore) found).symm.trans (checkHistory_risk e _ _ _ _))
      · rename_i looked found
        have unread := (congrArg (fun pair => pair.1.deviceRiskScore) found).symm.trans (checkHistory_risk e _ _ _ _)
        split
        · exact .inl unread
        · rename_i checked _
          split
          · exact .inr ⟨checked,rfl⟩
          · exact .inr ⟨checked,rfl⟩
          · exact .inr ⟨checked,rfl⟩

section Risk
variable {f : FloatOperations} (rounded : f.Rounded)
include rounded

theorem addWhen_positive (risky : Bool) (weight : Rat) (positive : 0 ≤ weight) (score : PyFloat) (number : score.ge (.finite 0) = true) :
    (addWhen f risky weight score).ge (.finite 0) = true := by
  unfold addWhen
  split
  · exact PyFloat.ge_trans number (rounded.grows _ _ number ((PyFloat.ge_finite _ _).mpr positive))
  · exact number

omit rounded in
theorem trustPenalty_positive (trust : PyFloat) : (trustPenalty f trust).ge (.finite 0) = true := by
  unfold trustPenalty PyFloat.max
  split
  · rename_i more
    rw [PyFloat.ge,more,Bool.true_or]
  · decide

theorem computeRiskScore_unit (result : DeviceEnrichmentResult) :
    (computeRiskScore f result).ge (.finite 0) = true ∧ (PyFloat.finite 1).ge (computeRiskScore f result) = true := by
  have weighted : ∀ risky weight score, 0 ≤ weight → score.ge (.finite 0) = true → (addWhen f risky weight score).ge (.finite 0) = true :=
    fun risky weight score positive number => addWhen_positive rounded risky weight positive score number
  apply PyFloat.min_one _ _ (by decide)
  have score := weighted (result.deviceInfo.any fun info => info.isRooted.truthy) (1 / 10) _ (by norm_num)
    (weighted (result.deviceInfo.any fun info => info.isEmulator.truthy) (1 / 5) _ (by norm_num)
      (weighted result.isMultiAccountDevice (3 / 10) _ (by norm_num)
        (weighted (result.isKnownDevice && result.isNewDevice) (3 / 20) _ (by norm_num)
          (weighted (!result.isKnownDevice) (3 / 10) (.finite 0) (by norm_num) (by decide)))))
  exact PyFloat.ge_trans score (rounded.grows _ _ score (trustPenalty_positive _))

theorem raised_trusted (trusted : Course.Trusted trust) (count : Nat) :
    Course.Trusted (raised f trust count) ∧ (raised f trust count).ge trust = true := by
  obtain ⟨half,one⟩ := trusted
  have number : trust.ge (.finite 0) = true := PyFloat.ge_trans ((PyFloat.ge_finite _ _).mpr (by norm_num)) half
  have added := rounded.grows trust _ number (rounded.product (1 / 100) count (by norm_num) (Nat.cast_nonneg _))
  have up := PyFloat.min_one _ (PyFloat.ge_trans half added) ((PyFloat.ge_finite _ _).mpr (by norm_num))
  exact ⟨up,(PyFloat.min_one _ added one).1⟩

end Risk

namespace Course

theorem enrich_risk (rounded : e.host.float.Rounded) (call : DeviceCall) (s : InMemoryDeviceStore) :
    (e.enrich call s).1.deviceRiskScore.ge (.finite 0) = true ∧ (PyFloat.finite 1).ge (e.enrich call s).1.deviceRiskScore = true := by
  have unit : ∀ score, (score = .finite 0 ∨ ∃ result, score = computeRiskScore e.host.float result) →
      score.ge (.finite 0) = true ∧ (PyFloat.finite 1).ge score = true := by
    rintro _ (rfl | ⟨result,rfl⟩)
    · exact ⟨by decide,by decide⟩
    · exact computeRiskScore_unit rounded result
  unfold enrich
  split
  · have risk := unit _ (e.examined_risk call s)
    generalize e.examined call s = found at risk ⊢
    obtain ⟨result,message | a⟩ := found
    · exact risk
    · exact risk
  · exact ⟨(PyFloat.ge_finite _ _).mpr (by norm_num),(PyFloat.ge_finite _ _).mpr (by norm_num)⟩

section Record
variable {f : FloatOperations} (s : Course) (a : DeviceActivity)

-- The course after an activity is recorded.
def record (f : FloatOperations) (s : Course) (a : DeviceActivity) : Course :=
  ⟨s.store.recordDeviceActivity f a,s.recorded ++ [a]⟩

theorem step_record (call : DeviceCall) : s.step e call = ((e.activity call s.store).map (s.record e.host.float)).getD s := by
  rw [step,enrich_store]
  cases e.activity call s.store with
  | none => simp
  | some a => rfl

theorem record_history (deviceId : Value) : (s.record f a).store.getDeviceHistory deviceId =
    if deviceId = a.deviceId then some (InMemoryDeviceStore.recorded f a (s.store.getDeviceHistory a.deviceId)) else s.store.getDeviceHistory deviceId :=
  OrderedDict.get?_set _ _ _ _

theorem record_devices (customerId : Value) : (s.record f a).store.getCustomerDevices customerId =
    if customerId = a.customerId then insert a.deviceId (s.store.getCustomerDevices a.customerId) else s.store.getCustomerDevices customerId :=
  OrderedDict.getD_set _ _ _ _ _

theorem record_ofDevice (deviceId : Value) : (s.record f a).ofDevice deviceId =
    if deviceId = a.deviceId then s.ofDevice deviceId ++ [a] else s.ofDevice deviceId := by
  unfold ofDevice record
  rw [List.filter_append]
  by_cases same : deviceId = a.deviceId
  · simp [same]
  · simp [same,Ne.symm same]

theorem mem_record_devices (deviceId customerId : Value) : deviceId ∈ (s.record f a).store.getCustomerDevices customerId ↔
    deviceId = a.deviceId ∧ customerId = a.customerId ∨ deviceId ∈ s.store.getCustomerDevices customerId := by
  rw [record_devices]
  by_cases customer : customerId = a.customerId
  · rw [if_pos customer,Finset.mem_insert,customer]
    simp
  · simp [customer]

theorem mem_record_customers (deviceId customerId : Value) :
    (∃ h, (s.record f a).store.getDeviceHistory deviceId = some h ∧ customerId ∈ h.customerIds) ↔
      deviceId = a.deviceId ∧ customerId = a.customerId ∨ ∃ h, s.store.getDeviceHistory deviceId = some h ∧ customerId ∈ h.customerIds := by
  rw [record_history]
  by_cases device : deviceId = a.deviceId
  · subst device
    cases s.store.getDeviceHistory a.deviceId with
    | none => simp [InMemoryDeviceStore.recorded]
    | some h => simp [InMemoryDeviceStore.recorded]
  · simp [device]

variable {s}

theorem Indexed.record (rounded : f.Rounded) (indexed : Indexed s) : Indexed (s.record f a) where
  inverse := by
    intro deviceId customerId
    rw [mem_record_devices,mem_record_customers,indexed.inverse]
  counted := by
    intro deviceId
    have before := indexed.counted deviceId
    rw [record_history,record_ofDevice]
    split
    · rename_i device
      subst device
      cases found : s.store.getDeviceHistory a.deviceId with
      | none =>
        rw [found] at before
        rw [List.length_append,← before]
        rfl
      | some h =>
        rw [found] at before
        rw [List.length_append,← before]
        rfl
    · exact before
  trusted := by
    intro deviceId h found
    rw [record_history] at found
    split at found
    · cases found
      cases before : s.store.getDeviceHistory a.deviceId with
      | none => exact ⟨(PyFloat.ge_finite _ _).mpr (le_refl (1 / 2)),(PyFloat.ge_finite _ (1 / 2)).mpr (by norm_num)⟩
      | some old => exact (raised_trusted rounded (indexed.trusted _ _ before) _).1
    · exact indexed.trusted deviceId h found

theorem Trusting.record (rounded : f.Rounded) (indexed : Indexed s) : Trusting s (s.record f a) := by
  intro deviceId h found
  have trusted := indexed.trusted deviceId h found
  rw [record_history]
  split
  · rename_i device
    subst device
    rw [found]
    exact ⟨_,rfl,(raised_trusted rounded trusted _).2⟩
  · exact ⟨h,found,PyFloat.ge_self trusted.1⟩

-- A later activity of a device keeps its extremes exactly where it is not before the last.
theorem Extremes.again {old : DeviceHistory} (extremes : Extremes old activities) :
    Extremes (InMemoryDeviceStore.recorded f a (some old)) (activities ++ [a]) ↔ old.lastSeen.aware.instant ≤ a.timestamp.aware.instant := by
  obtain ⟨b,member,newest⟩ := extremes.last
  constructor
  · intro after
    rw [← newest]
    exact after.latest b (List.mem_append_left _ member)
  · intro later
    obtain ⟨c,begun,oldest⟩ := extremes.first
    have earliest := extremes.earliest b member
    rw [newest] at earliest
    refine ⟨⟨c,List.mem_append_left _ begun,oldest⟩,?_,⟨a,by simp,rfl⟩,?_⟩
    · intro other recorded
      rcases List.mem_append.mp recorded with before | here
      · exact extremes.earliest other before
      · rw [List.mem_singleton.mp here]
        exact le_trans earliest later
    · intro other recorded
      rcases List.mem_append.mp recorded with before | here
      · exact le_trans (extremes.latest other before) later
      · rw [List.mem_singleton.mp here]
        exact le_refl a.timestamp.aware.instant

theorem Bounded.record (indexed : Indexed s) (bounded : Bounded s) :
    Bounded (s.record f a) ↔ ∀ h ∈ s.store.getDeviceHistory a.deviceId, h.lastSeen.aware.instant ≤ a.timestamp.aware.instant := by
  constructor
  · intro after h found
    have known : s.store.getDeviceHistory a.deviceId = some h := found
    have here := after a.deviceId (InMemoryDeviceStore.recorded f a (some h)) (by rw [record_history,if_pos rfl,known])
    rw [record_ofDevice,if_pos rfl] at here
    exact ((bounded a.deviceId h known).again a).mp here
  · intro later deviceId h found
    rw [record_history] at found
    rw [record_ofDevice]
    split at found
    · rename_i device
      subst device
      rw [if_pos rfl]
      cases found
      cases known : s.store.getDeviceHistory a.deviceId with
      | none =>
        have none : s.ofDevice a.deviceId = [] := by
          have counted := indexed.counted a.deviceId
          rw [known] at counted
          exact List.eq_nil_of_length_eq_zero counted.symm
        rw [none]
        exact ⟨⟨a,by simp,rfl⟩,by simp [InMemoryDeviceStore.recorded],⟨a,by simp,rfl⟩,by simp [InMemoryDeviceStore.recorded]⟩
      | some old => exact ((bounded a.deviceId old known).again a).mpr (later old known)
    · rename_i other
      rw [if_neg other]
      exact bounded deviceId h found

end Record

-- A call keeps all of it exactly when the activity it records is in order.
theorem step_law (rounded : e.host.float.Rounded) (indexed : Indexed s) (bounded : Bounded s) (call : DeviceCall) :
    Kept e s call ↔ InOrder e s call := by
  have risk := enrich_risk e rounded call s.store
  have step := step_record e s call
  have order : InOrder e s call ↔ ∀ a ∈ e.activity call s.store, Bounded (s.record e.host.float a) :=
    forall₂_congr fun a _ => (bounded.record a indexed).symm
  rw [order]
  cases recorded : e.activity call s.store with
  | none =>
    have unchanged : s.step e call = s := by rw [step,recorded]; rfl
    refine iff_of_true ⟨by rwa [unchanged],by rwa [unchanged],?_,risk⟩ (by simp)
    rw [unchanged]
    intro deviceId h found
    exact ⟨h,found,PyFloat.ge_self (indexed.trusted deviceId h found).1⟩
  | some a =>
    have next : s.step e call = s.record e.host.float a := by rw [step,recorded]; rfl
    constructor
    · intro kept other here
      cases here
      exact next ▸ kept.bounded
    · intro extremes
      have held := extremes a rfl
      rw [← next] at held
      exact ⟨next ▸ indexed.record a rounded,held,next ▸ Trusting.record a rounded indexed,risk⟩

theorem start_indexed : Indexed start where
  inverse deviceId customerId := iff_of_false (by intro member; cases member) (by rintro ⟨h,found,_⟩; cases found)
  counted _ := rfl
  trusted deviceId h found := by cases found

-- Over a sequence of calls the store keeps its maps, counts, trust and extremes exactly
-- when no activity is recorded before the last one of its device.
theorem device_store_law (rounded : e.host.float.Rounded) (calls : List DeviceCall) :
    Runs.Along (step e) (Kept e) start calls ↔ Runs.Along (step e) (InOrder e) start calls := by
  have both : Indexed start ∧ Bounded start := ⟨start_indexed,by intro deviceId h found; cases found⟩
  have one : ∀ s call, Indexed s ∧ Bounded s → (Kept e s call ↔ InOrder e s call) :=
    fun s call holds => step_law e rounded holds.1 holds.2 call
  have next : ∀ s call, Indexed s ∧ Bounded s → Kept e s call → Indexed (s.step e call) ∧ Bounded (s.step e call) :=
    fun s call _ kept => ⟨kept.indexed,kept.bounded⟩
  constructor
  · exact Runs.along_gives next (fun s call holds => (one s call holds).mp) both
  · exact Runs.along_gives (fun s call holds order => next s call holds ((one s call holds).mpr order))
      (fun s call holds => (one s call holds).mpr) both

-- A host on which each text is its own digest.
def plainHost : DeviceHost where
  str _ := ""
  lower text := text
  sha256 text := text
  contains _ _ := .ok true
  fromisoformat _ := none
  float := FloatOperations.unrounded

def enricher : DeviceEnricher := ⟨plainHost,.finite 1,3⟩

-- A purchase of a customer on a device, so many microseconds after 1970.
def purchase (deviceId customerId : String) (wall : Int) : DeviceCall where
  transaction := .ofList [("device_id",.str deviceId),("customer_id",.str customerId),("transaction_timestamp",.datetime wall none)]
  customerProfile := none
  now := 0
  stamp := 0

instance (s : Course) (call : DeviceCall) : Decidable (s.InOrder e call) := by
  unfold InOrder
  infer_instance

theorem device_store_law_two : enricher.host.float.Rounded ∧
    Runs.Along (step enricher) (Kept enricher) start [purchase "d" "c" 0,purchase "d" "b" 5,purchase "e" "c" 3] := by
  have law := device_store_law enricher FloatOperations.unrounded_rounded
    [purchase "d" "c" 0,purchase "d" "b" 5,purchase "e" "c" 3]
  exact ⟨FloatOperations.unrounded_rounded,law.mpr (by decide +kernel)⟩

-- An activity from before the first one leaves both extremes wrong.
theorem earlier_activity : ¬Bounded (Runs.run (step enricher) start [purchase "d" "c" 5,purchase "d" "c" 0]) := by
  intro bounded
  have seen : (((Runs.run (step enricher) start [purchase "d" "c" 5,purchase "d" "c" 0]).store.getDeviceHistory (.str "d")).map
    fun h => h.lastSeen.aware.instant) = some 0 := by decide +kernel
  have first : ∃ a ∈ (Runs.run (step enricher) start [purchase "d" "c" 5,purchase "d" "c" 0]).ofDevice (.str "d"),
    a.timestamp.aware.instant = 5 := by decide +kernel
  obtain ⟨h,found,last⟩ := Option.map_eq_some_iff.mp seen
  obtain ⟨a,member,moment⟩ := first
  have latest := (bounded (.str "d") h found).latest a member
  rw [moment,last] at latest
  exact absurd latest (by decide)

end Course
end RiskPulse.DeviceEnricher
