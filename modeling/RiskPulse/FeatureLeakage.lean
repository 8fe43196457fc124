import RiskPulse.TrainingServing

namespace RiskPulse.FeatureEngineer
variable (c : FeatureEngineer)

-- Whether an entry is dated at or before the transaction.
def upTo (ts : AwareTime) (h : Record) : Bool :=
  match c.timestampOf h with
  | .ok (some t) => decide (t.instant ≤ ts.instant)
  | _ => false

def past (ts : AwareTime) (history : List Record) : List Record := history.filter (c.upTo ts)

-- Histories sorted by time, the latest entry first.
structure Descending (history : List Record) : Prop where
  dated : ∀ h ∈ history, ∃ t, c.timestampOf h = .ok (some t)
  sorted : history.Pairwise fun a b => ∀ s t, c.timestampOf a = .ok (some s) → c.timestampOf b = .ok (some t) → t.instant ≤ s.instant

def Hashable (v : Value) : Prop := v.truthy = true → ∃ key, v.dictKey = some key

-- What an entry needs for the features to be computed.
structure EntryFits (ts : AwareTime) (h : Record) : Prop where
  merchant : Hashable (h.getD "merchant_id" (.str ""))
  amount : h.value "transaction_amount" ≠ .none → ∃ x, c.amountOf h = .ok x
  earlier : ∀ t, c.timestampOf h = .ok (some t) → 0 ≤ ts.totalSeconds t →
    (∃ x, c.amountOf h = .ok x) ∧ (ts.totalSeconds t ≤ 86400 → Hashable (h.getD "geo_country" (.str "")))

structure Computable (ts : AwareTime) (transaction profile : Record) (history : List Record) : Prop where
  amount : ∃ x, c.amountOf transaction = .ok x
  average : ∃ x, c.host.float (profile.getD "avg_transaction_amount" (.int 0)) = .ok x
  deviation : ∃ x, c.host.float (profile.getD "std_transaction_amount" (.int 0)) = .ok x
  last : (profile.value "last_transaction_timestamp").truthy = true →
    ∃ parsed, c.parseTimestamp (profile.value "last_transaction_timestamp") = .ok parsed
  merchant : Hashable (transaction.getD "merchant_id" (.str ""))
  entries : ∀ h ∈ history, c.EntryFits ts h

theorem totalSeconds_nonneg (later earlier : AwareTime) : 0 ≤ later.totalSeconds earlier ↔ earlier.instant ≤ later.instant := by
  unfold AwareTime.totalSeconds
  rw [div_nonneg_iff]
  constructor
  · intro signs
    rcases signs with ⟨sign,_⟩ | ⟨_,wrong⟩
    · have : (0 : Int) ≤ later.instant - earlier.instant := by exact_mod_cast sign
      omega
    · exact absurd wrong (by decide +kernel)
  · intro order
    refine .inl ⟨?_,by decide +kernel⟩
    have : (0 : Int) ≤ later.instant - earlier.instant := by omega
    exact_mod_cast this

theorem upTo_iff (dated : c.timestampOf h = .ok (some t)) (ts : AwareTime) : c.upTo ts h = true ↔ 0 ≤ ts.totalSeconds t := by
  unfold upTo
  rw [dated,totalSeconds_nonneg]
  exact decide_eq_true_iff

theorem addTruthy_succeeds (seen : List Value) (v : Value) : (∃ next, addTruthy seen v = .ok next) ↔ Hashable v := by
  unfold addTruthy Hashable
  cases filled : v.truthy with
  | false => simp
  | true =>
    cases key : v.dictKey with
    | none => simp
    | some k => simp

theorem newMerchant_succeeds (v : Value) (known : List Value) : (∃ flag, newMerchant v known = .ok flag) ↔ Hashable v := by
  unfold newMerchant Hashable
  cases filled : v.truthy with
  | false => simp
  | true =>
    cases key : v.dictKey with
    | none => simp
    | some k => exact ⟨fun _ _ => ⟨k,rfl⟩,fun _ => ⟨_,rfl⟩⟩

-- What a dated entry needs in the loop over the windows.
theorem velocityStep_succeeds (ts : AwareTime) (dated : c.timestampOf h = .ok (some t)) (totals : VelocityTotals) :
    (∃ next, c.velocityStep ts totals h = .ok next) ↔
      (0 ≤ ts.totalSeconds t → (∃ x, c.amountOf h = .ok x) ∧ (ts.totalSeconds t ≤ 86400 →
        Hashable (h.getD "merchant_id" (.str "")) ∧ Hashable (h.getD "geo_country" (.str "")))) := by
  unfold velocityStep
  rw [dated]
  simp only [bind,Except.bind]
  by_cases later : ts.totalSeconds t < 0
  · rw [if_pos later]
    exact ⟨fun _ wrong => absurd later (not_lt.mpr wrong),fun _ => ⟨_,rfl⟩⟩
  rw [if_neg later]
  have earlier := not_lt.mp later
  rw [forall_prop_of_true earlier]
  cases number : c.amountOf h with
  | error e => simp
  | ok x =>
    simp only
    by_cases recent : ts.totalSeconds t ≤ 86400
    · simp only [if_pos recent]
      rw [forall_prop_of_true recent,← addTruthy_succeeds totals.merchants24h,← addTruthy_succeeds totals.countries24h]
      cases addTruthy totals.merchants24h (h.getD "merchant_id" (.str "")) with
      | error e => simp
      | ok merchants =>
        cases addTruthy totals.countries24h (h.getD "geo_country" (.str "")) with
        | error e => simp
        | ok countries => simp [pure,Except.pure]
    · simp only [if_neg recent]
      exact ⟨fun _ => ⟨⟨x,rfl⟩,fun wrong => absurd wrong recent⟩,fun _ => ⟨_,rfl⟩⟩

-- The same as a fact about the entry.
def WindowFits (ts : AwareTime) (h : Record) : Prop :=
  ∀ t, c.timestampOf h = .ok (some t) → 0 ≤ ts.totalSeconds t → (∃ x, c.amountOf h = .ok x) ∧ (ts.totalSeconds t ≤ 86400 →
    Hashable (h.getD "merchant_id" (.str "")) ∧ Hashable (h.getD "geo_country" (.str "")))

section Succeeds
variable {c} {transaction profile : Record} {ts : AwareTime} {history : List Record}

theorem velocity_succeeds (stamped : c.timestampOf transaction = .ok (some ts)) (dated : ∀ h ∈ history, ∃ t, c.timestampOf h = .ok (some t)) :
    (∃ r, c.computeVelocityFeatures transaction history = .ok r) ↔ ∀ h ∈ history, c.WindowFits ts h := by
  have folded : (∃ totals, history.foldlM (c.velocityStep ts) noTotals = .ok totals) ↔ ∀ h ∈ history, c.WindowFits ts h := by
    apply Fallible.fold_succeeds history
    intro h member totals
    obtain ⟨t,stamp⟩ := dated h member
    rw [c.velocityStep_succeeds ts stamp totals]
    constructor
    · intro fits u other
      cases stamp.symm.trans other
      exact fits
    · exact fun fits => fits t stamp
  rw [← folded]
  unfold computeVelocityFeatures
  rw [stamped]
  simp only [bind,Except.bind]
  cases history.foldlM (c.velocityStep ts) noTotals with
  | error e => simp
  | ok totals => simp [pure,Except.pure]

theorem behavioral_succeeds (stamped : c.timestampOf transaction = .ok (some ts)) :
    (∃ r, c.computeBehavioralFeatures transaction history = .ok r) ↔ (∃ x, c.amountOf transaction = .ok x) ∧
      Hashable (transaction.getD "merchant_id" (.str "")) ∧ (∀ h ∈ history, Hashable (h.getD "merchant_id" (.str ""))) ∧
      ∀ h ∈ history, h.value "transaction_amount" ≠ .none → ∃ x, c.amountOf h = .ok x := by
  have merchants : (∃ known, history.foldlM (fun known h => addTruthy known (h.getD "merchant_id" (.str ""))) [] = .ok known) ↔
      ∀ h ∈ history, Hashable (h.getD "merchant_id" (.str "")) := by
    apply Fallible.fold_succeeds history
    intro h _ seen
    exact addTruthy_succeeds seen (h.getD "merchant_id" (.str ""))
  have amounts := Fallible.mapM_succeeds (f := c.amountOf) (history.filter fun h => h.value "transaction_amount" ≠ .none)
  have chosen : (∀ h ∈ history.filter fun h => h.value "transaction_amount" ≠ .none, ∃ x, c.amountOf h = .ok x) ↔
      ∀ h ∈ history, h.value "transaction_amount" ≠ .none → ∃ x, c.amountOf h = .ok x := by
    simp only [List.mem_filter,decide_eq_true_eq,and_imp]
  rw [← chosen,← amounts,← merchants]
  unfold computeBehavioralFeatures
  rw [stamped]
  simp only [bind,Except.bind]
  cases c.amountOf transaction with
  | error e => simp
  | ok amount =>
    simp only
    cases history.foldlM (fun known h => addTruthy known (h.getD "merchant_id" (.str ""))) [] with
    | error e => simp
    | ok known =>
      simp only
      rw [← newMerchant_succeeds _ known]
      cases newMerchant (transaction.getD "merchant_id" (.str "")) known with
      | error e => simp
      | ok flag =>
        cases (history.filter fun h => h.value "transaction_amount" ≠ .none).mapM c.amountOf with
        | error e => simp
        | ok all => simp [pure,Except.pure]

theorem rapid_succeeds (ts : AwareTime) (dated : ∀ h ∈ history, ∃ t, c.timestampOf h = .ok (some t)) :
    ∃ flag, c.rapidSuccession ts history = .ok flag := by
  induction history with
  | nil => exact ⟨false,rfl⟩
  | cons h rest ih =>
    obtain ⟨t,stamp⟩ := dated h List.mem_cons_self
    obtain ⟨flag,later⟩ := ih fun other member => dated other (List.mem_cons_of_mem _ member)
    unfold rapidSuccession
    rw [stamp]
    simp only [bind,Except.bind]
    split
    · exact ⟨true,rfl⟩
    · split
      · exact ⟨false,rfl⟩
      · exact ⟨flag,later⟩

theorem sequence_succeeds (stamped : c.timestampOf transaction = .ok (some ts))
    (dated : ∀ h ∈ history, ∃ t, c.timestampOf h = .ok (some t)) : ∃ r, c.computeSequenceFeatures transaction history = .ok r := by
  obtain ⟨flag,ran⟩ := rapid_succeeds ts dated
  unfold computeSequenceFeatures
  rw [stamped]
  simp only [bind,Except.bind,ran]
  exact ⟨_,rfl⟩

theorem transaction_succeeds (stamped : c.timestampOf transaction = .ok (some ts)) :
    (∃ r, c.computeTransactionFeatures transaction profile = .ok r) ↔ (∃ x, c.amountOf transaction = .ok x) ∧
      (∃ x, c.host.float (profile.getD "avg_transaction_amount" (.int 0)) = .ok x) ∧
      (∃ x, c.host.float (profile.getD "std_transaction_amount" (.int 0)) = .ok x) ∧
      ((profile.value "last_transaction_timestamp").truthy = true →
        ∃ parsed, c.parseTimestamp (profile.value "last_transaction_timestamp") = .ok parsed) := by
  unfold computeTransactionFeatures
  rw [stamped]
  simp only [bind,Except.bind]
  cases c.amountOf transaction with
  | error e => simp
  | ok amount =>
    cases c.host.float (profile.getD "avg_transaction_amount" (.int 0)) with
    | error e => simp
    | ok avg =>
      cases c.host.float (profile.getD "std_transaction_amount" (.int 0)) with
      | error e => simp
      | ok std =>
        simp only [timeSinceLast]
        cases (profile.value "last_transaction_timestamp").truthy with
        | false => simp [pure,Except.pure]
        | true =>
          cases parsed : c.parseTimestamp (profile.value "last_transaction_timestamp") with
          | error e => simp [bind,Except.bind]
          | ok last => cases last <;> simp [bind,Except.bind,pure,Except.pure]

-- The features are computed where each of their four parts is.
theorem computeAll_succeeds (stamped : c.timestampOf transaction = .ok (some ts))
    (dated : ∀ h ∈ history, ∃ t, c.timestampOf h = .ok (some t)) :
    (∃ features, c.computeAll transaction profile history = .ok features) ↔ c.Computable ts transaction profile history := by
  have split : (∃ features, c.computeAll transaction profile history = .ok features) ↔
      (∃ r, c.computeTransactionFeatures transaction profile = .ok r) ∧ (∃ r, c.computeVelocityFeatures transaction history = .ok r) ∧
      (∃ r, c.computeBehavioralFeatures transaction history = .ok r) := by
    obtain ⟨sequence,last⟩ := sequence_succeeds stamped dated
    unfold computeAll
    simp only [bind,Except.bind]
    cases c.computeTransactionFeatures transaction profile with
    | error e => simp
    | ok first =>
      cases c.computeVelocityFeatures transaction history with
      | error e => simp
      | ok second =>
        cases c.computeBehavioralFeatures transaction history with
        | error e => simp
        | ok third => simp [last,pure,Except.pure]
  rw [split,transaction_succeeds stamped,velocity_succeeds stamped dated,behavioral_succeeds stamped]
  constructor
  · intro ⟨⟨amount,average,deviation,last⟩,windows,_,merchant,merchants,amounts⟩
    refine ⟨amount,average,deviation,last,merchant,?_⟩
    intro h member
    refine ⟨merchants h member,amounts h member,?_⟩
    intro t stamp earlier
    obtain ⟨number,recent⟩ := windows h member t stamp earlier
    exact ⟨number,fun inside => (recent inside).2⟩
  · intro computable
    refine ⟨⟨computable.amount,computable.average,computable.deviation,computable.last⟩,?_,computable.amount,computable.merchant,
      fun h member => (computable.entries h member).merchant,fun h member => (computable.entries h member).amount⟩
    intro h member t stamp earlier
    have fits := computable.entries h member
    obtain ⟨number,recent⟩ := fits.earlier t stamp earlier
    exact ⟨number,fun inside => ⟨fits.merchant,recent inside⟩⟩

theorem features_of (transaction profile : Record) (history : List Record) :
    (c.computeFeatures transaction (some profile) (some history)).features = match c.computeAll transaction profile history with
      | .ok features => features
      | .error _ => .empty := by
  unfold computeFeatures
  simp only [Option.getD_some]
  cases c.computeAll transaction profile history <;> rfl

theorem declined_counted (ran : c.computeAll transaction profile history = .ok features) :
    Record.value features "consecutive_declined_count" = .int (consecutiveDeclined history) := by
  unfold computeAll at ran
  obtain ⟨first,_,ran⟩ := Fallible.bind_ok.mp ran
  obtain ⟨second,_,ran⟩ := Fallible.bind_ok.mp ran
  obtain ⟨third,_,ran⟩ := Fallible.bind_ok.mp ran
  obtain ⟨last,sequence,ran⟩ := Fallible.bind_ok.mp ran
  cases ran
  unfold computeSequenceFeatures at sequence
  obtain ⟨stamp,_,sequence⟩ := Fallible.bind_ok.mp sequence
  obtain ⟨rapid,_,sequence⟩ := Fallible.bind_ok.mp sequence
  cases sequence
  rw [Record.value,OrderedDict.getD,OrderedDict.get?_update]
  rfl

end Succeeds

-- Two histories that agree up to the transaction give the same features.
def Unaffected (ts : AwareTime) (transaction profile : Record) (earlier : List Record) : Prop :=
  ∀ first second, c.Descending first → c.Descending second → c.past ts first = earlier → c.past ts second = earlier →
    (c.computeFeatures transaction (some profile) (some first)).features =
      (c.computeFeatures transaction (some profile) (some second)).features

-- A declined transaction just after the given one.
def laterEntry (ts : AwareTime) : Record :=
  .ofList [("status",.str "declined"),("transaction_timestamp",.datetime (ts.instant + 1) (some 0))]

section Leak
variable {c} {transaction profile : Record} {ts : AwareTime} {history earlier : List Record}

theorem laterEntry_dated (ts : AwareTime) : c.timestampOf (laterEntry ts) = .ok (some ⟨ts.instant + 1,0⟩) := rfl

theorem laterEntry_after (ts : AwareTime) : c.upTo ts (laterEntry ts) = false := by
  unfold upTo
  rw [laterEntry_dated]
  simp [AwareTime.instant]

theorem laterEntry_fits (ts : AwareTime) : c.EntryFits ts (laterEntry ts) := by
  have unnamed : (laterEntry ts).getD "merchant_id" (.str "") = .str "" := rfl
  refine ⟨?_,fun given => absurd rfl given,?_⟩
  · intro filled
    rw [unnamed] at filled
    cases filled
  · intro t stamp before
    cases (laterEntry_dated (c := c) ts).symm.trans stamp
    rw [totalSeconds_nonneg] at before
    simp only [AwareTime.instant] at before
    omega

theorem declined_later (descending : c.Descending earlier) (within : c.past ts earlier = earlier) :
    c.Descending (laterEntry ts :: earlier) ∧ c.past ts (laterEntry ts :: earlier) = earlier := by
  constructor
  · constructor
    · intro h member
      rcases List.mem_cons.mp member with rfl | old
      · exact ⟨_,laterEntry_dated ts⟩
      · exact descending.dated h old
    · refine List.pairwise_cons.mpr ⟨?_,descending.sorted⟩
      intro h member s t first second
      cases (laterEntry_dated (c := c) ts).symm.trans first
      have old : c.upTo ts h = true := List.of_mem_filter (within.symm ▸ member : h ∈ c.past ts earlier)
      rw [c.upTo_iff second,totalSeconds_nonneg] at old
      simp only [AwareTime.instant] at old ⊢
      omega
  · unfold past at within ⊢
    rw [List.filter_cons_of_neg (by rw [laterEntry_after]; simp),within]

-- What can be computed with later entries can be computed without them.
theorem computable_past (computable : c.Computable ts transaction profile history) :
    c.Computable ts transaction profile (c.past ts history) :=
  ⟨computable.amount,computable.average,computable.deviation,computable.last,computable.merchant,
    fun h member => computable.entries h (List.mem_of_mem_filter member)⟩

theorem uncomputable_features (stamped : c.timestampOf transaction = .ok (some ts)) (descending : c.Descending history)
    (uncomputable : ¬c.Computable ts transaction profile (c.past ts history)) :
    (c.computeFeatures transaction (some profile) (some history)).features = .empty := by
  rw [features_of]
  cases ran : c.computeAll transaction profile history with
  | error e => rfl
  | ok features =>
    have computable := (computeAll_succeeds stamped descending.dated).mp ⟨features,ran⟩
    exact absurd (computable_past computable) uncomputable

-- The windows and the rapid succession read nothing of the later entries.
theorem velocity_past (stamped : c.timestampOf transaction = .ok (some ts)) (descending : c.Descending history) :
    c.computeVelocityFeatures transaction history = c.computeVelocityFeatures transaction (c.past ts history) := by
  have same : history.foldlM (c.velocityStep ts) noTotals = (c.past ts history).foldlM (c.velocityStep ts) noTotals := by
    apply Fallible.fold_skip
    intro h member after totals
    obtain ⟨t,stamp⟩ := descending.dated h member
    have later : ts.totalSeconds t < 0 := by
      apply not_le.mp
      rw [← c.upTo_iff stamp,after]
      exact Bool.false_ne_true
    unfold velocityStep
    rw [stamp]
    simp only [bind,Except.bind,if_pos later]
    rfl
  unfold computeVelocityFeatures
  rw [stamped]
  simp only [bind,Except.bind,same]

theorem rapid_past (positive : 0 ≤ c.rapidThreshold) (dated : ∀ h ∈ history, ∃ t, c.timestampOf h = .ok (some t)) :
    c.rapidSuccession ts history = c.rapidSuccession ts (c.past ts history) := by
  induction history with
  | nil => rfl
  | cons h rest ih =>
    have others := ih fun other member => dated other (List.mem_cons_of_mem _ member)
    obtain ⟨t,stamp⟩ := dated h List.mem_cons_self
    unfold past at others ⊢
    cases before : c.upTo ts h with
    | true =>
      rw [List.filter_cons_of_pos before,rapidSuccession,rapidSuccession,others]
    | false =>
      have later : ts.totalSeconds t < 0 := by
        apply not_le.mp
        rw [← c.upTo_iff stamp,before]
        exact Bool.false_ne_true
      have bound : (0 : Rat) ≤ c.rapidThreshold := by exact_mod_cast positive
      have far : ¬(c.rapidThreshold : Rat) < ts.totalSeconds t := not_lt.mpr (later.le.trans bound)
      rw [List.filter_cons_of_neg (by simp [before]),rapidSuccession,stamp]
      simp only [bind,Except.bind,if_neg far,if_neg (fun near : 0 < ts.totalSeconds t ∧ _ => absurd near.1 (not_lt.mpr later.le))]
      exact others

theorem future_leaks (stamped : c.timestampOf transaction = .ok (some ts)) (descending : c.Descending earlier)
    (within : c.past ts earlier = earlier) :
    (c.Unaffected ts transaction profile earlier ↔ ¬c.Computable ts transaction profile earlier) ∧
      ∀ history, c.Descending history → c.past ts history = earlier →
        c.computeVelocityFeatures transaction history = c.computeVelocityFeatures transaction earlier ∧
        (0 ≤ c.rapidThreshold → c.rapidSuccession ts history = c.rapidSuccession ts earlier) := by
  constructor
  · constructor
    · intro unaffected computable
      obtain ⟨declined,same⟩ := declined_later descending within
      have further : c.Computable ts transaction profile (laterEntry ts :: earlier) :=
        ⟨computable.amount,computable.average,computable.deviation,computable.last,computable.merchant,
          List.forall_mem_cons.mpr ⟨laterEntry_fits ts,computable.entries⟩⟩
      obtain ⟨short,first⟩ := (computeAll_succeeds stamped descending.dated).mpr computable
      obtain ⟨long,second⟩ := (computeAll_succeeds stamped declined.dated).mpr further
      have equal := unaffected earlier (laterEntry ts :: earlier) descending declined within same
      rw [features_of,features_of,first,second] at equal
      have counts := (declined_counted first).symm.trans ((congrArg (Record.value · "consecutive_declined_count") equal).trans
        (declined_counted second))
      have longer : consecutiveDeclined (laterEntry ts :: earlier) = consecutiveDeclined earlier + 1 := rfl
      rw [longer] at counts
      simp at counts
    · intro uncomputable first second sorted other same equal
      rw [uncomputable_features stamped sorted (same ▸ uncomputable),uncomputable_features stamped other (equal ▸ uncomputable)]
  · intro history sorted same
    subst same
    exact ⟨velocity_past stamped sorted,fun positive => rapid_past positive sorted.dated⟩

end Leak

def earlierEntry : Record :=
  .ofList [("status",.str "approved"),("transaction_amount",.int 20),("merchant_id",.str "m1"),
    ("transaction_timestamp",.datetime 1767617940000000 (some 0))]

theorem earlierEntry_dated : exampleEngineer.timestampOf earlierEntry = .ok (some ⟨1767617940000000,0⟩) := rfl

theorem future_leaks_approved :
    (exampleEngineer.Unaffected ⟨1767618000000000,0⟩ (datedTransaction (.str "2026-01-05T13:00:00")) exampleProfile [earlierEntry] ↔
      ¬exampleEngineer.Computable ⟨1767618000000000,0⟩ (datedTransaction (.str "2026-01-05T13:00:00")) exampleProfile [earlierEntry]) ∧
      ∀ history, exampleEngineer.Descending history → exampleEngineer.past ⟨1767618000000000,0⟩ history = [earlierEntry] →
        exampleEngineer.computeVelocityFeatures (datedTransaction (.str "2026-01-05T13:00:00")) history =
          exampleEngineer.computeVelocityFeatures (datedTransaction (.str "2026-01-05T13:00:00")) [earlierEntry] ∧
        (0 ≤ exampleEngineer.rapidThreshold → exampleEngineer.rapidSuccession ⟨1767618000000000,0⟩ history =
          exampleEngineer.rapidSuccession ⟨1767618000000000,0⟩ [earlierEntry]) :=
  future_leaks rfl ⟨List.forall_mem_singleton.mpr ⟨_,earlierEntry_dated⟩,List.pairwise_singleton _ _⟩ rfl

theorem declined_leaks :
    ¬exampleEngineer.Unaffected ⟨1767618000000000,0⟩ (datedTransaction (.str "2026-01-05T13:00:00")) exampleProfile [] := by
  intro unaffected
  have sorted : exampleEngineer.Descending [laterEntry ⟨1767618000000000,0⟩] :=
    ⟨List.forall_mem_singleton.mpr ⟨_,laterEntry_dated _⟩,List.pairwise_singleton _ _⟩
  have equal := unaffected [] [laterEntry ⟨1767618000000000,0⟩] ⟨List.forall_mem_nil _,.nil⟩ sorted rfl rfl
  have counts := congrArg (Record.value · "consecutive_declined_count") equal
  revert counts
  decide +kernel

end RiskPulse.FeatureEngineer
