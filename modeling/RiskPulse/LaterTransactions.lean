import RiskPulse.FeatureLeakage
import RiskPulse.FraudRules
import RiskPulse.Library.TwoRuns

namespace RiskPulse.FraudRuleEngine
open TwoRuns
variable (h : FraudRuleHost)

-- An entry dated after the transaction.
def later (txn rt : Record) : Bool :=
  match timestampOf h txn,timestampOf h rt with
  | some txnTs,some rtTs => decide (txnTs.instant < rtTs.instant)
  | _,_ => false

-- Whether a rule matches.
def matching (eval : List Record → Except String (Option RuleMatch)) (recent : List Record) : Except String Bool :=
  (eval recent).map Option.isSome

-- The entries dated after the transaction do not decide whether the rule matches.
def Undisturbed (txn : Record) (eval : List Record → Except String (Option RuleMatch)) (seen : List Record) : Prop :=
  Stable (later h txn) (matching eval) seen

-- A window that a later entry can be in: the closest is dated a microsecond later.
def Reaches (windowSeconds : PyFloat) : Prop := windowSeconds.ge (.finite (1 / 1000000)) = true

def RapidStable (rule : FraudRule) (txn : Record) (seen : List Record) : Prop :=
  ∀ txnTs, timestampOf h txn = some txnTs →
    (seen ≠ [] ∧ rule.parameters.maxCount.getD 5 ≤ seen.countP (inWindow h txnTs (windowSeconds h rule 10))) ∨
      (¬Reaches (windowSeconds h rule 10) ∧ (seen ≠ [] ∨ 0 < rule.parameters.maxCount.getD 5))

def declinedIn (txnTs : AwareTime) (windowSeconds : PyFloat) (rt : Record) : Bool :=
  inWindow h txnTs windowSeconds rt && decide (statusOf rt = .str "declined")

def DeclinedStable (rule : FraudRule) (txn : Record) (seen : List Record) : Prop :=
  statusOf txn = .str "approved" → ∀ txnTs, timestampOf h txn = some txnTs →
    rule.parameters.minDeclines.getD 3 ≤ seen.countP (declinedIn h txnTs (windowSeconds h rule 30)) ∨ ¬Reaches (windowSeconds h rule 30)

-- The amounts that are read can be.
def Readable (rule : FraudRule) (txn : Record) (txnTs : AwareTime) (seen : List Record) : Prop :=
  (∀ rt ∈ seen, inWindow h txnTs (windowSeconds h rule 60) rt = true → ∃ x, amountOf h rt = .ok x) ∧ ∃ x, amountOf h txn = .ok x

def EscalatingStable (rule : FraudRule) (txn : Record) (seen : List Record) : Prop :=
  ∀ txnTs, timestampOf h txn = some txnTs →
    (rule.parameters.minTransactions.getD 3 - 1 ≤ seen.length ∧ ¬Readable h rule txn txnTs seen) ∨
      (¬Reaches (windowSeconds h rule 60) ∧
        (rule.parameters.minTransactions.getD 3 - 1 ≤ seen.length ∨ Readable h rule txn txnTs seen))

def CardStable (rule : FraudRule) (txn : Record) (seen : List Record) : Prop :=
  ∀ amount, amountOf h txn = .ok amount → (rule.parameters.largeAmountThreshold.getD (.finite 500)).greater amount = false →
    ∀ txnTs, timestampOf h txn = some txnTs → ∃ rt ∈ seen, (∃ rtTs, timestampOf h rt = some rtTs) ∧ ¬∃ x, amountOf h rt = .ok x

def burstWindow (rule : FraudRule) : PyFloat := h.times (rule.parameters.burstWindowMinutes.getD (.finite 30)) (.finite 60)

-- The timestamps before the burst.
def preBurst (rule : FraudRule) (txnTs : AwareTime) (timestamps : List AwareTime) : List AwareTime :=
  timestamps.filter fun ts => (PyFloat.finite (txnTs.totalSeconds ts)).greater (burstWindow h rule)

def quiet (rule : FraudRule) (txnTs : AwareTime) (ctx : Record) (timestamps : List AwareTime) : Except String Bool :=
  silent h rule txnTs ctx (burstWindow h rule) (preBurst h rule txnTs timestamps)

def BurstStable (rule : FraudRule) (txn ctx : Record) (seen : List Record) : Prop :=
  ∀ txnTs, timestampOf h txn = some txnTs →
    (Reaches (burstWindow h rule) → quiet h rule txnTs ctx (seen.filterMap (timestampOf h)) = .ok false ∨
      (seen.filterMap (timestampOf h) ≠ [] ∧
        rule.parameters.burstCount.getD 5 - 1 ≤ seen.countP (inWindow h txnTs (burstWindow h rule)))) ∧
    (¬Reaches (burstWindow h rule) →
      rule.parameters.burstCount.getD 5 - 1 ≤ seen.countP (inWindow h txnTs (burstWindow h rule)) → ∀ microseconds, 0 < microseconds →
        Fallible.Same (quiet h rule txnTs ctx (seen.filterMap (timestampOf h) ++ [⟨txnTs.instant + microseconds,0⟩]))
          (if seen.filterMap (timestampOf h) = [] then .ok false else quiet h rule txnTs ctx (seen.filterMap (timestampOf h))))

section Times
variable {h} {txn rt : Record} {txnTs rtTs : AwareTime}

theorem later_iff (dated : timestampOf h txn = some txnTs) (stamped : timestampOf h rt = some rtTs) :
    later h txn rt = true ↔ txnTs.instant < rtTs.instant := by
  unfold later
  rw [dated,stamped]
  exact decide_eq_true_iff

theorem later_dated (hides : later h txn rt = true) :
    ∃ txnTs rtTs, timestampOf h txn = some txnTs ∧ timestampOf h rt = some rtTs ∧ txnTs.instant < rtTs.instant := by
  unfold later at hides
  split at hides
  · rename_i txnTs rtTs dated stamped
    exact ⟨txnTs,rtTs,dated,stamped,of_decide_eq_true hides⟩
  · cases hides

theorem ge_smaller {window : PyFloat} {a b : Rat} (within : window.ge (.finite b) = true) (less : a ≤ b) : window.ge (.finite a) = true := by
  cases window with
  | finite w =>
    simp only [PyFloat.ge,PyFloat.greater,Bool.or_eq_true,decide_eq_true_eq,PyFloat.finite.injEq] at within ⊢
    rcases within with more | ⟨equal,_⟩
    · exact .inl (lt_of_le_of_lt less more)
    · rcases less.lt_or_eq with strict | same
      · exact .inl (equal ▸ strict)
      · exact .inr ⟨equal.trans same.symm,by simp⟩
  | nan => cases within
  | infinity negative => cases negative with
    | true => cases within
    | false => rfl

theorem apart_least {a b : AwareTime} (after : a.instant < b.instant) : (1 / 1000000 : Rat) ≤ |a.totalSeconds b| := by
  unfold AwareTime.totalSeconds
  rw [abs_div,abs_of_pos (by decide +kernel : (0 : Rat) < 1000000)]
  apply div_le_div_of_nonneg_right _ (by decide +kernel)
  have : (1 : Int) ≤ |a.instant - b.instant| := by
    rw [abs_of_neg (by omega)]
    omega
  exact_mod_cast this

-- A later entry, so many microseconds after the transaction.
def entryAfter (txnTs : AwareTime) (microseconds : Int) (status amount : Value) : Record :=
  .ofList [("transaction_timestamp",.datetime (txnTs.instant + microseconds) (some 0)),("status",status),("transaction_amount",amount)]

theorem entryAfter_dated (txnTs : AwareTime) (microseconds : Int) (status amount : Value) :
    timestampOf h (entryAfter txnTs microseconds status amount) = some ⟨txnTs.instant + microseconds,0⟩ := rfl

theorem entryAfter_later (dated : timestampOf h txn = some txnTs) (after : 0 < microseconds) (status amount : Value) :
    later h txn (entryAfter txnTs microseconds status amount) = true := by
  rw [later_iff dated (entryAfter_dated ..)]
  simp only [AwareTime.instant]
  omega

-- No later entry is in a window that does not reach one, and the closest is in every other.
theorem unreached (closed : ¬Reaches window) (dated : timestampOf h txn = some txnTs) (hides : later h txn rt = true) :
    inWindow h txnTs window rt = false := by
  obtain ⟨own,rtTs,held,stamped,after⟩ := later_dated hides
  cases dated.symm.trans held
  unfold inWindow
  rw [stamped]
  apply Bool.eq_false_iff.mpr
  intro within
  exact closed (ge_smaller within (apart_least after))

theorem reached (reaches : Reaches window) (txnTs : AwareTime) (status amount : Value) :
    inWindow h txnTs window (entryAfter txnTs 1 status amount) = true := by
  have apart : |txnTs.totalSeconds ⟨txnTs.instant + 1,0⟩| = 1 / 1000000 := by
    have : txnTs.instant - (⟨txnTs.instant + 1,0⟩ : AwareTime).instant = -1 := by
      simp only [AwareTime.instant]
      omega
    unfold AwareTime.totalSeconds
    rw [this]
    decide +kernel
  unfold inWindow
  rw [entryAfter_dated]
  simp only [apart]
  exact reaches

theorem undated_undisturbed (undated : timestampOf h txn = none) (eval : List Record → Except String (Option RuleMatch)) (seen : List Record) :
    Undisturbed h txn eval seen := by
  have none : ∀ items, visible (later h txn) items = items := by
    intro items
    unfold visible
    apply List.filter_eq_self.mpr
    intro rt _
    unfold later
    rw [undated]
    rfl
  intro first second one two
  rw [none] at one two
  rw [one,two]
  exact fun _ => Iff.rfl

end Times

-- Without a timestamp of the transaction no entry is later.
theorem undated_exact {h : FraudRuleHost} {txn : Record} (undated : timestampOf h txn = none)
    (eval : List Record → Except String (Option RuleMatch)) (seen : List Record) (condition : AwareTime → Prop) :
    Undisturbed h txn eval seen ↔ ∀ txnTs, timestampOf h txn = some txnTs → condition txnTs := by
  refine iff_of_true (undated_undisturbed undated eval seen) ?_
  intro txnTs given
  cases undated.symm.trans given

section Counts
variable {h} {rule : FraudRule} {txn : Record} {txnTs : AwareTime} {seen : List Record}

-- A rule that is not decided by its history is not disturbed by it.
theorem constant_undisturbed {eval : List Record → Except String (Option RuleMatch)} (constant : ∀ recent, eval recent = .ok none) :
    Undisturbed h txn eval seen := by
  apply stable_of
  intro items _ b
  unfold matching
  rw [constant items,constant seen]

theorem declined_exact (approved : statusOf txn = .str "approved") (dated : timestampOf h txn = some txnTs) (items : List Record) :
    matching (evalDeclinedThenApproved h rule txn) items =
      .ok (decide (rule.parameters.minDeclines.getD 3 ≤ items.countP (declinedIn h txnTs (windowSeconds h rule 30)))) := by
  unfold matching evalDeclinedThenApproved
  rw [if_neg (not_not.mpr approved),dated]
  simp only
  by_cases enough : rule.parameters.minDeclines.getD 3 ≤ items.countP (declinedIn h txnTs (windowSeconds h rule 30))
  · rw [decide_eq_true enough]
    unfold declinedIn at enough
    rw [if_pos enough]
    rfl
  · rw [decide_eq_false enough]
    unfold declinedIn at enough
    rw [if_neg enough]
    rfl

theorem declined_undisturbed (own : visible (later h txn) seen = seen) :
    Undisturbed h txn (evalDeclinedThenApproved h rule txn) seen ↔ DeclinedStable h rule txn seen := by
  by_cases approved : statusOf txn = .str "approved"
  · cases dated : timestampOf h txn with
    | none =>
      refine iff_of_true (undated_undisturbed dated _ _) ?_
      intro _ txnTs given
      cases dated.symm.trans given
    | some txnTs =>
      have counted : (∀ rt, later h txn rt = true → declinedIn h txnTs (windowSeconds h rule 30) rt = false) ↔
          ¬Reaches (windowSeconds h rule 30) := by
        constructor
        · intro none reaches
          have hidden := none _ (entryAfter_later dated Int.one_pos (.str "declined") .none)
          unfold declinedIn at hidden
          rw [reached reaches] at hidden
          cases hidden
        · intro closed rt hides
          unfold declinedIn
          rw [unreached closed dated hides]
          rfl
      unfold Undisturbed
      rw [stable_congr (declined_exact approved dated),threshold_stable own,counted]
      constructor
      · intro given _ ts held
        cases dated.symm.trans held
        exact given
      · intro given
        exact given approved txnTs dated
  · refine iff_of_true (constant_undisturbed fun recent => if_pos approved) ?_
    intro wrong
    exact absurd wrong approved

theorem rapid_exact (dated : timestampOf h txn = some txnTs) (items : List Record) :
    matching (evalRapidTransactions h rule txn) items = .ok (decide (items ≠ [] ∧
      rule.parameters.maxCount.getD 5 ≤ items.countP (inWindow h txnTs (windowSeconds h rule 10)))) := by
  unfold matching evalRapidTransactions
  rw [dated]
  simp only
  by_cases empty : items = []
  · rw [if_pos empty,decide_eq_false fun both => both.1 empty]
    rfl
  · rw [if_neg empty]
    by_cases enough : rule.parameters.maxCount.getD 5 ≤ items.countP (inWindow h txnTs (windowSeconds h rule 10))
    · rw [if_pos enough,decide_eq_true ⟨empty,enough⟩]
      rfl
    · rw [if_neg enough,decide_eq_false fun both => enough both.2]
      rfl

theorem rapid_undisturbed (own : visible (later h txn) seen = seen) :
    Undisturbed h txn (evalRapidTransactions h rule txn) seen ↔ RapidStable h rule txn seen := by
  cases dated : timestampOf h txn with
  | none =>
    exact undated_exact dated _ seen _
  | some txnTs =>
    let counts := inWindow h txnTs (windowSeconds h rule 10)
    have filled : ∀ items, visible (later h txn) items = seen → seen ≠ [] → items ≠ [] := by
      intro items same there empty
      rw [empty] at same
      exact there same.symm
    unfold Undisturbed
    rw [stable_congr (rapid_exact dated)]
    constructor
    · intro stable ts held
      cases dated.symm.trans held
      have hides := entryAfter_later dated Int.one_pos (.str "") .none
      by_cases reaches : Reaches (windowSeconds h rule 10)
      · have counted : counts (entryAfter txnTs 1 (.str "") .none) = true := reached reaches txnTs _ _
        have many := stable.padded own hides ((rule.parameters.maxCount.getD 5 - seen.countP counts).toNat + 1)
        rw [count_padded counted] at many
        have fires := (many true).mp (congrArg _ (decide_eq_true ⟨by simp,by omega⟩))
        exact .inl (of_decide_eq_true (Except.ok.inj fires))
      · refine .inr ⟨reaches,?_⟩
        by_contra neither
        obtain ⟨empty,few⟩ := not_or.mp neither
        have one := stable.padded own hides 1
        rw [not_not.mp empty] at one
        have fires := (one true).mp (congrArg _ (decide_eq_true ⟨by simp,by omega⟩))
        simp at fires
    · intro given
      apply stable_of
      intro items same b
      rcases given txnTs dated with ⟨there,enough⟩ | ⟨closed,some⟩
      · have more := count_le (later h txn) counts items
        rw [same] at more
        rw [decide_eq_true ⟨filled items same there,enough.trans (Int.ofNat_le.mpr more)⟩,decide_eq_true ⟨there,enough⟩]
      · have equal : items.countP counts = seen.countP counts := by
          rw [count_visible counts fun rt _ hides => unreached closed dated hides,same]
        rw [equal]
        by_cases there : seen = []
        · have few : ¬rule.parameters.maxCount.getD 5 ≤ (seen.countP counts : Int) := by
            rw [there,List.countP_nil]
            exact not_le.mpr (some.resolve_left (not_not.mpr there))
          rw [decide_eq_false fun both => few both.2,decide_eq_false fun both => few both.2]
        · simp only [there,filled items same there,ne_eq,not_false_eq_true,true_and]
          exact Iff.rfl

theorem smallStep_succeeds (txnTs : AwareTime) (window smallThreshold : PyFloat) (rt : Record) (count : Nat) :
    (∃ next, smallStep h txnTs window smallThreshold count rt = .ok next) ↔
      ((∃ rtTs, timestampOf h rt = some rtTs) → ∃ x, amountOf h rt = .ok x) := by
  unfold smallStep
  cases timestampOf h rt with
  | none => simp
  | some rtTs =>
    cases amountOf h rt with
    | error e => simp [bind,Except.bind]
    | ok x =>
      simp only [bind,Except.bind]
      split <;> simp [pure,Except.pure]

-- A later entry whose amount no float can hold.
theorem unreadable_entry (h : FraudRuleHost) (txnTs : AwareTime) : ∃ n, ¬∃ x, amountOf h (entryAfter txnTs 1 (.str "") (.int n)) = .ok x := by
  obtain ⟨n,overflow⟩ := h.tooLarge
  refine ⟨n,?_⟩
  intro ⟨x,read⟩
  have given : (entryAfter txnTs 1 (.str "") (.int n)).value "transaction_amount" = .int n := rfl
  unfold amountOf safeFloat at read
  rw [given,overflow] at read
  cases read

-- The rule gets to a result where every dated entry has an amount that is read.
theorem card_runs (read : amountOf h txn = .ok amount)
    (small : (rule.parameters.largeAmountThreshold.getD (.finite 500)).greater amount = false) (dated : timestampOf h txn = some txnTs)
    (items : List Record) : (∃ b, matching (evalCardTesting h rule txn) items = .ok b) ↔
      ∀ rt ∈ items, (∃ rtTs, timestampOf h rt = some rtTs) → ∃ x, amountOf h rt = .ok x := by
  let step := smallStep h txnTs (windowSeconds h rule 30) (rule.parameters.smallAmountThreshold.getD (.finite 5))
  have folded : (∃ count, items.foldlM step 0 = .ok count) ↔
      ∀ rt ∈ items, (∃ rtTs, timestampOf h rt = some rtTs) → ∃ x, amountOf h rt = .ok x :=
    Fallible.fold_succeeds items (fun rt _ count => smallStep_succeeds txnTs _ _ rt count) 0
  rw [← folded]
  unfold matching evalCardTesting
  simp only [read,dated,small,bind,Except.bind]
  cases items.foldlM step 0 with
  | error e => simp [Except.map]
  | ok count =>
    simp only [Bool.false_eq_true,if_false]
    split <;> simp [Except.map,pure,Except.pure]

theorem card_undisturbed (own : visible (later h txn) seen = seen) :
    Undisturbed h txn (evalCardTesting h rule txn) seen ↔ CardStable h rule txn seen := by
  cases read : amountOf h txn with
  | error e =>
    refine iff_of_true ?_ ?_
    · apply stable_of
      intro items _ b
      unfold matching evalCardTesting
      rw [read]
      exact Iff.rfl
    · intro amount given
      cases read.symm.trans given
  | ok amount =>
    cases small : (rule.parameters.largeAmountThreshold.getD (.finite 500)).greater amount with
    | true =>
      refine iff_of_true (constant_undisturbed fun recent => ?_) ?_
      · unfold evalCardTesting
        rw [read]
        exact if_pos small
      · intro other given large
        cases read.symm.trans given
        cases small.symm.trans large
    | false =>
      cases dated : timestampOf h txn with
      | none =>
        refine iff_of_true (undated_undisturbed dated _ _) ?_
        intro _ _ _ txnTs given
        cases dated.symm.trans given
      | some txnTs =>
        have runs := card_runs read small dated
        constructor
        · intro stable other given large ts held
          cases dated.symm.trans held
          obtain ⟨n,unreadable⟩ := unreadable_entry h txnTs
          by_contra fine
          have all : ∀ rt ∈ seen, (∃ rtTs, timestampOf h rt = some rtTs) → ∃ x, amountOf h rt = .ok x := by
            intro rt member stamped
            by_contra none
            exact fine ⟨rt,member,stamped,none⟩
          obtain ⟨b,ran⟩ := (runs seen).mpr all
          have hides := entryAfter_later dated Int.one_pos (.str "") (.int n)
          have longer := (runs _).mp ⟨b,(Stable.padded stable own hides 1 b).mpr ran⟩
          exact unreadable (longer (entryAfter txnTs 1 (.str "") (.int n)) (List.mem_append_right _ (List.mem_singleton.mpr rfl))
            ⟨_,entryAfter_dated ..⟩)
        · intro given
          obtain ⟨rt,member,stamped,none⟩ := given amount read small txnTs dated
          have raises : ∀ items, visible (later h txn) items = seen → ∀ b, matching (evalCardTesting h rule txn) items ≠ .ok b := by
            intro items same b ran
            have there : rt ∈ items := List.mem_of_mem_filter (same.symm ▸ member : rt ∈ visible (later h txn) items)
            exact none ((runs items).mp ⟨b,ran⟩ rt there stamped)
          exact stable_raises raises

end Counts

section Escalating
variable {h} {rule : FraudRule} {txn : Record} {txnTs : AwareTime} {seen : List Record}

theorem escalating_exact (dated : timestampOf h txn = some txnTs) (recent : List Record) :
    matching (evalEscalatingAmounts h rule txn) recent =
      if (recent.length : Int) < rule.parameters.minTransactions.getD 3 - 1 then .ok false
      else (recent.filter (inWindow h txnTs (windowSeconds h rule 60))).mapM (amountOf h) >>= fun before =>
        amountOf h txn >>= fun own => (escalatingMatch h rule (h.sort (before ++ [own]))).map Option.isSome := by
  unfold matching evalEscalatingAmounts
  rw [dated]
  simp only
  split
  · rfl
  · cases (recent.filter (inWindow h txnTs (windowSeconds h rule 60))).mapM (amountOf h) with
    | error e => rfl
    | ok before => cases amountOf h txn <;> rfl

theorem readable_iff (recent : List Record) : Readable h rule txn txnTs recent ↔
    (∃ before, (recent.filter (inWindow h txnTs (windowSeconds h rule 60))).mapM (amountOf h) = .ok before) ∧
      ∃ x, amountOf h txn = .ok x := by
  unfold Readable
  rw [Fallible.mapM_succeeds]
  simp only [List.mem_filter,and_imp]

theorem escalating_reads (dated : timestampOf h txn = some txnTs)
    (long : rule.parameters.minTransactions.getD 3 - 1 ≤ (recent.length : Int))
    (ran : matching (evalEscalatingAmounts h rule txn) recent = .ok b) : Readable h rule txn txnTs recent := by
  rw [escalating_exact dated,if_neg (not_lt.mpr long)] at ran
  obtain ⟨before,read,ran⟩ := Fallible.bind_ok.mp ran
  obtain ⟨own,held,_⟩ := Fallible.bind_ok.mp ran
  exact (readable_iff recent).mpr ⟨⟨before,read⟩,own,held⟩

theorem escalatingMatch_runs (rule : FraudRule) (amounts : List PyFloat)
    (many : (rule.parameters.minTransactions.getD 3).natAbs < amounts.length) : ∃ b, escalatingMatch h rule amounts = .ok b := by
  have filled : lastFew (rule.parameters.minTransactions.getD 3) amounts ≠ [] := by
    unfold lastFew
    split <;> simp only [ne_eq,List.drop_eq_nil_iff] <;> omega
  unfold escalatingMatch
  simp only
  split
  · exact ⟨_,rfl⟩
  · split
    · cases few : lastFew (rule.parameters.minTransactions.getD 3) amounts with
      | nil => exact absurd few filled
      | cons smallest rest =>
        simp only
        split <;> exact ⟨_,rfl⟩
    · exact ⟨_,rfl⟩

theorem escalatingMatch_few (rule : FraudRule) (amounts : List PyFloat)
    (few : (amounts.length : Int) < rule.parameters.minTransactions.getD 3) : escalatingMatch h rule amounts = .ok none :=
  if_pos few

-- A window that reaches no later entry reads the same amounts with and without them.
theorem window_visible (closed : ¬Reaches window) (dated : timestampOf h txn = some txnTs) (recent : List Record) :
    recent.filter (inWindow h txnTs window) = (visible (later h txn) recent).filter (inWindow h txnTs window) := by
  unfold visible
  rw [List.filter_filter]
  apply List.filter_congr
  intro rt _
  cases hides : later h txn rt with
  | true => simp [unreached closed dated hides]
  | false => simp

theorem readable_visible (closed : ¬Reaches (windowSeconds h rule 60)) (dated : timestampOf h txn = some txnTs) (recent : List Record) :
    Readable h rule txn txnTs recent ↔ Readable h rule txn txnTs (visible (later h txn) recent) := by
  rw [readable_iff,readable_iff,window_visible closed dated]

theorem visible_length (same : visible (later h txn) recent = seen) : seen.length ≤ recent.length := by
  rw [← same]
  exact List.length_filter_le _ _

-- A later entry whose amount is read makes the rule raise where no float holds it, and lets
-- it go on where one does.
theorem escalating_reached (own : visible (later h txn) seen = seen) (dated : timestampOf h txn = some txnTs)
    (reaches : Reaches (windowSeconds h rule 60)) (stable : Undisturbed h txn (evalEscalatingAmounts h rule txn) seen) :
    rule.parameters.minTransactions.getD 3 - 1 ≤ (seen.length : Int) ∧ ¬Readable h rule txn txnTs seen := by
  let bound := (rule.parameters.minTransactions.getD 3).natAbs + 1
  have long : ∀ e, rule.parameters.minTransactions.getD 3 - 1 ≤ ((seen ++ List.replicate bound e).length : Int) := by
    intro e
    simp only [List.length_append,List.length_replicate,bound]
    omega
  have raises : ∀ b, matching (evalEscalatingAmounts h rule txn) seen ≠ .ok b := by
    intro b ran
    obtain ⟨n,unreadable⟩ := unreadable_entry h txnTs
    have hides := entryAfter_later dated Int.one_pos (.str "") (.int n)
    have longer := (Stable.padded stable own hides bound b).mpr ran
    apply unreadable
    refine (escalating_reads dated (long _) longer).1 _ ?_ (reached reaches txnTs _ _)
    exact List.mem_append_right _ (List.mem_replicate.mpr ⟨Nat.succ_ne_zero _,rfl⟩)
  constructor
  · by_contra short
    exact raises false ((escalating_exact dated seen).trans (if_pos (not_le.mp short)))
  · intro readable
    let e := entryAfter txnTs 1 (.str "") (.float (.finite 0))
    have read : amountOf h e = .ok (.finite 0) := by
      have given : e.value "transaction_amount" = .float (.finite 0) := rfl
      unfold amountOf safeFloat
      rw [given,h.floatFloat]
    have all : Readable h rule txn txnTs (seen ++ List.replicate bound e) := by
      refine ⟨?_,readable.2⟩
      intro rt member within
      rcases List.mem_append.mp member with old | new
      · exact readable.1 rt old within
      · rw [(List.mem_replicate.mp new).2]
        exact ⟨_,read⟩
    obtain ⟨⟨before,amounts⟩,x,held⟩ := (readable_iff _).mp all
    have many : bound ≤ before.length := by
      have length := (Fallible.mapM_ok amounts).length_eq
      rw [← length,List.filter_append,List.length_append,List.filter_replicate,if_pos (reached reaches txnTs _ _),List.length_replicate]
      exact Nat.le_add_left _ _
    obtain ⟨found,runs⟩ := escalatingMatch_runs (h := h) rule (h.sort (before ++ [x])) (by
      rw [(h.sorted _).length_eq,List.length_append]
      omega)
    have ran : matching (evalEscalatingAmounts h rule txn) (seen ++ List.replicate bound e) = .ok found.isSome := by
      rw [escalating_exact dated,if_neg (not_lt.mpr (long e)),amounts,held]
      simp only [bind,Except.bind,runs]
      rfl
    have hides := entryAfter_later dated Int.one_pos (.str "") (.float (.finite 0))
    exact raises _ ((Stable.padded stable own hides bound _).mp ran)

theorem escalating_undisturbed (own : visible (later h txn) seen = seen) :
    Undisturbed h txn (evalEscalatingAmounts h rule txn) seen ↔ EscalatingStable h rule txn seen := by
  cases dated : timestampOf h txn with
  | none =>
    exact undated_exact dated _ seen _
  | some txnTs =>
    constructor
    · intro stable ts held
      cases dated.symm.trans held
      by_cases reaches : Reaches (windowSeconds h rule 60)
      · exact .inl (escalating_reached own dated reaches stable)
      · refine .inr ⟨reaches,?_⟩
        by_contra neither
        obtain ⟨short,unreadable⟩ := not_or.mp neither
        have none := (escalating_exact dated seen).trans (if_pos (not_le.mp short))
        let bound := (rule.parameters.minTransactions.getD 3).natAbs
        have hides := entryAfter_later dated Int.one_pos (.str "") .none
        have longer := (Stable.padded stable own hides bound false).mpr none
        have long : rule.parameters.minTransactions.getD 3 - 1 ≤
            ((seen ++ List.replicate bound (entryAfter txnTs 1 (.str "") .none)).length : Int) := by
          simp only [List.length_append,List.length_replicate,bound]
          omega
        have readable := (readable_visible reaches dated _).mp (escalating_reads dated long longer)
        rw [visible_padded own hides] at readable
        exact unreadable readable
    · intro given
      rcases given txnTs dated with ⟨long,unreadable⟩ | ⟨closed,either⟩
      · have raises : ∀ items, visible (later h txn) items = seen → ∀ b, matching (evalEscalatingAmounts h rule txn) items ≠ .ok b := by
          intro items same b ran
          have longer := visible_length same
          have readable := escalating_reads dated (by omega) ran
          apply unreadable
          refine ⟨?_,readable.2⟩
          intro rt member within
          exact readable.1 rt (List.mem_of_mem_filter (same.symm ▸ member : rt ∈ visible (later h txn) items)) within
        exact stable_raises raises
      · apply stable_of
        intro items same
        have amounts := window_visible closed dated items
        rw [same] at amounts
        have longer := visible_length same
        rw [escalating_exact dated,escalating_exact dated,amounts]
        by_cases long : rule.parameters.minTransactions.getD 3 - 1 ≤ (seen.length : Int)
        · rw [if_neg (by omega),if_neg (by omega)]
          exact fun _ => Iff.rfl
        · rw [if_pos (by omega : (seen.length : Int) < rule.parameters.minTransactions.getD 3 - 1)]
          split
          · exact fun _ => Iff.rfl
          · obtain ⟨⟨before,read⟩,x,held⟩ := (readable_iff seen).mp (either.resolve_left long)
            have few : ((h.sort (before ++ [x])).length : Int) < rule.parameters.minTransactions.getD 3 := by
              have length := (Fallible.mapM_ok read).length_eq
              have part := List.length_filter_le (inWindow h txnTs (windowSeconds h rule 60)) seen
              rw [(h.sorted _).length_eq,List.length_append,List.length_singleton]
              omega
            simp only [read,held,bind,Except.bind,escalatingMatch_few rule _ few]
            exact fun _ => Iff.rfl

end Escalating

section Burst
variable {h} {rule : FraudRule} {txn ctx : Record} {txnTs : AwareTime} {seen : List Record}

theorem latest_most {timestamps : List AwareTime} (found : latest timestamps = some a) :
    a ∈ timestamps ∧ ∀ b ∈ timestamps, b.instant ≤ a.instant := by
  cases timestamps with
  | nil => cases found
  | cons first rest =>
    cases found
    induction rest generalizing first with
    | nil => simp
    | cons next others ih =>
      rw [List.foldl_cons]
      by_cases more : first.instant < next.instant
      · rw [if_pos more]
        obtain ⟨member,most⟩ := ih next
        refine ⟨List.mem_cons_of_mem _ member,?_⟩
        refine List.forall_mem_cons.mpr ⟨?_,most⟩
        exact more.le.trans (most next List.mem_cons_self)
      · rw [if_neg more]
        obtain ⟨member,most⟩ := ih first
        obtain ⟨own,later⟩ := List.forall_mem_cons.mp most
        refine ⟨?_,List.forall_mem_cons.mpr ⟨own,List.forall_mem_cons.mpr ⟨(not_lt.mp more).trans own,later⟩⟩⟩
        rcases List.mem_cons.mp member with same | old
        · rw [same]
          exact List.mem_cons_self
        · exact List.mem_cons_of_mem _ (List.mem_cons_of_mem _ old)

theorem latest_some {timestamps : List AwareTime} (filled : timestamps ≠ []) : ∃ a, latest timestamps = some a := by
  cases timestamps with
  | nil => exact absurd rfl filled
  | cons first rest => exact ⟨_,rfl⟩

-- Only the instant of the latest timestamp counts.
theorem silent_latest {timestamps : List AwareTime} (member : a ∈ timestamps) (most : ∀ b ∈ timestamps, b.instant ≤ a.instant)
    (same : t.instant = a.instant) :
    silent h rule txnTs ctx window timestamps = silent h rule txnTs ctx window [t] := by
  obtain ⟨best,found⟩ := latest_some (List.ne_nil_of_mem member)
  obtain ⟨inside,top⟩ := latest_most found
  have equal : txnTs.totalSeconds best = txnTs.totalSeconds t := by
    unfold AwareTime.totalSeconds
    rw [same,le_antisymm (most best inside) (top a member)]
  have alone : latest [t] = some t := rfl
  unfold silent
  rw [found,alone]
  simp only [equal]

theorem silent_perm {first second : List AwareTime} (same : first.Perm second) :
    silent h rule txnTs ctx window first = silent h rule txnTs ctx window second := by
  by_cases empty : first = []
  · subst empty
    rw [same.nil_eq]
  · obtain ⟨a,found⟩ := latest_some empty
    obtain ⟨member,most⟩ := latest_most found
    rw [silent_latest member most rfl,silent_latest (same.mem_iff.mp member) (fun b inside => most b (same.mem_iff.mpr inside)) rfl]

theorem burst_count (txnTs : AwareTime) (window : PyFloat) (recent : List Record) :
    (recent.filterMap (timestampOf h)).countP (fun ts => window.ge (.finite |txnTs.totalSeconds ts|)) = recent.countP (inWindow h txnTs window) := by
  rw [List.countP_filterMap]
  apply List.countP_congr
  intro rt _
  unfold inWindow
  cases timestampOf h rt <;> simp

theorem burst_exact (dated : timestampOf h txn = some txnTs) (recent : List Record) :
    matching (evalBurstAfterSilence h rule txn ctx) recent =
      if recent.filterMap (timestampOf h) = [] then .ok false
      else if (recent.countP (inWindow h txnTs (burstWindow h rule)) : Int) < rule.parameters.burstCount.getD 5 - 1 then .ok false
      else quiet h rule txnTs ctx (recent.filterMap (timestampOf h)) := by
  have ordered := List.mergeSort_perm (recent.filterMap (timestampOf h)) fun a b => decide (a.instant ≤ b.instant)
  have empty : (recent.filterMap (timestampOf h)).mergeSort (fun a b => decide (a.instant ≤ b.instant)) = [] ↔
      recent.filterMap (timestampOf h) = [] := by
    rw [← List.length_eq_zero_iff,ordered.length_eq,List.length_eq_zero_iff]
  unfold matching evalBurstAfterSilence quiet
  rw [dated,← burst_count]
  simp only [empty]
  generalize (recent.filterMap (timestampOf h)).mergeSort (fun a b => decide (a.instant ≤ b.instant)) = timestamps at ordered ⊢
  have before : silent h rule txnTs ctx (burstWindow h rule) (preBurst h rule txnTs timestamps) = quiet h rule txnTs ctx _ :=
    silent_perm (ordered.filter _)
  unfold quiet at before
  rw [← before,← ordered.countP_eq]
  simp only [burstWindow,preBurst]
  by_cases none : recent = []
  · rw [if_pos none,none]
    rfl
  rw [if_neg none]
  by_cases undated : recent.filterMap (timestampOf h) = []
  · rw [if_pos undated,if_pos undated]
    rfl
  rw [if_neg undated,if_neg undated]
  by_cases few : (timestamps.countP (fun ts => (h.times (rule.parameters.burstWindowMinutes.getD (.finite 30)) (.finite 60)).ge
      (.finite |txnTs.totalSeconds ts|)) : Int) < rule.parameters.burstCount.getD 5 - 1
  · rw [if_pos few]
    exact (if_pos few).symm
  rw [if_neg few]
  refine Eq.trans ?_ (if_neg few).symm
  cases silent h rule txnTs ctx _ _ with
  | error e => rfl
  | ok calm => cases calm <;> rfl

theorem negative_seconds {a b : AwareTime} (after : a.instant < b.instant) : a.totalSeconds b < 0 := by
  apply not_le.mp
  rw [FeatureEngineer.totalSeconds_nonneg]
  exact not_le.mpr after

-- A later entry is not before a burst whose window reaches it.
theorem burst_visible (reaches : Reaches (burstWindow h rule)) (dated : timestampOf h txn = some txnTs) (recent : List Record) :
    quiet h rule txnTs ctx (recent.filterMap (timestampOf h)) =
      quiet h rule txnTs ctx ((visible (later h txn) recent).filterMap (timestampOf h)) := by
  unfold quiet preBurst
  rw [filterMap_visible]
  intro rt _ hides ts stamped
  obtain ⟨own,rtTs,held,given,after⟩ := later_dated hides
  cases dated.symm.trans held
  cases stamped.symm.trans given
  have negative := negative_seconds after
  unfold Reaches at reaches
  cases window : burstWindow h rule with
  | finite w =>
    rw [window] at reaches
    simp only [PyFloat.ge,PyFloat.greater,Bool.or_eq_true,decide_eq_true_eq,PyFloat.finite.injEq] at reaches
    have positive : 0 < w := by
      have small : (0 : Rat) < 1 / 1000000 := by decide +kernel
      rcases reaches with more | ⟨equal,_⟩
      · exact small.trans more
      · exact equal ▸ small
    exact decide_eq_false (not_lt.mpr (negative.le.trans positive.le))
  | nan => rfl
  | infinity below =>
    cases below with
    | false => rfl
    | true =>
      rw [window] at reaches
      cases reaches

theorem timestamps_some (same : visible (later h txn) recent = seen) (some : seen.filterMap (timestampOf h) ≠ []) :
    recent.filterMap (timestampOf h) ≠ [] := by
  intro empty
  apply some
  rw [List.filterMap_eq_nil_iff] at empty ⊢
  intro rt member
  exact empty rt (List.mem_of_mem_filter (same.symm ▸ member : rt ∈ visible (later h txn) recent))

theorem burst_reached (own : visible (later h txn) seen = seen) (dated : timestampOf h txn = some txnTs) (reaches : Reaches (burstWindow h rule)) :
    Undisturbed h txn (evalBurstAfterSilence h rule txn ctx) seen ↔
      quiet h rule txnTs ctx (seen.filterMap (timestampOf h)) = .ok false ∨
        (seen.filterMap (timestampOf h) ≠ [] ∧
          rule.parameters.burstCount.getD 5 - 1 ≤ seen.countP (inWindow h txnTs (burstWindow h rule))) := by
  constructor
  · intro stable
    let e := entryAfter txnTs 1 (.str "") .none
    have hides : later h txn e = true := entryAfter_later dated Int.one_pos _ _
    let bound := (rule.parameters.burstCount.getD 5).natAbs + 1
    have many := Stable.padded stable own hides bound
    have longer : matching (evalBurstAfterSilence h rule txn ctx) (seen ++ List.replicate bound e) =
        quiet h rule txnTs ctx (seen.filterMap (timestampOf h)) := by
      have filled : (seen ++ List.replicate bound e).filterMap (timestampOf h) ≠ [] := by
        intro empty
        have none := List.filterMap_eq_nil_iff.mp empty e (List.mem_append_right _ (List.mem_replicate.mpr ⟨Nat.succ_ne_zero _,rfl⟩))
        cases none
      have counted : inWindow h txnTs (burstWindow h rule) e = true := reached reaches txnTs _ _
      rw [burst_exact dated,if_neg filled,if_neg,burst_visible reaches dated,visible_padded own hides]
      rw [count_padded counted]
      omega
    by_contra neither
    obtain ⟨loud,short⟩ := not_or.mp neither
    rw [longer,burst_exact dated] at many
    apply loud
    by_cases undated : seen.filterMap (timestampOf h) = []
    · rw [if_pos undated] at many
      exact (many false).mpr rfl
    · have few := not_le.mp fun enough => short ⟨undated,enough⟩
      rw [if_neg undated,if_pos few] at many
      exact (many false).mpr rfl
  · intro given
    apply stable_of
    intro items same
    have calm : quiet h rule txnTs ctx (items.filterMap (timestampOf h)) = quiet h rule txnTs ctx _ := burst_visible reaches dated items
    rw [same] at calm
    rw [burst_exact dated,burst_exact dated,calm]
    rcases given with loud | ⟨undated,enough⟩
    · rw [loud]
      simp only [ite_self]
      exact fun _ => Iff.rfl
    · have more := count_le (later h txn) (inWindow h txnTs (burstWindow h rule)) items
      rw [same] at more
      rw [if_neg (timestamps_some same undated),if_neg (by omega),if_neg undated,if_neg (by omega)]
      exact fun _ => Iff.rfl

theorem same_seconds {a b : AwareTime} (same : a.instant = b.instant) (txnTs : AwareTime) : txnTs.totalSeconds a = txnTs.totalSeconds b := by
  unfold AwareTime.totalSeconds
  rw [same]

-- The timestamp of an entry that is not later.
theorem stamped_before (own : visible (later h txn) seen = seen) (dated : timestampOf h txn = some txnTs)
    (inside : ts ∈ seen.filterMap (timestampOf h)) : ts.instant ≤ txnTs.instant := by
  obtain ⟨rt,member,stamped⟩ := List.mem_filterMap.mp inside
  have inVisible : rt ∈ visible (later h txn) seen := own.symm ▸ member
  have shown := (List.mem_filter.mp inVisible).2
  apply not_lt.mp
  intro after
  rw [(later_iff dated stamped).mpr after] at shown
  cases shown

-- A later entry before the burst stands for all of them: the latest one counts.
theorem quiet_later (own : visible (later h txn) seen = seen) (dated : timestampOf h txn = some txnTs) {timestamps : List AwareTime}
    (inside : a ∈ preBurst h rule txnTs timestamps) (after : txnTs.instant < a.instant) :
    ∃ microseconds, 0 < microseconds ∧ quiet h rule txnTs ctx timestamps =
      quiet h rule txnTs ctx (seen.filterMap (timestampOf h) ++ [⟨txnTs.instant + microseconds,0⟩]) := by
  obtain ⟨best,found⟩ := latest_some (List.ne_nil_of_mem inside)
  obtain ⟨member,most⟩ := latest_most found
  have moved : (⟨txnTs.instant + (best.instant - txnTs.instant),0⟩ : AwareTime).instant = best.instant := by
    simp only [AwareTime.instant]
    omega
  have past : txnTs.instant < best.instant := lt_of_lt_of_le after (most a inside)
  refine ⟨best.instant - txnTs.instant,by omega,?_⟩
  unfold quiet
  rw [silent_latest member most moved]
  refine (silent_latest ?_ ?_ rfl).symm
  · have kept := (List.mem_filter.mp member).2
    refine List.mem_filter.mpr ⟨List.mem_append_right _ (List.mem_singleton.mpr rfl),?_⟩
    rwa [same_seconds moved]
  · intro b listed
    rw [moved]
    rcases List.mem_append.mp (List.mem_of_mem_filter listed) with old | new
    · exact (stamped_before own dated old).trans past.le
    · rw [List.mem_singleton.mp new,moved]

-- With no later entry before the burst the timestamps before it are those that are seen.
theorem preBurst_kept (same : visible (later h txn) items = seen) (dated : timestampOf h txn = some txnTs)
    (before : ¬∃ a ∈ preBurst h rule txnTs (items.filterMap (timestampOf h)), txnTs.instant < a.instant) :
    preBurst h rule txnTs (items.filterMap (timestampOf h)) = preBurst h rule txnTs (seen.filterMap (timestampOf h)) := by
  unfold preBurst
  rw [@filterMap_visible _ _ (later h txn),same]
  intro rt member hides ts stamped
  by_contra inside
  obtain ⟨_,rtTs,held,stamp,after⟩ := later_dated hides
  cases dated.symm.trans held
  cases stamped.symm.trans stamp
  exact before ⟨ts,List.mem_filter.mpr ⟨List.mem_filterMap.mpr ⟨rt,member,stamped⟩,(Bool.not_eq_false _).mp inside⟩,after⟩

-- Where no timestamp is seen every timestamp is a later one.
theorem stamped_later (same : visible (later h txn) items = seen) (dated : timestampOf h txn = some txnTs)
    (none : seen.filterMap (timestampOf h) = []) (there : u ∈ items.filterMap (timestampOf h)) : txnTs.instant < u.instant := by
  obtain ⟨rt,member,stamped⟩ := List.mem_filterMap.mp there
  apply (later_iff dated stamped).mp
  by_contra shown
  have inSeen : rt ∈ seen := same ▸ List.mem_filter.mpr ⟨member,by simp [shown]⟩
  rw [List.filterMap_eq_nil_iff.mp none rt inSeen] at stamped
  cases stamped

theorem burst_unreached (own : visible (later h txn) seen = seen) (dated : timestampOf h txn = some txnTs) (closed : ¬Reaches (burstWindow h rule)) :
    Undisturbed h txn (evalBurstAfterSilence h rule txn ctx) seen ↔
      (rule.parameters.burstCount.getD 5 - 1 ≤ seen.countP (inWindow h txnTs (burstWindow h rule)) → ∀ microseconds, 0 < microseconds →
        Fallible.Same (quiet h rule txnTs ctx (seen.filterMap (timestampOf h) ++ [⟨txnTs.instant + microseconds,0⟩]))
          (if seen.filterMap (timestampOf h) = [] then .ok false else quiet h rule txnTs ctx (seen.filterMap (timestampOf h)))) := by
  have counts : ∀ items, visible (later h txn) items = seen →
      items.countP (inWindow h txnTs (burstWindow h rule)) = seen.countP (inWindow h txnTs (burstWindow h rule)) := by
    intro items same
    rw [count_visible _ fun rt _ hides => unreached closed dated hides,same]
  constructor
  · intro stable enough microseconds positive
    let e := entryAfter txnTs microseconds (.str "") .none
    have hides : later h txn e = true := entryAfter_later dated positive _ _
    have one := Stable.padded stable own hides 1
    have stamps : (seen ++ List.replicate 1 e).filterMap (timestampOf h) =
        seen.filterMap (timestampOf h) ++ [⟨txnTs.instant + microseconds,0⟩] := List.filterMap_append ..
    rw [burst_exact dated,burst_exact dated,counts _ (visible_padded own hides 1),stamps] at one
    rw [if_neg (List.append_ne_nil_of_right_ne_nil _ (List.cons_ne_nil _ _)),if_neg (not_lt.mpr enough),if_neg (not_lt.mpr enough)] at one
    exact one
  · intro given
    apply stable_of
    intro items same
    rw [burst_exact dated,burst_exact dated,counts items same]
    by_cases enough : rule.parameters.burstCount.getD 5 - 1 ≤ (seen.countP (inWindow h txnTs (burstWindow h rule)) : Int)
    · rw [if_neg (not_lt.mpr enough),if_neg (not_lt.mpr enough)]
      by_cases empty : items.filterMap (timestampOf h) = []
      · have none : seen.filterMap (timestampOf h) = [] := by
          by_contra some
          exact timestamps_some same some empty
        rw [if_pos empty,if_pos none]
        exact fun _ => Iff.rfl
      rw [if_neg empty]
      by_cases before : ∃ a ∈ preBurst h rule txnTs (items.filterMap (timestampOf h)), txnTs.instant < a.instant
      · obtain ⟨a,inside,after⟩ := before
        obtain ⟨microseconds,positive,equal⟩ := quiet_later own dated inside after
        rw [equal]
        exact given enough microseconds positive
      · have kept := preBurst_kept same dated before
        have equal : quiet h rule txnTs ctx (items.filterMap (timestampOf h)) = quiet h rule txnTs ctx (seen.filterMap (timestampOf h)) := by
          unfold quiet
          rw [kept]
        rw [equal]
        by_cases none : seen.filterMap (timestampOf h) = []
        · obtain ⟨u,there⟩ := List.exists_mem_of_ne_nil _ empty
          have after := stamped_later same dated none there
          have moved : (⟨txnTs.instant + (u.instant - txnTs.instant),0⟩ : AwareTime).instant = u.instant := by
            simp only [AwareTime.instant]
            omega
          have outside : preBurst h rule txnTs [⟨txnTs.instant + (u.instant - txnTs.instant),0⟩] = [] := by
            apply List.filter_eq_nil_iff.mpr
            intro ts alone
            rw [List.mem_singleton.mp alone,same_seconds moved]
            exact fun inside => before ⟨u,List.mem_filter.mpr ⟨there,inside⟩,after⟩
          have one := given enough (u.instant - txnTs.instant) (by omega)
          unfold quiet at one ⊢
          rw [none,List.nil_append,outside] at one
          rw [none]
          exact one
        · rw [if_neg none]
          exact fun _ => Iff.rfl
    · rw [if_pos (not_le.mp enough),if_pos (not_le.mp enough),ite_self,ite_self]
      exact fun _ => Iff.rfl

theorem burst_undisturbed (own : visible (later h txn) seen = seen) :
    Undisturbed h txn (evalBurstAfterSilence h rule txn ctx) seen ↔ BurstStable h rule txn ctx seen := by
  cases dated : timestampOf h txn with
  | none =>
    exact undated_exact dated _ seen _
  | some txnTs =>
    constructor
    · intro stable ts held
      cases dated.symm.trans held
      exact ⟨fun reaches => (burst_reached own dated reaches).mp stable,fun closed => (burst_unreached own dated closed).mp stable⟩
    · intro given
      obtain ⟨within,closed⟩ := given txnTs dated
      by_cases reaches : Reaches (burstWindow h rule)
      · exact (burst_reached own dated reaches).mpr (within reaches)
      · exact (burst_unreached own dated reaches).mpr (closed reaches)

end Burst

theorem later_transactions (rule : FraudRule) (txn ctx : Record) (history : List Record) :
    let seen := visible (later h txn) history
    (Undisturbed h txn (evalRapidTransactions h rule txn) seen ↔ RapidStable h rule txn seen) ∧
      (Undisturbed h txn (evalDeclinedThenApproved h rule txn) seen ↔ DeclinedStable h rule txn seen) ∧
      (Undisturbed h txn (evalEscalatingAmounts h rule txn) seen ↔ EscalatingStable h rule txn seen) ∧
      (Undisturbed h txn (evalCardTesting h rule txn) seen ↔ CardStable h rule txn seen) ∧
      (Undisturbed h txn (evalBurstAfterSilence h rule txn ctx) seen ↔ BurstStable h rule txn ctx seen) := by
  intro seen
  have own : visible (later h txn) seen = seen := visible_visible _ _
  exact ⟨rapid_undisturbed own,declined_undisturbed own,escalating_undisturbed own,card_undisturbed own,burst_undisturbed own⟩

def exampleRuleHost : FraudRuleHost where
  float v := match v with
    | .int n => if n < 10 ^ 400 then .ok (.finite n) else .error .overflow
    | v => match v.number with
      | some x => .ok x
      | none => .error .refused
  strptime _ := none
  times := PyFloat.exactly fun a b => a * b
  minus := PyFloat.exactly fun a b => a - b
  sort amounts := amounts
  sorted _ := .rfl
  floatFloat _ := rfl
  tooLarge := ⟨10 ^ 400,if_neg (lt_irrefl _)⟩

def declinedRule : FraudRule where
  id := "FRAUD-VEL-002"
  name := "Multiple Declined Then Approved"
  category := "velocity"
  severity := "high"
  confidence := .finite (85 / 100)
  parameters := ⟨none,some 3,none,none,some (.finite 30),none,none,none,none,none,none⟩

def approvedTransaction : Record :=
  .ofList [("transaction_timestamp",.datetime 1767618000000000 (some 0)),("status",.str "approved"),("transaction_amount",.int 100)]

-- Three transactions declined a minute after the approved one.
theorem declines_after : ¬Undisturbed exampleRuleHost approvedTransaction
    (evalDeclinedThenApproved exampleRuleHost declinedRule approvedTransaction) [] := by
  intro stable
  let declined := entryAfter ⟨1767618000000000,0⟩ 60000000 (.str "declined") (.int 100)
  have none : visible (later exampleRuleHost approvedTransaction) [declined,declined,declined] = [] := by decide +kernel
  have fires : matching (evalDeclinedThenApproved exampleRuleHost declinedRule approvedTransaction) [declined,declined,declined] = .ok true := by
    decide +kernel
  cases (stable [] [declined,declined,declined] rfl none true).mpr fires

end RiskPulse.FraudRuleEngine
