import Mathlib.Data.List.Chain
import Mathlib.Data.List.DropRight
import Mathlib.Data.List.Sort
import Mathlib.Data.Prod.Lex
import Mathlib.Tactic.Tauto
import RiskPulse.FraudRules

namespace RiskPulse
namespace PyFloat

theorem greater_asymm (a b : PyFloat) (more : a.greater b = true) : b.greater a = false := by
  cases a with
  | finite x =>
    cases b with
    | finite y => exact decide_eq_false (not_lt.mpr (le_of_lt (of_decide_eq_true more)))
    | nan => rfl
    | infinity negative => exact congrArg not more
  | nan => cases more
  | infinity negative =>
    cases b with
    | finite y => exact (Bool.not_eq_true' negative).mp more
    | nan => rfl
    | infinity other => cases negative <;> cases other <;> first | rfl | cases more

theorem ge_antisymm (a b : PyFloat) (more : a.ge b = true) (less : b.ge a = true) : a = b := by
  unfold ge at more less
  rcases Bool.or_eq_true_iff.mp more with above | same
  · rw [greater_asymm a b above,Bool.false_or] at less
    exact (of_decide_eq_true less).1.symm
  · exact (of_decide_eq_true same).1

theorem ge_nan (a : PyFloat) : a.ge .nan = false := by
  cases a <;> simp [ge,greater]

theorem nan_ge (b : PyFloat) : nan.ge b = false := by
  cases b <;> simp [ge,greater]

end PyFloat

namespace FraudRuleEngine
variable (h : FraudRuleHost)

-- The amounts are positive and each is at least the factor times the one before.
def Escalates (factor : PyFloat) (amounts : List PyFloat) : Prop :=
  (∀ x ∈ amounts, x.greater (.finite 0) = true) ∧ amounts.IsChain fun a b => b.ge (h.times a factor) = true

-- One step up, from a positive amount.
def Rises (factor a b : PyFloat) : Prop := a.greater (.finite 0) = true ∧ b.ge (h.times a factor) = true

instance (factor : PyFloat) : DecidableRel (Rises h factor) := fun _ _ => inferInstanceAs (Decidable (_ ∧ _))

-- Two neighbours that are no step up.
def Falls (factor : PyFloat) (amounts : List PyFloat) : Prop :=
  ∃ before a b after, amounts = before ++ a :: b :: after ∧ ¬Rises h factor a b

-- A positive amount times the factor is positive.
def Grows (factor : PyFloat) : Prop := ∀ a : PyFloat, a.greater (.finite 0) = true → (h.times a factor).greater (.finite 0) = true

section Steps
variable {h} {factor : PyFloat}

theorem ge_positive {a b : PyFloat} (most : b.ge a = true) (positive : a.greater (.finite 0) = true) : b.greater (.finite 0) = true := by
  cases a with
  | finite x =>
    cases b with
    | finite y => exact decide_eq_true (lt_of_lt_of_le (of_decide_eq_true positive) ((PyFloat.ge_finite y x).mp most))
    | nan => cases most
    | infinity negative => cases negative <;> first | rfl | cases most
  | nan => cases positive
  | infinity negative =>
    cases negative
    · cases b with
      | finite y => cases most
      | nan => cases most
      | infinity other => cases other <;> first | rfl | cases most
    · cases positive

theorem falls_chain (amounts : List PyFloat) : ¬Falls h factor amounts ↔ amounts.IsChain (Rises h factor) := by
  rw [List.isChain_iff_forall_rel_of_append_cons_cons]
  constructor
  · intro steady a b before after whole
    by_contra down
    exact steady ⟨before,a,b,after,whole,down⟩
  · intro rising ⟨before,a,b,after,whole,down⟩
    exact down (rising whole)

theorem rises_positive (grows : Grows h factor) (rest : List PyFloat) (a b : PyFloat) (chain : (a :: b :: rest).IsChain (Rises h factor)) :
    ∀ x ∈ a :: b :: rest, x.greater (.finite 0) = true := by
  induction rest generalizing a b with
  | nil =>
    obtain ⟨up,_⟩ := List.isChain_cons_cons.mp chain
    intro x member
    rcases List.mem_cons.mp member with same | last
    · exact same ▸ up.1
    · exact List.mem_singleton.mp last ▸ ge_positive up.2 (grows a up.1)
  | cons c rest ih =>
    obtain ⟨up,later⟩ := List.isChain_cons_cons.mp chain
    intro x member
    rcases List.mem_cons.mp member with same | further
    · exact same ▸ up.1
    · exact ih b c later x further

-- Two amounts or more escalate where no two neighbours fall.
theorem escalates_falls (grows : Grows h factor) (amounts : List PyFloat) (two : 2 ≤ amounts.length) :
    Escalates h factor amounts ↔ ¬Falls h factor amounts := by
  rw [falls_chain]
  constructor
  · intro ⟨positive,chain⟩
    rw [List.isChain_iff_forall_rel_of_append_cons_cons] at chain ⊢
    intro a b before after whole
    exact ⟨positive a (whole ▸ List.mem_append_right _ List.mem_cons_self),chain whole⟩
  · intro chain
    match amounts with
    | [] => cases two
    | [_] => exact absurd two (by simp)
    | a :: b :: rest => exact ⟨rises_positive grows rest a b chain,chain.imp fun _ _ up => up.2⟩

theorem isEscalating_chain (grows : Grows h factor) (rest : List PyFloat) (a : PyFloat) (positive : a.greater (.finite 0) = true) :
    isEscalating h factor (a :: rest) = true ↔ (a :: rest).IsChain (Rises h factor) := by
  induction rest generalizing a with
  | nil => simp [isEscalating]
  | cons b rest ih =>
    rw [isEscalating,if_pos positive,Bool.and_eq_true,List.isChain_cons_cons]
    constructor
    · intro ⟨up,later⟩
      exact ⟨⟨positive,up⟩,(ih b (ge_positive up (grows a positive))).mp later⟩
    · intro ⟨up,later⟩
      exact ⟨up.2,(ih b (ge_positive up.2 (grows a positive))).mpr later⟩

end Steps

-- The amounts of these transactions.
def amountsOf (entries : List Record) : Except String (List PyFloat) := entries.mapM (amountOf h)

-- The parameters of the rule: at least two transactions, and a factor above one.
structure EscalationParameters (rule : FraudRule) (n : Nat) (factor : PyFloat) : Prop where
  transactions : rule.parameters.minTransactions.getD 3 = n
  escalation : rule.parameters.escalationFactor.getD (.finite 2) = factor
  two : 2 ≤ n
  above : factor.greater (.finite 1) = true

section Match
variable {h} {rule : FraudRule} {n : Nat} {factor : PyFloat} {txn : Record} {txnTs : AwareTime} {recent : List Record}

theorem lastFew_rtake (n : Nat) (some : 0 < n) (amounts : List PyFloat) : lastFew n amounts = amounts.rtake n := by
  rw [lastFew,if_pos (by exact_mod_cast some)]
  rfl

theorem rtake_length (n : Nat) (amounts : List PyFloat) (enough : n ≤ amounts.length) : (amounts.rtake n).length = n := by
  rw [List.rtake,List.length_drop]
  omega

-- The match over the sorted amounts is one on the last few of them.
theorem escalating_match (given : EscalationParameters rule n factor) (grows : Grows h factor) (amounts : List PyFloat) :
    (∃ fired, escalatingMatch h rule amounts = .ok (some fired)) ↔ n ≤ amounts.length ∧ ¬Falls h factor (amounts.rtake n) := by
  have positive : 0 < n := Nat.lt_of_lt_of_le Nat.zero_lt_two given.two
  unfold escalatingMatch
  simp only [given.transactions,given.escalation,lastFew_rtake n positive]
  by_cases few : (amounts.length : Int) < n
  · rw [if_pos few]
    have short : ¬n ≤ amounts.length := by omega
    simp [short]
  · have enough : n ≤ amounts.length := by omega
    rw [if_neg few]
    match found : amounts.rtake n with
    | [] =>
      have counted := rtake_length n amounts enough
      rw [found] at counted
      exact absurd counted.symm (Nat.ne_of_gt positive)
    | a :: rest =>
      rw [falls_chain]
      by_cases up : a.greater (.finite 0) = true
      · by_cases chain : (a :: rest).IsChain (Rises h factor)
        · rw [if_pos ((isEscalating_chain grows rest a up).mpr chain)]
          simp [chain,up,enough,matched]
        · rw [if_neg (mt (isEscalating_chain grows rest a up).mp chain)]
          simp [chain]
      · have broken : ¬(a :: rest).IsChain (Rises h factor) := by
          intro chain
          match rest with
          | [] =>
            have counted := rtake_length n amounts enough
            rw [found] at counted
            rw [List.length_singleton] at counted
            exact absurd given.two (by omega)
          | b :: others => exact up (List.isChain_cons_cons.mp chain).1.1
        split <;> simp [up,broken]

end Match

-- The entries of the window around the transaction, and those of them that are dated no
-- later than it.
def around (rule : FraudRule) (txn rt : Record) : Bool :=
  match timestampOf h txn with
  | some txnTs => inWindow h txnTs (windowSeconds h rule 60) rt
  | none => false

def upTo (rule : FraudRule) (txn rt : Record) : Bool :=
  match timestampOf h txn,timestampOf h rt with
  | some txnTs,some rtTs => around h rule txn rt && decide (rtTs.instant ≤ txnTs.instant)
  | _,_ => false

-- One arrangement of the entries up to the transaction in the order of their times, with
-- those of one time in any order.
structure Chronological (rule : FraudRule) (txn : Record) (recent ordered : List Record) : Prop where
  entries : ordered.Perm (recent.filter (upTo h rule txn))
  forward : ordered.Pairwise fun earlier later =>
    ∀ a b, timestampOf h earlier = some a → timestampOf h later = some b → a.instant ≤ b.instant

def momentOf (rt : Record) : Int := ((timestampOf h rt).map AwareTime.instant).getD 0

-- Every history has one: its entries sorted by their times.
theorem chronological_exists (rule : FraudRule) (txn : Record) (recent : List Record) : ∃ ordered, Chronological h rule txn recent ordered := by
  refine ⟨(recent.filter (upTo h rule txn)).mergeSort fun a b => decide (momentOf h a ≤ momentOf h b),List.mergeSort_perm _ _,?_⟩
  have sorted := @List.pairwise_mergeSort _ (fun a b => decide (momentOf h a ≤ momentOf h b))
    (fun _ _ _ first second => decide_eq_true (le_trans (of_decide_eq_true first) (of_decide_eq_true second)))
    (fun a b => by simpa using le_total (momentOf h a) (momentOf h b)) (recent.filter (upTo h rule txn))
  apply sorted.imp
  intro earlier later before a b first second
  have least := of_decide_eq_true before
  simpa [momentOf,first,second] using least

-- The last of the transactions have amounts that escalate, or that no two neighbours of fall.
def LatestEscalate (n : Nat) (factor : PyFloat) (entries : List Record) : Prop :=
  n ≤ entries.length ∧ ∃ amounts, amountsOf h (entries.rtake n) = .ok amounts ∧ Escalates h factor amounts

def LatestRise (n : Nat) (factor : PyFloat) (entries : List Record) : Prop :=
  n ≤ entries.length ∧ ∃ amounts, amountsOf h (entries.rtake n) = .ok amounts ∧ ¬Falls h factor amounts

-- No two neighbours fall among the largest amounts of the transactions, in ascending order.
def LargestRise (n : Nat) (factor : PyFloat) (entries : List Record) : Prop :=
  ∃ amounts, amountsOf h entries = .ok amounts ∧ n ≤ amounts.length ∧ ¬Falls h factor ((h.sort amounts).rtake n)

-- No entry around the transaction is dated after it, and the amounts never fall with time.
structure GrownInTime (rule : FraudRule) (txn : Record) (recent ordered : List Record) : Prop where
  past : ∀ rt ∈ recent, upTo h rule txn rt = around h rule txn rt
  ascending : ∃ amounts, amountsOf h (ordered ++ [txn]) = .ok amounts ∧ amounts.Pairwise fun a b => b.ge a = true

-- A positive number times one above 1 is positive.
def Multiplies : Prop := ∀ factor : PyFloat, factor.greater (.finite 1) = true → Grows h factor

-- list.sort() puts numbers into their ascending order, where they have one.
def SortsAscending : Prop :=
  ∀ amounts ascending : List PyFloat, amounts.Perm ascending → (ascending.Pairwise fun a b => b.ge a = true) → h.sort amounts = ascending

section Fires
variable {h} {rule : FraudRule} {n : Nat} {factor : PyFloat} {txn : Record} {recent ordered : List Record}

theorem amountsOf_length {entries : List Record} {amounts : List PyFloat} (read : amountsOf h entries = .ok amounts) :
    amounts.length = entries.length :=
  (Fallible.mapM_ok read).length_eq.symm

theorem latest_escalate (two : 2 ≤ n) (grows : Grows h factor) (entries : List Record) :
    LatestEscalate h n factor entries ↔ LatestRise h n factor entries := by
  apply and_congr_right
  intro enough
  apply exists_congr
  intro amounts
  apply and_congr_right
  intro read
  apply escalates_falls grows
  rw [amountsOf_length read,List.rtake,List.length_drop]
  omega

theorem amounts_append (entries : List Record) (txn : Record) (amounts : List PyFloat) :
    amountsOf h (entries ++ [txn]) = .ok amounts ↔
      ∃ before own, amountsOf h entries = .ok before ∧ amountOf h txn = .ok own ∧ amounts = before ++ [own] := by
  unfold amountsOf
  rw [List.mapM_append,Fallible.bind_ok]
  constructor
  · intro ⟨before,read,later⟩
    obtain ⟨last,own,whole⟩ := Fallible.bind_ok.mp later
    obtain ⟨x,mine,only⟩ := Fallible.mapM_one.mp own
    cases whole
    exact ⟨before,x,read,mine,by rw [only]⟩
  · intro ⟨before,x,read,mine,whole⟩
    subst whole
    exact ⟨before,read,Fallible.bind_ok.mpr ⟨[x],Fallible.mapM_one.mpr ⟨x,mine,rfl⟩,rfl⟩⟩

-- Nothing is around a transaction without a timestamp.
theorem undated_alone (undated : timestampOf h txn = none) : recent.filter (around h rule txn) = [] := by
  apply List.filter_eq_nil_iff.mpr
  intro rt _ inside
  rw [around,undated] at inside
  cases inside

-- There are no more amounts than the history has entries, and the transaction's own.
theorem largest_enough (rise : LargestRise h n factor (recent.filter (around h rule txn) ++ [txn])) :
    n ≤ (recent.filter (around h rule txn)).length + 1 := by
  obtain ⟨amounts,read,enough,_⟩ := rise
  rw [amountsOf_length read,List.length_append,List.length_singleton] at enough
  exact enough

-- When the rule fires: the amounts of the whole window are sorted, whatever their times.
theorem escalating_fires (given : EscalationParameters rule n factor) (grows : Grows h factor) :
    (∃ fired, evalEscalatingAmounts h rule txn recent = .ok (some fired)) ↔
      LargestRise h n factor (recent.filter (around h rule txn) ++ [txn]) := by
  unfold evalEscalatingAmounts
  cases dated : timestampOf h txn with
  | none =>
    constructor
    · intro ⟨_,fires⟩
      cases fires
    · intro rise
      have enough := largest_enough rise
      rw [undated_alone dated] at enough
      exact absurd (le_trans given.two enough) (by decide)
  | some txnTs =>
    have inside : around h rule txn = inWindow h txnTs (windowSeconds h rule 60) := by
      funext rt
      rw [around,dated]
    rw [given.transactions]
    dsimp only
    split
    · rename_i few
      have fewer := List.length_filter_le (around h rule txn) recent
      constructor
      · intro ⟨_,fires⟩
        cases fires
      · intro rise
        have enough := largest_enough rise
        omega
    · unfold LargestRise
      rw [inside]
      constructor
      · intro ⟨fired,fires⟩
        obtain ⟨before,read,rest⟩ := Fallible.bind_ok.mp fires
        obtain ⟨own,mine,found⟩ := Fallible.bind_ok.mp rest
        have rising := (escalating_match given grows _).mp ⟨fired,found⟩
        rw [(h.sorted _).length_eq] at rising
        exact ⟨before ++ [own],(amounts_append _ _ _).mpr ⟨before,own,read,mine,rfl⟩,rising⟩
      · intro ⟨amounts,read,rising⟩
        obtain ⟨before,own,others,mine,whole⟩ := (amounts_append _ _ _).mp read
        subst whole
        rw [← (h.sorted _).length_eq] at rising
        obtain ⟨fired,found⟩ := (escalating_match given grows _).mpr rising
        exact ⟨fired,Fallible.bind_ok.mpr ⟨before,others,Fallible.bind_ok.mpr ⟨own,mine,found⟩⟩⟩

-- Where the amounts never fall with time and no entry is dated after the transaction, the
-- latest amounts are the largest.
theorem grown_latest (n : Nat) (factor : PyFloat) (ascends : SortsAscending h) (chronological : Chronological h rule txn recent ordered)
    (grown : GrownInTime h rule txn recent ordered) :
    LargestRise h n factor (recent.filter (around h rule txn) ++ [txn]) ↔ LatestRise h n factor (ordered ++ [txn]) := by
  obtain ⟨amounts,read,ascending⟩ := grown.ascending
  have same : (recent.filter (around h rule txn) ++ [txn]).Perm (ordered ++ [txn]) := by
    have entries := chronological.entries.symm
    rw [List.filter_congr grown.past] at entries
    exact entries.append_right [txn]
  obtain ⟨moved,again,perm⟩ := Fallible.mapM_perm same read
  have last : amountsOf h ((ordered ++ [txn]).rtake n) = .ok (amounts.rtake n) := by
    rw [List.rtake,List.rtake,amountsOf_length read]
    exact Fallible.mapM_drop _ read
  unfold LargestRise LatestRise
  rw [show amountsOf h (recent.filter (around h rule txn) ++ [txn]) = .ok moved from again,last,← amountsOf_length read]
  constructor
  · intro ⟨_,found,enough,rising⟩
    cases found
    rw [ascends moved amounts perm ascending] at rising
    rw [perm.length_eq] at enough
    exact ⟨enough,_,rfl,rising⟩
  · intro ⟨enough,_,found,rising⟩
    cases found
    refine ⟨moved,rfl,perm.length_eq ▸ enough,?_⟩
    rw [ascends moved amounts perm ascending]
    exact rising

end Fires

-- The place of a number in the order of the floats.
def place : PyFloat → Lex (Nat × Rat)
  | .infinity true => toLex (0,0)
  | .finite q => toLex (1,q)
  | .infinity false => toLex (2,0)
  | .nan => toLex (3,0)

theorem ge_place (a b : PyFloat) (number : a ≠ .nan) (other : b ≠ .nan) : b.ge a = decide (place a ≤ place b) := by
  cases a with
  | nan => exact absurd rfl number
  | finite x =>
    cases b with
    | nan => exact absurd rfl other
    | finite y =>
      rw [Bool.eq_iff_iff,PyFloat.ge_finite,decide_eq_true_iff]
      simp [place,Prod.Lex.toLex_le_toLex]
    | infinity negative => cases negative <;> rfl
  | infinity negative =>
    cases b with
    | nan => exact absurd rfl other
    | finite y => cases negative <;> rfl
    | infinity second => cases negative <;> cases second <;> rfl

theorem exactHost_ascends : SortsAscending FraudRuleHost.exact := by
  intro amounts ascending same ordered
  have perm := (FraudRuleHost.exact.sorted amounts).trans same
  match ascending with
  | [] => exact perm.eq_nil
  | [x] => exact perm.eq_singleton
  | x :: y :: rest =>
    obtain ⟨least,later⟩ := List.pairwise_cons.mp ordered
    have numbers : ∀ a ∈ x :: y :: rest, a ≠ .nan := by
      intro a member none
      subst none
      rcases List.mem_cons.mp member with first | further
      · have up := least y List.mem_cons_self
        rw [← first,PyFloat.ge_nan] at up
        cases up
      · have up := least .nan further
        rw [PyFloat.nan_ge] at up
        cases up
    have places : (FraudRuleHost.exact.sort amounts).map place = (amounts.map place).mergeSort fun a b => decide (a ≤ b) :=
      List.map_mergeSort fun a first b second => ge_place a b (numbers a (same.subset first)) (numbers b (same.subset second))
    have sorted := List.pairwise_mergeSort' (· ≤ ·) (amounts.map place)
    rw [← places,List.pairwise_map] at sorted
    have inOrder : (FraudRuleHost.exact.sort amounts).Pairwise fun a b => b.ge a = true := by
      apply sorted.imp_of_mem
      intro a b first second up
      rw [ge_place a b (numbers a (perm.subset first)) (numbers b (perm.subset second))]
      exact decide_eq_true up
    exact perm.eq_of_pairwise (fun a b _ _ up down => PyFloat.ge_antisymm a b down up) inOrder ordered

theorem exactHost_multiplies : Multiplies FraudRuleHost.exact := by
  intro factor above a positive
  cases a with
  | finite x =>
    have more : 0 < x := of_decide_eq_true positive
    cases factor with
    | finite y => exact decide_eq_true (mul_pos more (lt_trans one_pos (of_decide_eq_true above)))
    | nan => cases above
    | infinity negative =>
      cases negative
      · change (PyFloat.product (.finite x) (.infinity false)).greater (.finite 0) = true
        simp [PyFloat.product,PyFloat.greater,more.ne',more.le]
      · cases above
  | nan => cases positive
  | infinity negative =>
    cases negative
    · cases factor with
      | finite y =>
        have larger : 0 < y := lt_trans one_pos (of_decide_eq_true above)
        change (PyFloat.product (.infinity false) (.finite y)).greater (.finite 0) = true
        simp [PyFloat.product,PyFloat.greater,larger.ne',larger.le]
      | nan => cases above
      | infinity other =>
        cases other
        · rfl
        · cases above
    · cases positive

def escalationRule : FraudRule where
  id := "FRAUD-VEL-003"
  name := "Escalating Amount Pattern"
  category := "velocity"
  severity := "medium"
  confidence := .finite (60 / 100)
  parameters := ⟨none,none,some 3,some (.finite 2),some (.finite 60),none,none,none,none,none,none⟩

theorem escalationRule_parameters : EscalationParameters escalationRule 3 (.finite 2) := ⟨rfl,rfl,by decide,by decide⟩

-- A transaction of so much, so many seconds after the epoch.
def amountAt (amount : Rat) (seconds : Int) : Record :=
  .ofList [("transaction_amount",.float (.finite amount)),("transaction_timestamp",.datetime (seconds * 1000000) (some 0))]

-- Amounts that halve every ten minutes, and amounts that double after a smaller fall.
def falling : List Record := [amountAt 800 0,amountAt 400 600,amountAt 200 1200]

def doubling : List Record := [amountAt 150 0,amountAt 100 600,amountAt 200 1200]

theorem amountAt_timestamp (amount : Rat) (seconds : Int) :
    timestampOf FraudRuleHost.exact (amountAt amount seconds) = some ⟨seconds * 1000000,0⟩ := rfl

theorem falling_chronological : Chronological FraudRuleHost.exact escalationRule (amountAt 100 1800) falling falling where
  entries := by
    rw [List.filter_eq_self.mpr (by decide +kernel)]
  forward := by
    simp [falling,amountAt_timestamp,AwareTime.instant]

theorem doubling_chronological : Chronological FraudRuleHost.exact escalationRule (amountAt 400 1800) doubling doubling where
  entries := by
    rw [List.filter_eq_self.mpr (by decide +kernel)]
  forward := by
    simp [doubling,amountAt_timestamp,AwareTime.instant]

end FraudRuleEngine
end RiskPulse
