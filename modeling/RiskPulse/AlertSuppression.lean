import RiskPulse.AlertSteps

namespace RiskPulse.AlertManager
open Runs
variable {m : AlertManager}

-- The last move of an alert of the account that suppressed it.
def lastMove (moved : List Moved) (accountId : Value) : Option Moved :=
  (moved.filter fun mv => decide (mv.accountId = accountId)).getLast?

theorem lastMove_append (moved : List Moved) (mv : Moved) (accountId : Value) :
    lastMove (moved ++ [mv]) accountId = if mv.accountId = accountId then some mv else lastMove moved accountId := by
  unfold lastMove
  rw [List.filter_append]
  by_cases own : mv.accountId = accountId
  · simp [own]
  · simp [own]

theorem lastMove_own (last : lastMove moved accountId = some mv) : mv ∈ moved ∧ mv.accountId = accountId := by
  have member := List.mem_of_getLast? last
  exact ⟨(List.mem_filter.mp member).1,of_decide_eq_true (List.mem_filter.mp member).2⟩

-- It lies within the cooldown.
def HeldBack (m : AlertManager) (s : AlertState) (now : Rat) (accountId : Value) : Prop :=
  ∃ mv, lastMove s.moved accountId = some mv ∧ now - mv.time ≤ m.suppression.cooldownSeconds

-- The account has an alert under investigation, or one that was resolved or closed
-- as false positive within the cooldown.
def Investigated (s : AlertState) (accountId : Value) : Prop :=
  ∃ alertId alert, s.alerts.get? alertId = some alert ∧ alert.accountId = accountId ∧ alert.status = .investigating

def ClosedRecently (m : AlertManager) (s : AlertState) (now : Rat) (accountId : Value) : Prop :=
  ∃ mv ∈ s.moved, mv.accountId = accountId ∧ closes mv.status = true ∧ now - mv.time ≤ m.suppression.cooldownSeconds

-- What is asked of a call.
def Lawful (m : AlertManager) (s : AlertState) : AlertAction → Prop
  | .generate r => ∀ a, assess r.scoringResult r.transaction = .ok a →
    ((∃ alert, (generateAlert m r s).1 = .ok (.generated alert)) → ¬Investigated s a.accountId) ∧
    ((generateAlert m r s).1 = .ok .suppressed →
      Investigated s a.accountId ∨ ClosedRecently m s (suppressionTime r s) a.accountId)
  | .transition .. => True

-- While an alert of the account is under investigation its last move is within the
-- cooldown, unless another filter stops the call; and a last move within the cooldown
-- that put an alert under investigation still stands for one.
def Standing (m : AlertManager) (s : AlertState) : AlertAction → Prop
  | .generate r => ∀ a, assess r.scoringResult r.transaction = .ok a → a.accountId.hashable = true →
    (Investigated s a.accountId → HeldBack m s (suppressionTime r s) a.accountId ∨
      (duplicate m r a s).1 = true ∨ ¬Completes m r a s) ∧
    (∀ mv, lastMove s.moved a.accountId = some mv → mv.status = .investigating →
      suppressionTime r s - mv.time ≤ m.suppression.cooldownSeconds →
      Investigated s a.accountId ∨ ClosedRecently m s (suppressionTime r s) a.accountId)
  | .transition .. => True

-- The entry of an account is its last move, unless that has outlived the cooldown.
structure Recorded (m : AlertManager) (s : AlertState) : Prop where
  entry : ∀ accountId reason stamp, s.suppressedAccounts accountId = some (reason,stamp) →
    ∃ mv, lastMove s.moved accountId = some mv ∧ mv.time = stamp
  free : ∀ accountId, s.suppressedAccounts accountId = none → ∀ mv, lastMove s.moved accountId = some mv →
    m.suppression.cooldownSeconds < s.now - mv.time
  marks : ∀ mv ∈ s.moved, closes mv.status = true ∨ mv.status = .investigating

theorem recorded_start (m : AlertManager) : Recorded m .start := by
  refine ⟨?_,?_,?_⟩
  · intro accountId reason stamp found
    cases found
  · intro accountId absent mv last
    cases last
  · intro mv member
    cases member

-- A suppression is lifted only when it has outlived the cooldown.
theorem isSuppressed_cases (e : SuppressionEngine) (accountId : Value) (now : Rat) (accounts : SuppressedAccounts) :
    (accounts accountId = none ∧ e.isSuppressed accountId now accounts = (false,accounts)) ∨
    ∃ reason stamp, accounts accountId = some (reason,stamp) ∧
      ((e.cooldownSeconds < now - stamp ∧
        e.isSuppressed accountId now accounts = (false,Function.update accounts accountId none)) ∨
       (now - stamp ≤ e.cooldownSeconds ∧ e.isSuppressed accountId now accounts = (true,accounts))) := by
  unfold SuppressionEngine.isSuppressed
  rcases accounts accountId with _ | ⟨reason,stamp⟩
  · exact .inl ⟨rfl,rfl⟩
  · by_cases expired : e.cooldownSeconds < now - stamp
    · exact .inr ⟨reason,stamp,rfl,.inl ⟨expired,by simp only [if_pos expired]⟩⟩
    · exact .inr ⟨reason,stamp,rfl,.inr ⟨not_lt.mp expired,by simp only [if_neg expired]⟩⟩

theorem suppressed_exact (recorded : Recorded m s) (r : Request) (a : Assessed) :
    (suppressed m r a s).1 = true ↔ HeldBack m s (suppressionTime r s) a.accountId := by
  have later := (times_ordered r s).1
  unfold suppressed
  rcases isSuppressed_cases m.suppression a.accountId (suppressionTime r s) s.suppressedAccounts with
    ⟨absent,answer⟩ | ⟨reason,stamp,found,⟨expired,answer⟩ | ⟨held,answer⟩⟩
  · rw [answer]
    refine iff_of_false (by simp) fun back => ?_
    obtain ⟨mv,last,within⟩ := back
    have past := recorded.free _ absent mv last
    exact absurd (past.trans_le (sub_le_sub_right later mv.time)) (not_lt.mpr within)
  · rw [answer]
    refine iff_of_false (by simp) fun back => ?_
    obtain ⟨mv,last,within⟩ := back
    obtain ⟨same,isLast,rfl⟩ := recorded.entry _ _ _ found
    cases isLast.symm.trans last
    exact absurd expired (not_lt.mpr within)
  · rw [answer]
    obtain ⟨mv,last,rfl⟩ := recorded.entry _ _ _ found
    exact iff_of_true rfl ⟨mv,last,held⟩

-- What a step does to the suppressed accounts.
inductive Marks (m : AlertManager) (s : AlertState) : AlertState → Prop where
  | quiet {t : AlertState} (accounts : t.suppressedAccounts = s.suppressedAccounts) (moved : t.moved = s.moved)
      (later : s.now ≤ t.now) : Marks m s t
  | checked {t : AlertState} (r : Request) (a : Assessed) (accounts : t.suppressedAccounts = (suppressed m r a s).2)
      (moved : t.moved = s.moved) (later : suppressionTime r s ≤ t.now) : Marks m s t
  | marked {t : AlertState} (mv : Moved) (reason : String)
      (accounts : t.suppressedAccounts = SuppressionEngine.addSuppression mv.accountId reason mv.time s.suppressedAccounts)
      (moved : t.moved = s.moved ++ [mv]) (kind : closes mv.status = true ∨ mv.status = .investigating)
      (later : s.now ≤ t.now) : Marks m s t

theorem generate_marks (m : AlertManager) (s : AlertState) (r : Request) : Marks m s (generateAlert m r s).2 := by
  obtain ⟨toSuppression,toChecked,toThrottle,toCreation⟩ := times_ordered r s
  have generates := generateAlert_generates m r s
  generalize (generateAlert m r s).1 = outcome at generates
  generalize (generateAlert m r s).2 = t at generates ⊢
  cases generates with
  | unread => exact .quiet rfl rfl le_rfl
  | unhashable => exact .quiet rfl rfl toSuppression
  | suppressed read hashable held same =>
    exact .checked r _ same.suppressedAccounts same.moved (same.now ▸ le_rfl)
  | deduplicated read hashable free known same =>
    exact .checked r _ same.suppressedAccounts same.moved (same.now ▸ toChecked)
  | throttled read passes limited same =>
    exact .checked r _ same.suppressedAccounts same.moved (same.now ▸ toChecked.trans toThrottle)
  | raised read passes fails => exact .checked r _ rfl rfl (toChecked.trans toThrottle)
  | undescribed read passes admitted fails =>
    exact .checked r _ rfl rfl ((toChecked.trans toThrottle).trans toCreation)
  | generated read passes admitted described stored =>
    exact .checked r _ stored.suppressedAccounts stored.moved
      (stored.now ▸ (toChecked.trans toThrottle).trans toCreation)

theorem suppressionReason_kind (reason : suppressionReason alertId status = some text) :
    closes status = true ∨ status = .investigating := by
  unfold suppressionReason at reason
  split at reason
  · rename_i closing
    exact .inl closing
  · split at reason
    · rename_i investigating
      exact .inr investigating
    · cases reason

theorem step_marks (m : AlertManager) (s : AlertState) (action : AlertAction) : Marks m s (step m s action) := by
  cases action with
  | generate r => exact generate_marks m s r
  | transition alertId newStatus assignedTo resolutionNotes elapsed =>
    have later : s.now ≤ s.now + elapsed.1 := le_add_of_nonneg_right elapsed.2
    cases transitionAlert_transits m alertId newStatus assignedTo resolutionNotes elapsed s with
    | refused same => exact .quiet same.suppressedAccounts same.moved (same.now ▸ later)
    | applied found valid left =>
      have accounts := left.suppressedAccounts
      have moved := left.moved
      rcases reason : suppressionReason alertId newStatus with _ | text
      · rw [reason] at accounts moved
        exact .quiet accounts moved (left.now ▸ later)
      · rw [reason] at accounts moved
        exact .marked ⟨_,newStatus,_⟩ text accounts moved (suppressionReason_kind reason) (left.now ▸ later)

-- The question lifts a suppression that has outlived the cooldown, and no other.
theorem isSuppressed_lifts (e : SuppressionEngine) (accountId : Value) (now : Rat) (accounts : SuppressedAccounts) :
    (∀ other entry, (e.isSuppressed accountId now accounts).2 other = some entry → accounts other = some entry) ∧
      ∀ other, (e.isSuppressed accountId now accounts).2 other = none → accounts other = none ∨
        ∃ reason stamp, accounts other = some (reason,stamp) ∧ e.cooldownSeconds < now - stamp := by
  rcases isSuppressed_cases e accountId now accounts with
    ⟨_,answer⟩ | ⟨reason,stamp,found,⟨expired,answer⟩ | ⟨_,answer⟩⟩
  · rw [answer]
    exact ⟨fun _ _ there => there,fun _ gone => .inl gone⟩
  · rw [answer]
    constructor
    · intro other entry there
      by_cases own : other = accountId
      · rw [own] at there
        simp at there
      · simpa only [Function.update_of_ne own] using there
    · intro other gone
      by_cases own : other = accountId
      · exact .inr ⟨reason,stamp,own ▸ found,expired⟩
      · simp only [Function.update_of_ne own] at gone
        exact .inl gone
  · rw [answer]
    exact ⟨fun _ _ there => there,fun _ gone => .inl gone⟩

theorem Recorded.later {m : AlertManager} {s t : AlertState} (recorded : Recorded m s)
    (accounts : t.suppressedAccounts = s.suppressedAccounts) (moved : t.moved = s.moved) (after : s.now ≤ t.now) :
    Recorded m t := by
  refine ⟨?_,?_,?_⟩
  · rw [accounts,moved]
    exact recorded.entry
  · rw [accounts,moved]
    intro accountId absent mv last
    exact (recorded.free accountId absent mv last).trans_le (sub_le_sub_right after mv.time)
  · rw [moved]
    exact recorded.marks

theorem Recorded.checked {m : AlertManager} {s t : AlertState} (recorded : Recorded m s) (r : Request) (a : Assessed)
    (accounts : t.suppressedAccounts = (suppressed m r a s).2) (moved : t.moved = s.moved)
    (after : suppressionTime r s ≤ t.now) : Recorded m t := by
  obtain ⟨kept,lifted⟩ := isSuppressed_lifts m.suppression a.accountId (suppressionTime r s) s.suppressedAccounts
  have past := (times_ordered r s).1.trans after
  rw [suppressed] at accounts
  refine ⟨?_,?_,?_⟩
  · rw [accounts,moved]
    intro accountId reason stamp found
    exact recorded.entry _ _ _ (kept _ _ found)
  · rw [accounts,moved]
    intro accountId gone mv last
    rcases lifted accountId gone with absent | ⟨reason,stamp,found,expired⟩
    · exact (recorded.free accountId absent mv last).trans_le (sub_le_sub_right past mv.time)
    · obtain ⟨same,isLast,rfl⟩ := recorded.entry _ _ _ found
      cases isLast.symm.trans last
      exact expired.trans_le (sub_le_sub_right after _)
  · rw [moved]
    exact recorded.marks

theorem Recorded.marked {m : AlertManager} {s t : AlertState} (recorded : Recorded m s) (mv : Moved) (reason : String)
    (accounts : t.suppressedAccounts = SuppressionEngine.addSuppression mv.accountId reason mv.time s.suppressedAccounts)
    (moved : t.moved = s.moved ++ [mv]) (kind : closes mv.status = true ∨ mv.status = .investigating)
    (after : s.now ≤ t.now) : Recorded m t := by
  refine ⟨?_,?_,?_⟩
  · rw [accounts,moved]
    intro accountId text stamp found
    rw [lastMove_append]
    by_cases own : mv.accountId = accountId
    · subst own
      simp only [SuppressionEngine.addSuppression,Function.update_self,Option.some.injEq,Prod.mk.injEq] at found
      rw [if_pos rfl]
      exact ⟨mv,rfl,found.2⟩
    · rw [if_neg own]
      have other : accountId ≠ mv.accountId := fun swapped => own swapped.symm
      simp only [SuppressionEngine.addSuppression,Function.update_of_ne other] at found
      exact recorded.entry _ _ _ found
  · rw [accounts,moved]
    intro accountId absent last isLast
    rw [lastMove_append] at isLast
    by_cases own : mv.accountId = accountId
    · subst own
      simp [SuppressionEngine.addSuppression] at absent
    · rw [if_neg own] at isLast
      have other : accountId ≠ mv.accountId := fun swapped => own swapped.symm
      simp only [SuppressionEngine.addSuppression,Function.update_of_ne other] at absent
      exact (recorded.free _ absent last isLast).trans_le (sub_le_sub_right after _)
  · rw [moved]
    intro made member
    rcases List.mem_append.mp member with old | new
    · exact recorded.marks made old
    · rw [List.mem_singleton.mp new]
      exact kind

theorem step_recorded (m : AlertManager) (s : AlertState) (action : AlertAction) (recorded : Recorded m s) :
    Recorded m (step m s action) := by
  have marks := step_marks m s action
  cases marks with
  | quiet accounts moved later => exact recorded.later accounts moved later
  | checked r a accounts moved later => exact recorded.checked r a accounts moved later
  | marked mv reason accounts moved kind later => exact recorded.marked mv reason accounts moved kind later

theorem lawful_exact (recorded : Recorded m s) (action : AlertAction) : Lawful m s action ↔ Standing m s action := by
  cases action with
  | transition => exact Iff.rfl
  | generate r =>
    refine forall_congr' fun a => forall_congr' fun read => ?_
    rw [generateAlert_generated read,generateAlert_suppressed read,suppressed_exact recorded]
    constructor
    · intro lawful hashable
      refine ⟨fun investigated => ?_,fun mv last moved within => lawful.2 ⟨hashable,mv,last,within⟩⟩
      by_cases held : HeldBack m s (suppressionTime r s) a.accountId
      · exact .inl held
      · rcases known : (duplicate m r a s).1 with _ | _
        · refine .inr (.inr fun completes => lawful.1 ⟨⟨hashable,?_,known⟩,completes⟩ investigated)
          rw [← suppressed_exact recorded] at held
          simpa using held
        · exact .inr (.inl rfl)
    · intro standing
      refine ⟨fun admitted investigated => ?_,fun held => ?_⟩
      · obtain ⟨passes,completes⟩ := admitted
        rcases (standing passes.hashable).1 investigated with back | known | stopped
        · rw [← suppressed_exact recorded,passes.unsuppressed] at back
          cases back
        · rw [passes.fresh] at known
          cases known
        · exact stopped completes
      · obtain ⟨hashable,mv,last,within⟩ := held
        rcases recorded.marks mv (lastMove_own last).1 with closing | investigating
        · exact .inr ⟨mv,(lastMove_own last).1,(lastMove_own last).2,closing,within⟩
        · exact (standing hashable).2 mv last investigating within

theorem suppression_exact (m : AlertManager) (actions : List AlertAction) :
    Along (step m) (Lawful m) .start actions ↔ Along (step m) (Standing m) .start actions :=
  along_iff (step_recorded m) (fun _ action recorded => lawful_exact recorded action) (recorded_start m)

def answeredGenerated : Except String Generation → Bool
  | .ok (.generated _) => true
  | _ => false

def answeredSuppressed : Except String Generation → Bool
  | .ok .suppressed => true
  | _ => false

theorem answered_generated (answered : answeredGenerated outcome = true) : ∃ alert, outcome = .ok (.generated alert) := by
  unfold answeredGenerated at answered
  split at answered
  · exact ⟨_,rfl⟩
  · cases answered

theorem answered_suppressed (answered : answeredSuppressed outcome = true) : outcome = .ok .suppressed := by
  unfold answeredSuppressed at answered
  split at answered
  · rfl
  · cases answered

def plainCall (elapsed : Elapsed) : AlertAction := .generate (plainRequest "a-1" [] elapsed)

def moveFirst (status : AlertStatus) : AlertAction := .transition (shipped.uuid4 0) status none none atOnce

-- The investigation of the first alert is still going on after the cooldown.
def longInvestigation : List AlertAction := [plainCall atOnce,moveFirst .investigating,plainCall ⟨7201,by decide⟩]

-- The first alert went back to open.
def reopenedInvestigation : List AlertAction :=
  [plainCall atOnce,moveFirst .investigating,moveFirst .open,plainCall ⟨60,by decide⟩]

theorem suppression_leaves_investigation : ¬Along (step shipped) (Lawful shipped) .start longInvestigation ∧
    ¬Along (step shipped) (Lawful shipped) .start reopenedInvestigation := by
  constructor
  · intro along
    have third := along.2.2.1
    generalize reached : step shipped (step shipped .start (plainCall atOnce)) (moveFirst .investigating) = s at third
    have answer : answeredGenerated (generateAlert shipped (plainRequest "a-1" [] ⟨7201,by decide⟩) s).1 = true := by
      rw [← reached]
      decide +kernel
    have open_case : (s.alerts.get? (shipped.uuid4 0)).map (fun alert => (alert.accountId,alert.status)) =
        some (.str "a-1",.investigating) := by
      rw [← reached]
      decide +kernel
    obtain ⟨alert,found,fields⟩ := Option.map_eq_some_iff.mp open_case
    obtain ⟨account,status⟩ := Prod.mk.injEq .. ▸ fields
    exact (third _ rfl).1 (answered_generated answer) ⟨_,alert,found,account,status⟩
  · intro along
    have fourth := along.2.2.2.1
    generalize reached : step shipped (step shipped (step shipped .start (plainCall atOnce)) (moveFirst .investigating))
      (moveFirst .open) = s at fourth
    have answer : answeredSuppressed (generateAlert shipped (plainRequest "a-1" [] ⟨60,by decide⟩) s).1 = true := by
      rw [← reached]
      decide +kernel
    have statuses : s.alerts.entries.map (fun entry => entry.2.status) = [.open] := by
      rw [← reached]
      decide +kernel
    have moves : s.moved.map Moved.status = [.investigating] := by
      rw [← reached]
      decide +kernel
    rcases (fourth _ rfl).2 (answered_suppressed answer) with ⟨alertId,alert,found,-,status⟩ | ⟨mv,member,-,closing,-⟩
    · have present := (OrderedDict.get?_entry s.alerts alertId alert).mpr found
      have listed : alert.status ∈ s.alerts.entries.map (fun entry => entry.2.status) := List.mem_map.mpr ⟨_,present,rfl⟩
      rw [statuses,status] at listed
      simp at listed
    · have listed : mv.status ∈ s.moved.map Moved.status := List.mem_map.mpr ⟨mv,member,rfl⟩
      rw [moves,List.mem_singleton] at listed
      rw [listed] at closing
      cases closing

end RiskPulse.AlertManager
