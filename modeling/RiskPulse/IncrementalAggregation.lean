import Mathlib.Algebra.Order.Ring.Rat
import Mathlib.Data.Rat.Sqrt
import RiskPulse.Aggregator
import RiskPulse.Library.FirstMaximum
import RiskPulse.Library.SlidingWindow
import RiskPulse.Library.Welford

namespace RiskPulse

def StatisticsArithmetic.exact (root : PyFloat → PyFloat) : StatisticsArithmetic where
  toFloatOperations := .exact
  root

namespace RunningStatistics
variable (root : PyFloat → PyFloat)

-- The statistics of a sequence of numbers, added one after the other.
def added (xs : List Rat) : RunningStatistics := xs.foldl (fun s x => s.add (.exact root) (.finite x)) .fresh

-- The state of the exact method: the smallest and the greatest stand beside Welford's.
structure Stands (s : RunningStatistics) (w : Welford.State Rat) (sum : Rat) : Prop where
  count : s.count = w.count
  mean : s.mean = .finite w.mean
  m2 : s.m2 = .finite w.m2
  sum : s.sum = .finite sum

theorem Stands.add {s : RunningStatistics} {w : Welford.State Rat} {sum : Rat} (stands : Stands s w sum) (x : Rat) :
    Stands (s.add (.exact root) (.finite x)) (Welford.add w x) (sum + x) := by
  obtain ⟨counted,centre,spread,total⟩ := stands
  unfold RunningStatistics.add Welford.add
  simp only [counted,centre,spread,total]
  exact ⟨rfl,rfl,rfl,rfl⟩

theorem added_stands (xs : List Rat) : Stands (added root xs) (xs.foldl Welford.add Welford.start) xs.sum := by
  have runs : ∀ (xs : List Rat) (s : RunningStatistics) (w : Welford.State Rat) (sum : Rat), Stands s w sum →
      Stands (xs.foldl (fun s x => s.add (.exact root) (.finite x)) s) (xs.foldl Welford.add w) (sum + xs.sum) := by
    intro xs
    induction xs with
    | nil =>
      intro s w sum stands
      rw [List.sum_nil,add_zero]
      exact stands
    | cons x rest ih =>
      intro s w sum stands
      rw [List.sum_cons,← add_assoc]
      exact ih _ _ _ (stands.add root x)
  have whole := runs xs .fresh Welford.start 0 ⟨rfl,rfl,rfl,rfl⟩
  rw [zero_add] at whole
  exact whole

-- Once there is a number, the extremes are those of the numbers.
theorem extremes_run (xs : List Rat) (s : RunningStatistics) (low high : Rat) (lowest : s.min = .finite low) (highest : s.max = .finite high) :
    (xs.foldl (fun s x => s.add (.exact root) (.finite x)) s).min = .finite (xs.foldl Min.min low) ∧
      (xs.foldl (fun s x => s.add (.exact root) (.finite x)) s).max = .finite (xs.foldl Max.max high) := by
  induction xs generalizing s low high with
  | nil => exact ⟨lowest,highest⟩
  | cons x rest ih =>
    apply ih
    · simp only [RunningStatistics.add,lowest,PyFloat.greater,decide_eq_true_eq]
      split
      · rename_i less
        rw [min_eq_right (le_of_lt less)]
      · rename_i more
        rw [min_eq_left (not_lt.mp more)]
    · simp only [RunningStatistics.add,highest,PyFloat.greater,decide_eq_true_eq]
      split
      · rename_i more
        rw [max_eq_right (le_of_lt more)]
      · rename_i less
        rw [max_eq_left (not_lt.mp less)]

theorem added_count (xs : List Rat) : (added root xs).count = xs.length :=
  (added_stands root xs).count.trans (Welford.run_summarises xs).count

theorem added_extremes (xs : List Rat) :
    (added root xs).minVal = .finite (xs.min?.getD 0) ∧ (added root xs).maxVal = .finite (xs.max?.getD 0) := by
  cases xs with
  | nil => exact ⟨rfl,rfl⟩
  | cons x rest =>
    obtain ⟨lowest,highest⟩ := extremes_run root rest (RunningStatistics.fresh.add (.exact root) (.finite x)) x x rfl rfl
    have some : 0 < (added root (x :: rest)).count := by
      rw [added_count]
      exact Nat.succ_pos _
    rw [minVal,maxVal,if_pos some,if_pos some]
    exact ⟨lowest,highest⟩

theorem added_mean (xs : List Rat) : (added root xs).meanVal = .finite (xs.sum / xs.length) := by
  rw [meanVal,added_count]
  split
  · exact (added_stands root xs).mean.trans (congrArg PyFloat.finite (Welford.run_summarises xs).mean)
  · rename_i none
    rw [List.length_eq_zero_iff.mp (Nat.eq_zero_of_not_pos none),List.sum_nil,zero_div]

theorem added_variance (xs : List Rat) :
    variance (.exact root) (added root xs) = .finite ((xs.map fun x => (x - xs.sum / xs.length) ^ 2).sum / (xs.length - 1)) := by
  have spread : (added root xs).m2 = .finite (Welford.squares xs) :=
    (added_stands root xs).m2.trans (congrArg PyFloat.finite (Welford.run_summarises xs).m2)
  rw [variance,added_count]
  match xs with
  | [] => simp
  | [x] => simp
  | x :: y :: rest =>
    rw [if_neg (by simp),spread]
    change PyFloat.finite _ = _
    simp [Welford.squares,Welford.mean]

-- The statistics are those of the definitions, and so the same in every order.
theorem welford_batch (xs : List Rat) :
    ((added root xs).count = xs.length ∧ (added root xs).sum = .finite xs.sum ∧
      (added root xs).meanVal = .finite (xs.sum / xs.length) ∧
      variance (.exact root) (added root xs) = .finite ((xs.map fun x => (x - xs.sum / xs.length) ^ 2).sum / (xs.length - 1)) ∧
      (added root xs).minVal = .finite (xs.min?.getD 0) ∧ (added root xs).maxVal = .finite (xs.max?.getD 0)) ∧
    ∀ ys, xs.Perm ys → ∀ name, (added root ys).toAggregationResult (.exact root) name = (added root xs).toAggregationResult (.exact root) name := by
  have total : ∀ zs : List Rat, (added root zs).sum = .finite zs.sum := fun zs => (added_stands root zs).sum
  refine ⟨⟨added_count root xs,total xs,added_mean root xs,added_variance root xs,added_extremes root xs⟩,?_⟩
  intro ys same name
  have deviations : (xs.map fun x => (x - xs.sum / xs.length) ^ 2).sum = (ys.map fun y => (y - ys.sum / ys.length) ^ 2).sum :=
    Welford.squares_perm same
  have spread : variance (.exact root) (added root ys) = variance (.exact root) (added root xs) := by
    rw [added_variance,added_variance,deviations,same.length_eq]
  simp only [toAggregationResult,std,spread,added_count,total,added_mean,(added_extremes root _).1,(added_extremes root _).2,
    same.sum_eq,same.length_eq,FirstMaximum.min?_perm same,FirstMaximum.max?_perm same]

end RunningStatistics

open TimeWindowAggregator

section Windows
variable {results : OrderedDict String α} {made : WindowSpec → α} {windows : List WindowSpec} {name : String}

-- Each window's result is under its name; a later window of the same name replaces it.
theorem results_other (others : ∀ spec ∈ windows, spec.name ≠ name) :
    (windows.foldl (fun results spec => results.set spec.name (made spec)) results).get? name = results.get? name := by
  induction windows generalizing results with
  | nil => rfl
  | cons first rest ih =>
    rw [List.foldl_cons,ih fun spec member => others spec (List.mem_cons_of_mem _ member),OrderedDict.get?_set,
      if_neg (Ne.symm (others first List.mem_cons_self))]

theorem results_named (made : WindowSpec → α) (earlier later : List WindowSpec) (spec : WindowSpec) (last : ∀ other ∈ later, other.name ≠ spec.name) :
    ((earlier ++ spec :: later).foldl (fun results spec => results.set spec.name (made spec)) results).get? spec.name = some (made spec) := by
  rw [List.foldl_append,List.foldl_cons,results_other last,OrderedDict.get?_set,if_pos rfl]

end Windows

namespace IncrementalAggregator
variable (h : AggregatorHost)

-- The aggregator after a sequence of events.
def reached (maxWindow : Int) (added : List AddedEvent) : IncrementalAggregator := added.foldl (addEvent h) ⟨maxWindow,[]⟩

-- The event as the batch aggregator is given it: a dict with the time, the value and what
-- is counted in three of its fields.
structure Records (timeField valueField countField : String) (event : AddedEvent) (record : Record) : Prop where
  time : record.value timeField = .datetime event.timestamp.wall event.timestamp.offset
  value : record.value valueField = .float event.value
  label : record.value countField = Record.value (event.metadata.getD .empty) countField

theorem reached_buffer (maxWindow : Int) (added : List AddedEvent) :
    reached h maxWindow added = ⟨maxWindow,(added.map (buffered h)).foldl (FrontEviction.add (expired h maxWindow)) []⟩ := by
  have runs : ∀ buffer, added.foldl (addEvent h) ⟨maxWindow,buffer⟩ =
      ⟨maxWindow,(added.map (buffered h)).foldl (FrontEviction.add (expired h maxWindow)) buffer⟩ := by
    induction added with
    | nil => exact fun _ => rfl
    | cons event rest ih => exact fun buffer => ih _
  exact runs []

-- A reading of the events in a window.
def windowed (refTs : Rat) (seconds : Int) (read : β → BufferedEvent → β) (start : β) (events : List BufferedEvent) : β :=
  events.foldl (fun held event => if inWindow h refTs seconds event.ts then read held event else held) start

def valueRead (stats : RunningStatistics) (event : BufferedEvent) : RunningStatistics := stats.add h.toStatisticsArithmetic event.value

def labelRead (countField : String) (distinct : List String) (event : BufferedEvent) : List String :=
  addDistinct h (event.metadata.value countField) distinct

section Window
variable {h} {maxWindow : Int} {added : List AddedEvent} {records : List Record} {referenceTime : DateTime} {seconds : Int}

-- No event that is dropped lies in a window that is read now or later.
theorem reached_window (newest : ∀ event ∈ added, event.timestamp.aware.instant ≤ referenceTime.aware.instant) (covered : seconds ≤ maxWindow)
    (read : β → BufferedEvent → β) (start : β) :
    windowed h (h.timestamp referenceTime.aware) seconds read start (reached h maxWindow added).buffer =
      windowed h (h.timestamp referenceTime.aware) seconds read start (added.map (buffered h)) := by
  have keeps := FrontEviction.keeps_run (added.map (buffered h)) (FrontEviction.keeps_empty (expired h maxWindow))
  unfold windowed
  rw [reached_buffer,← List.foldl_filter,keeps.filter,List.nil_append,List.foldl_filter]
  intro item member old stale
  obtain ⟨event,present,same⟩ := List.mem_map.mp member
  subst same
  have cutoff : h.before (h.timestamp event.timestamp.aware) maxWindow ≤ h.before (h.timestamp referenceTime.aware) seconds :=
    h.beforeOrder _ _ _ _ (h.timestampOrder _ _ (newest event present)) covered
  have before := lt_of_lt_of_le (of_decide_eq_true stale) cutoff
  exact decide_eq_false fun inside => absurd inside.1 (not_le.mpr before)

-- The batch reads a dict as the buffer's event is read.
theorem batch_window {refTs : Rat} {timeField : String} {read : Record → β → Except String β} (plain : β → BufferedEvent → β)
    (listed : List.Forall₂ (fun event record => record.value timeField = .datetime event.timestamp.wall event.timestamp.offset ∧
      ∀ held, read record held = .ok (plain held (buffered h event))) added records) (start : β) :
    records.foldlM (eventStep h refTs seconds timeField read) start =
      .ok (windowed h refTs seconds plain start (added.map (buffered h))) := by
  unfold windowed
  rw [List.foldl_map]
  apply Fallible.fold_follows
  apply List.Forall₂.flip
  refine listed.imp ?_
  intro event record ⟨timed,reads⟩ held
  unfold eventStep
  rw [timed]
  change (if inWindow h refTs seconds (buffered h event).ts then read record held else pure held) = _
  split
  · exact reads held
  · rfl

end Window

section Batch
variable {h} {added : List AddedEvent} {records : List Record} {timeField valueField countField : String}

theorem aggregate_window (listed : List.Forall₂ (Records timeField valueField countField) added records) (windows : List WindowSpec)
    (referenceTime : DateTime) : aggregate h windows records referenceTime valueField timeField =
      .ok (windows.foldl (fun results spec => results.set spec.name ((windowed h (h.timestamp referenceTime.aware) spec.durationSeconds
        (valueRead h) .fresh (added.map (buffered h))).toAggregationResult h.toStatisticsArithmetic spec.name)) .empty) := by
  apply Fallible.fold_follows
  apply List.forall₂_same.mpr
  intro spec _ results
  rw [batch_window (valueRead h)]
  · rfl
  · refine listed.imp fun event record given => ⟨given.time,fun held => ?_⟩
    rw [given.value,addValue,if_neg (by simp),h.floatFloat]
    rfl

theorem distinct_window (listed : List.Forall₂ (Records timeField valueField countField) added records) (windows : List WindowSpec)
    (referenceTime : DateTime) : computeDistinctCounts h windows records referenceTime countField timeField =
      .ok (windows.foldl (fun counts spec => counts.set spec.name (windowed h (h.timestamp referenceTime.aware) spec.durationSeconds
        (labelRead h countField) [] (added.map (buffered h))).length) .empty) := by
  apply Fallible.fold_follows
  apply List.forall₂_same.mpr
  intro spec _ counts
  rw [batch_window (labelRead h countField)]
  · rfl
  · refine listed.imp fun event record given => ⟨given.time,fun held => ?_⟩
    rw [given.label]
    rfl

end Batch

-- The incremental aggregator answers as the batch over all the events that were added.
theorem incremental_batch (maxWindow : Int) (added : List AddedEvent) (records : List Record) (timeField valueField countField : String)
    (listed : List.Forall₂ (Records timeField valueField countField) added records) (referenceTime : DateTime)
    (newest : ∀ event ∈ added, event.timestamp.aware.instant ≤ referenceTime.aware.instant) (earlier later : List WindowSpec)
    (spec : WindowSpec) (last : ∀ other ∈ later, other.name ≠ spec.name) (covered : spec.durationSeconds ≤ maxWindow) :
    ∃ results counts, aggregate h (earlier ++ spec :: later) records referenceTime valueField timeField = .ok results ∧
      computeDistinctCounts h (earlier ++ spec :: later) records referenceTime countField timeField = .ok counts ∧
      results.get? spec.name =
        some {getStatistics h (reached h maxWindow added) referenceTime spec.durationSeconds with windowName := spec.name} ∧
      counts.get? spec.name = some (getDistinctCount h (reached h maxWindow added) referenceTime spec.durationSeconds countField) := by
  refine ⟨_,_,aggregate_window listed _ referenceTime,distinct_window listed _ referenceTime,?_,?_⟩
  · rw [results_named (fun spec => (windowed h (h.timestamp referenceTime.aware) spec.durationSeconds (valueRead h) .fresh
      (added.map (buffered h))).toAggregationResult h.toStatisticsArithmetic spec.name) earlier later spec last]
    rw [← reached_window newest covered]
    rfl
  · rw [results_named (fun spec => (windowed h (h.timestamp referenceTime.aware) spec.durationSeconds (labelRead h countField) []
      (added.map (buffered h))).length) earlier later spec last]
    rw [← reached_window newest covered]
    rfl

-- Arithmetic that rounds nothing, with the square roots of squares.
def exactHost : AggregatorHost where
  toStatisticsArithmetic := .exact fun variance =>
    match variance with
    | .finite q => .finite (Rat.sqrt q)
    | other => other
  float value :=
    match value.number with
    | some x => .ok x
    | none => .error .refused
  str value :=
    match value with
    | .str text => text
    | _ => ""
  fromisoformat _ := none
  fromtimestamp x :=
    match x with
    | .finite q => .ok (q * 1000000).floor
    | _ => .error "cannot convert float"
  timestamp t := (t.instant : Rat) / 1000000
  before ts seconds := ts - seconds
  floatFloat _ := rfl
  timestampOrder a b order := div_le_div_of_nonneg_right (by exact_mod_cast order) (by norm_num)
  beforeOrder a b long short later shorter := sub_le_sub later (by exact_mod_cast shorter)

-- An event so many seconds after the epoch at a merchant, and the dict that records it.
def purchase (seconds : Int) (value : Rat) (merchant : String) : AddedEvent :=
  ⟨⟨seconds * 1000000,some 0⟩,.finite value,some (.ofList [("merchant_id",.str merchant)])⟩

def purchaseRecord (seconds : Int) (value : Rat) (merchant : String) : Record :=
  .ofList [("transaction_timestamp",.datetime (seconds * 1000000) (some 0)),("transaction_amount",.float (.finite value)),
    ("merchant_id",.str merchant)]

def hundredSeconds : WindowSpec := ⟨"100s",100,by decide⟩

-- The events come out of order, and the first is dropped.
theorem incremental_batch_unordered : ∃ results counts,
    aggregate exactHost [hundredSeconds] [purchaseRecord 0 7 "a",purchaseRecord 200 5 "b",purchaseRecord 120 1 "a",purchaseRecord 160 3 "b"]
      ⟨210000000,some 0⟩ "transaction_amount" "transaction_timestamp" = .ok results ∧
    computeDistinctCounts exactHost [hundredSeconds]
      [purchaseRecord 0 7 "a",purchaseRecord 200 5 "b",purchaseRecord 120 1 "a",purchaseRecord 160 3 "b"]
      ⟨210000000,some 0⟩ "merchant_id" "transaction_timestamp" = .ok counts ∧
    results.get? "100s" = some {getStatistics exactHost
      (reached exactHost 150 [purchase 0 7 "a",purchase 200 5 "b",purchase 120 1 "a",purchase 160 3 "b"]) ⟨210000000,some 0⟩ 100 with
        windowName := "100s"} ∧
    counts.get? "100s" = some (getDistinctCount exactHost
      (reached exactHost 150 [purchase 0 7 "a",purchase 200 5 "b",purchase 120 1 "a",purchase 160 3 "b"]) ⟨210000000,some 0⟩ 100
      "merchant_id") := by
  have recorded : ∀ seconds value merchant, Records "transaction_timestamp" "transaction_amount" "merchant_id"
      (purchase seconds value merchant) (purchaseRecord seconds value merchant) := fun _ _ _ => ⟨rfl,rfl,rfl⟩
  exact incremental_batch exactHost 150 _ _ "transaction_timestamp" "transaction_amount" "merchant_id"
    (.cons (recorded ..) (.cons (recorded ..) (.cons (recorded ..) (.cons (recorded ..) .nil)))) ⟨210000000,some 0⟩
    (by decide) [] [] hundredSeconds (by simp) (by decide)

end IncrementalAggregator
end RiskPulse
