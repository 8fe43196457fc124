import Mathlib.Data.List.ReduceOption
import RiskPulse.Library.NdArray
import RiskPulse.SchemaValidator
import RiskPulse.ScoringPipeline

namespace RiskPulse

-- The machine's rounding of a number to a float keeps the order, zero and one.
structure FloatRounding where
  nearest : Rat → Rat
  ordered : ∀ a b, a ≤ b → nearest a ≤ nearest b
  zero : nearest 0 = 0
  one : nearest 1 = 1

inductive QualityIssue where
  | missing (feature message : String)
  | typeMismatch (feature expected got : String)
  | outOfRange (feature : String) (value : PyFloat) (expectedRange : PyFloat × PyFloat)
  | undefined (feature : String) (nanCount : Nat) (nanFraction : Rat)
  | columnOutOfRange (feature : String) (actualMin actualMax : PyFloat) (expectedRange : PyFloat × PyFloat)

namespace QualityIssue

def isMissing : QualityIssue → Bool
  | missing _ _ | undefined _ _ _ => true
  | _ => false

def isOutOfRange : QualityIssue → Bool
  | outOfRange _ _ _ | columnOutOfRange _ _ _ _ => true
  | _ => false

def isTypeMismatch : QualityIssue → Bool
  | typeMismatch _ _ _ => true
  | _ => false

end QualityIssue

structure DataQualityReport where
  totalFeatures : Nat
  missingCount : Nat
  outOfRangeCount : Nat
  typeMismatchCount : Nat
  issues : List QualityIssue

namespace DataQualityReport

-- Each count goes up with the issues that are appended.
def ofIssues (totalFeatures : Nat) (issues : List QualityIssue) : DataQualityReport where
  totalFeatures := totalFeatures
  missingCount := issues.countP QualityIssue.isMissing
  outOfRangeCount := issues.countP QualityIssue.isOutOfRange
  typeMismatchCount := issues.countP QualityIssue.isTypeMismatch
  issues := issues

def isHealthy (report : DataQualityReport) : Bool :=
  report.missingCount == 0 && report.outOfRangeCount == 0 && report.typeMismatchCount == 0

def qualityScore (rounding : FloatRounding) (report : DataQualityReport) : Rat :=
  if report.totalFeatures = 0 then 1
  else
    let issuesTotal := report.missingCount + report.outOfRangeCount + report.typeMismatchCount
    max 0 (rounding.nearest (1 - rounding.nearest ((issuesTotal : Rat) / report.totalFeatures)))

-- Fewer than no issues there are not, so the score is at most 1.
theorem qualityScore_unit (rounding : FloatRounding) (report : DataQualityReport) :
    0 ≤ report.qualityScore rounding ∧ report.qualityScore rounding ≤ 1 := by
  unfold qualityScore
  split
  · exact ⟨by norm_num,le_refl 1⟩
  · dsimp only
    refine ⟨le_max_left _ _,max_le (by norm_num) ?_⟩
    have share : 0 ≤ rounding.nearest (((report.missingCount + report.outOfRangeCount + report.typeMismatchCount : Nat) : Rat) /
        report.totalFeatures) := by
      rw [← rounding.zero]
      exact rounding.ordered 0 _ (div_nonneg (Nat.cast_nonneg _) (Nat.cast_nonneg report.totalFeatures))
    calc rounding.nearest _ ≤ rounding.nearest 1 := rounding.ordered _ _ (sub_le_self 1 share)
      _ = 1 := rounding.one

end DataQualityReport

-- float of an int, which raises where it is too large.
structure DataQualityChecker where
  featureNames : List String
  featureRanges : OrderedDict String (PyFloat × PyFloat)
  requiredFeatures : List String
  float : Int → Except String PyFloat

namespace DataQualityChecker

def make (featureNames : List String) (featureRanges : OrderedDict String (PyFloat × PyFloat)) (requiredFeatures : Option (List String))
    (float : Int → Except String PyFloat) : DataQualityChecker where
  featureNames := featureNames
  featureRanges := featureRanges
  requiredFeatures := match requiredFeatures with
    | none | some [] => featureNames
    | some required => required
  float := float

variable (c : DataQualityChecker)

def missingIssue (features : Record) (name : String) : Option QualityIssue :=
  if features.value name = .none then some (.missing name s!"Required feature '{name}' is missing or null") else none

-- value < low or value > high
def outOfRange (name : String) (value : PyFloat) : Bool :=
  match c.featureRanges.get? name with
  | none => false
  | some (low,high) => low.greater value || value.greater high

def number : Value → Option PyFloat
  | .bool b => some (.ofBool b)
  | .int n => some (.finite n)
  | .float x => some x
  | _ => none

def asFloat : Value → Except String PyFloat
  | .bool b => .ok (.ofBool b)
  | .int n => c.float n
  | .float x => .ok x
  | _ => .error "float() argument must be a string or a real number"

def entryIssue (entry : String × Value) : Except String (Option QualityIssue) :=
  if entry.1 ∉ c.featureNames ∨ entry.2 = .none then .ok none
  else
    match number entry.2 with
    | none => .ok (some (.typeMismatch entry.1 "numeric" entry.2.typeName))
    | some value =>
      if c.outOfRange entry.1 value then
        (c.asFloat entry.2).map fun value => some (.outOfRange entry.1 value (c.featureRanges.getD entry.1 (.nan,.nan)))
      else .ok none

def check (features : Record) : Except String DataQualityReport :=
  (features.entries.mapM c.entryIssue).map fun found =>
    .ofIssues c.featureNames.length (c.requiredFeatures.filterMap (missingIssue features) ++ found.reduceOption)

def columnRangeIssue (name : String) (valid : List PyFloat) : List QualityIssue :=
  match c.featureRanges.get? name,valid with
  | some (low,high),first :: rest =>
    let least := rest.foldl PyFloat.min first
    let greatest := rest.foldl PyFloat.max first
    if low.greater least || greatest.greater high then [.columnOutOfRange name least greatest (low,high)] else []
  | _,_ => []

def columnIssues (rounding : FloatRounding) (matrix : NdMatrix PyFloat) (column : String × Nat) : List QualityIssue :=
  let (name,i) := column
  if matrix.columns ≤ i then [.missing name s!"Feature column {i} missing from input matrix"]
  else
    let col := matrix.column i
    let nanCount := col.countP fun x => decide (x = .nan)
    (if 0 < nanCount then [.undefined name nanCount (rounding.nearest ((nanCount : Rat) / matrix.rows.length))] else []) ++
      c.columnRangeIssue name (col.filter fun x => decide (x ≠ .nan))

def checkBatch (rounding : FloatRounding) (matrix : NdMatrix PyFloat) : DataQualityReport :=
  .ofIssues c.featureNames.length (c.featureNames.zipIdx.flatMap (c.columnIssues rounding matrix))

-- The dictionary of a row that covers some of the names.
def rowFeatures (names : List String) (row : List PyFloat) : Record :=
  .ofList ((names.zip row).map fun cell => (cell.1,.float cell.2))

structure Agrees (rounding : FloatRounding) (single batch : DataQualityReport) : Prop where
  missing : single.missingCount = batch.missingCount
  outOfRange : single.outOfRangeCount = batch.outOfRangeCount
  healthy : single.isHealthy = batch.isHealthy
  score : single.qualityScore rounding = batch.qualityScore rounding

-- What is written again under the same name is lost.
theorem countP_lastWrites (p : String × PyFloat → Bool) (cells : List (String × PyFloat)) :
    (OrderedDict.lastWrites cells).countP p ≤ cells.countP p ∧
      ((OrderedDict.lastWrites cells).countP p = cells.countP p ↔
        cells.Pairwise fun earlier later => earlier.1 = later.1 → p earlier = false) := by
  induction cells with
  | nil => exact ⟨le_refl _,fun _ => .nil,fun _ => rfl⟩
  | cons cell rest ih =>
    obtain ⟨less,exact⟩ := ih
    rw [OrderedDict.lastWrites,List.pairwise_cons,← exact]
    by_cases again : cell.1 ∈ rest.map Prod.fst
    · obtain ⟨later,member,same⟩ := List.mem_map.mp again
      rw [if_pos again]
      cases counted : p cell with
      | false =>
        rw [List.countP_cons_of_neg (by simp [counted])]
        exact ⟨less,fun equal => ⟨fun _ _ _ => rfl,equal⟩,fun both => both.2⟩
      | true =>
        rw [List.countP_cons_of_pos counted]
        refine ⟨by omega,fun equal => absurd equal (by omega),fun both => ?_⟩
        exact absurd (both.1 later member same.symm) (by simp)
    · rw [if_neg again,List.countP_cons,List.countP_cons]
      refine ⟨by omega,fun equal => ⟨?_,by omega⟩,fun both => by omega⟩
      intro later member same
      exact absurd (List.mem_map.mpr ⟨later,member,same.symm⟩) again

theorem covered_names (names : List String) (row : List PyFloat) : (names.zip row).map Prod.fst = names.take row.length := by
  induction names generalizing row with
  | nil => simp
  | cons name names ih =>
    cases row with
    | nil => rfl
    | cons x row => rw [List.zip_cons_cons,List.map_cons,ih,List.length_cons,List.take_succ_cons]

-- The entries of the dictionary are the last cells of each name.
theorem rowFeatures_entries (names : List String) (row : List PyFloat) :
    (rowFeatures names row).entries.Perm ((OrderedDict.lastWrites (names.zip row)).map fun cell => (cell.1,Value.float cell.2)) := by
  rw [← OrderedDict.lastWrites_map]
  exact OrderedDict.ofList_perm _

theorem rowFeatures_value (names : List String) (row : List PyFloat) (name : String) :
    (rowFeatures names row).value name = .none ↔ name ∉ names.take row.length := by
  have keys : name ∈ (rowFeatures names row).keys ↔ name ∈ names.take row.length := by
    rw [rowFeatures,OrderedDict.mem_keys_ofList,List.map_map,← covered_names]
    rfl
  rw [← keys]
  constructor
  · intro absent listed
    obtain ⟨v,held⟩ := (OrderedDict.mem_keys _ name).mp listed
    obtain ⟨cell,_,same⟩ := List.mem_map.mp ((rowFeatures_entries names row).subset ((OrderedDict.get?_entry _ name v).mpr held))
    rw [Record.value,OrderedDict.getD,held,← (Prod.mk.inj same).2] at absent
    cases absent
  · intro absent
    rw [Record.value,OrderedDict.getD,(OrderedDict.get?_eq_none _ name).mpr absent]
    rfl

-- A cell of a row is a number, so only its range is looked at.
theorem entryIssue_cell (name : String) (x : PyFloat) (known : name ∈ c.featureNames) :
    ∃ issue, c.entryIssue (name,.float x) = .ok issue ∧
      (∀ i ∈ issue, i.isMissing = false ∧ i.isTypeMismatch = false) ∧
      (issue.toList.countP QualityIssue.isOutOfRange = if c.outOfRange name x then 1 else 0) := by
  unfold entryIssue
  rw [if_neg (by simp [known])]
  simp only [number]
  split
  · refine ⟨_,rfl,?_,rfl⟩
    rintro i ⟨⟩
    exact ⟨rfl,rfl⟩
  · exact ⟨none,rfl,(fun _ absurdity => by cases absurdity),rfl⟩

theorem entryIssues_cells (cells : List (String × PyFloat)) (known : ∀ cell ∈ cells, cell.1 ∈ c.featureNames) :
    ∃ found, (cells.map fun cell => (cell.1,Value.float cell.2)).mapM c.entryIssue = .ok found ∧
      found.reduceOption.countP QualityIssue.isMissing = 0 ∧ found.reduceOption.countP QualityIssue.isTypeMismatch = 0 ∧
      found.reduceOption.countP QualityIssue.isOutOfRange = cells.countP fun cell => c.outOfRange cell.1 cell.2 := by
  induction cells with
  | nil => exact ⟨[],rfl,rfl,rfl,rfl⟩
  | cons cell rest ih =>
    obtain ⟨here,others⟩ := List.forall_mem_cons.mp known
    obtain ⟨issue,first,plain,range⟩ := c.entryIssue_cell cell.1 cell.2 here
    obtain ⟨found,later,missing,mismatch,ranges⟩ := ih others
    refine ⟨issue :: found,?_,?_,?_,?_⟩
    · rw [List.map_cons,List.mapM_cons,first,later]
      rfl
    · cases issue with
      | none => exact missing
      | some i =>
        rw [List.reduceOption_cons_of_some,List.countP_cons_of_neg (by simp [(plain i rfl).1])]
        exact missing
    · cases issue with
      | none => exact mismatch
      | some i =>
        rw [List.reduceOption_cons_of_some,List.countP_cons_of_neg (by simp [(plain i rfl).2])]
        exact mismatch
    · rw [List.countP_cons,← ranges,← range]
      cases issue with
      | none => rfl
      | some i =>
        rw [List.reduceOption_cons_of_some,List.countP_cons]
        simp

def undefinedCells (cells : List (String × PyFloat)) : Nat := cells.countP fun cell => decide (cell.2 = .nan)

def rangedCells (cells : List (String × PyFloat)) : Nat := cells.countP fun cell => c.outOfRange cell.1 cell.2

theorem missingIssues_count (features : Record) (names : List String) :
    (names.filterMap (missingIssue features)).countP QualityIssue.isMissing = names.countP (fun name => decide (features.value name = .none)) ∧
      (names.filterMap (missingIssue features)).countP QualityIssue.isOutOfRange = 0 ∧
      (names.filterMap (missingIssue features)).countP QualityIssue.isTypeMismatch = 0 := by
  induction names with
  | nil => exact ⟨rfl,rfl,rfl⟩
  | cons name names ih =>
    by_cases missing : features.value name = .none
    · have issue : missingIssue features name = some (.missing name s!"Required feature '{name}' is missing or null") := if_pos missing
      rw [List.filterMap_cons_some issue,List.countP_cons,List.countP_cons,List.countP_cons,List.countP_cons,ih.1,ih.2.1,ih.2.2]
      simp [QualityIssue.isMissing,QualityIssue.isOutOfRange,QualityIssue.isTypeMismatch,missing]
    · have issue : missingIssue features name = none := if_neg missing
      rw [List.filterMap_cons_none issue,List.countP_cons_of_neg (by simpa using missing)]
      exact ih

-- The single check counts each name that no cell covers, and what the last cell of each name holds.
theorem check_row (row : List PyFloat) (all : c.requiredFeatures = c.featureNames) :
    ∃ report, c.check (rowFeatures c.featureNames row) = .ok report ∧ report.totalFeatures = c.featureNames.length ∧
      report.missingCount = (c.featureNames.drop row.length).countP (fun name => decide (name ∉ c.featureNames.take row.length)) ∧
      report.outOfRangeCount = c.rangedCells (OrderedDict.lastWrites (c.featureNames.zip row)) ∧ report.typeMismatchCount = 0 := by
  have known : ∀ cell ∈ OrderedDict.lastWrites (c.featureNames.zip row), cell.1 ∈ c.featureNames := by
    intro cell member
    exact (List.of_mem_zip ((OrderedDict.lastWrites_sublist _).subset member)).1
  obtain ⟨found,ran,missing,mismatch,ranged⟩ := c.entryIssues_cells _ known
  obtain ⟨results,came,perm⟩ := Fallible.mapM_perm (rowFeatures_entries c.featureNames row) ran
  have reduced : results.reduceOption.Perm found.reduceOption := perm.filterMap id
  obtain ⟨absent,plain,typed⟩ := missingIssues_count (rowFeatures c.featureNames row) c.requiredFeatures
  have uncovered : c.featureNames.countP (fun name => decide ((rowFeatures c.featureNames row).value name = .none)) =
      (c.featureNames.drop row.length).countP (fun name => decide (name ∉ c.featureNames.take row.length)) := by
    have covered : (c.featureNames.take row.length).countP (fun name => decide (name ∉ c.featureNames.take row.length)) = 0 :=
      List.countP_eq_zero.mpr fun name member => by simp [member]
    simp only [rowFeatures_value]
    conv_lhs => rw [← List.take_append_drop row.length c.featureNames]
    rw [List.countP_append,List.take_append_drop,covered,Nat.zero_add]
  refine ⟨_,Fallible.map_ok.mpr ⟨results,came,rfl⟩,rfl,?_,?_,?_⟩
  · change List.countP _ (_ ++ _) = _
    rw [List.countP_append,absent,reduced.countP_eq,missing,all,uncovered,Nat.add_zero]
  · change List.countP _ (_ ++ _) = _
    rw [List.countP_append,plain,reduced.countP_eq,ranged,Nat.zero_add]
    rfl
  · change List.countP _ (_ ++ _) = _
    rw [List.countP_append,typed,reduced.countP_eq,mismatch]

-- A column of a one-row matrix holds one cell, or there is no such column.
theorem columnIssues_row (rounding : FloatRounding) (row : List PyFloat) (name : String) (i : Nat) :
    (c.columnIssues rounding (.row row) (name,i)).countP QualityIssue.isTypeMismatch = 0 ∧
      match row[i]? with
      | none => (c.columnIssues rounding (.row row) (name,i)).countP QualityIssue.isMissing = 1 ∧
          (c.columnIssues rounding (.row row) (name,i)).countP QualityIssue.isOutOfRange = 0
      | some x => (c.columnIssues rounding (.row row) (name,i)).countP QualityIssue.isMissing = (if x = .nan then 1 else 0) ∧
          (c.columnIssues rounding (.row row) (name,i)).countP QualityIssue.isOutOfRange = if c.outOfRange name x then 1 else 0 := by
  cases held : row[i]? with
  | none =>
    have outside : (NdMatrix.row row).columns ≤ i := List.getElem?_eq_none_iff.mp held
    unfold columnIssues
    simp only [outside,if_true]
    exact ⟨rfl,rfl,rfl⟩
  | some x =>
    have inside : ¬(NdMatrix.row row).columns ≤ i := by
      obtain ⟨bound,_⟩ := List.getElem?_eq_some_iff.mp held
      exact Nat.not_le.mpr bound
    have col : (NdMatrix.row row).column i = [x] := by
      simp only [NdMatrix.column,NdMatrix.row,List.filterMap_cons,held,List.filterMap_nil]
    unfold columnIssues
    simp only [inside,if_false,col]
    by_cases undefined : x = .nan
    · subst undefined
      have range : c.outOfRange name .nan = false := by
        unfold outOfRange
        split
        · rfl
        · rename_i low high _
          cases low <;> cases high <;> rfl
      have none : c.columnRangeIssue name [] = [] := by
        unfold columnRangeIssue
        split <;> first | rfl | contradiction
      simp [none,range,QualityIssue.isMissing,QualityIssue.isOutOfRange,QualityIssue.isTypeMismatch]
    · have valid : c.columnRangeIssue name [x] =
          if c.outOfRange name x then [.columnOutOfRange name x x (c.featureRanges.getD name (.nan,.nan))] else [] := by
        unfold columnRangeIssue outOfRange
        rw [OrderedDict.getD]
        cases c.featureRanges.get? name <;> rfl
      have counted : [x].countP (fun x => decide (x = .nan)) = 0 := by simp [undefined]
      have kept : [x].filter (fun x => decide (x ≠ .nan)) = [x] := by simp [undefined]
      rw [counted,kept,valid]
      by_cases range : c.outOfRange name x <;>
        simp [range,undefined,QualityIssue.isMissing,QualityIssue.isOutOfRange,QualityIssue.isTypeMismatch]

-- By induction on the names: the columns from the k-th on hold the cells from the k-th on.
theorem columns_row (rounding : FloatRounding) (row : List PyFloat) (names : List String) (k : Nat) :
    ((names.zipIdx k).flatMap (c.columnIssues rounding (.row row))).countP QualityIssue.isMissing =
        (names.drop (row.drop k).length).length + undefinedCells (names.zip (row.drop k)) ∧
      ((names.zipIdx k).flatMap (c.columnIssues rounding (.row row))).countP QualityIssue.isOutOfRange =
        c.rangedCells (names.zip (row.drop k)) ∧
      ((names.zipIdx k).flatMap (c.columnIssues rounding (.row row))).countP QualityIssue.isTypeMismatch = 0 := by
  induction names generalizing k with
  | nil => simp [undefinedCells,rangedCells]
  | cons name names ih =>
    obtain ⟨missing,ranged,typed⟩ := ih (k + 1)
    obtain ⟨typedHere,here⟩ := c.columnIssues_row rounding row name k
    rw [List.zipIdx_cons,List.flatMap_cons,List.countP_append,List.countP_append,List.countP_append,missing,ranged,typed,typedHere]
    cases held : row[k]? with
    | none =>
      simp only [held] at here
      have outside := List.getElem?_eq_none_iff.mp held
      rw [here.1,here.2,List.drop_eq_nil_of_le outside,List.drop_eq_nil_of_le (Nat.le_succ_of_le outside)]
      simp [undefinedCells,rangedCells]
      omega
    | some x =>
      simp only [held] at here
      obtain ⟨inside,same⟩ := List.getElem?_eq_some_iff.mp held
      have cell : undefinedCells ((name,x) :: names.zip (row.drop (k + 1))) =
          undefinedCells (names.zip (row.drop (k + 1))) + if x = .nan then 1 else 0 := by
        simp [undefinedCells,List.countP_cons]
      have range : c.rangedCells ((name,x) :: names.zip (row.drop (k + 1))) =
          c.rangedCells (names.zip (row.drop (k + 1))) + if c.outOfRange name x then 1 else 0 := List.countP_cons
      rw [here.1,here.2,List.drop_eq_getElem_cons inside,same,List.zip_cons_cons,cell,range,List.length_cons,List.drop_succ_cons]
      omega

theorem checkBatch_row (rounding : FloatRounding) (row : List PyFloat) :
    (c.checkBatch rounding (.row row)).missingCount =
        (c.featureNames.drop row.length).length + undefinedCells (c.featureNames.zip row) ∧
      (c.checkBatch rounding (.row row)).outOfRangeCount = c.rangedCells (c.featureNames.zip row) ∧
      (c.checkBatch rounding (.row row)).typeMismatchCount = 0 :=
  c.columns_row rounding row c.featureNames 0

-- No cell is undefined, no name beyond the cells is one that a cell covers, and no name
-- comes again after a cell of it that is out of range.
structure Plain (row : List PyFloat) : Prop where
  defined : ∀ cell ∈ c.featureNames.zip row, cell.2 ≠ .nan
  beyond : ∀ name ∈ c.featureNames.drop row.length, name ∉ c.featureNames.take row.length
  ranged : (c.featureNames.zip row).Pairwise fun earlier later => earlier.1 = later.1 → c.outOfRange earlier.1 earlier.2 = false

-- The two checks of a row agree exactly where it is plain; and a score is in the unit interval.
theorem quality_agrees (rounding : FloatRounding) (names : List String) (ranges : OrderedDict String (PyFloat × PyFloat))
    (float : Int → Except String PyFloat) (row : List PyFloat) :
    ((∃ report, (make names ranges none float).check (rowFeatures names row) = .ok report ∧
        Agrees rounding report ((make names ranges none float).checkBatch rounding (.row row))) ↔
      (make names ranges none float).Plain row) ∧
    ∀ report : DataQualityReport, 0 ≤ report.qualityScore rounding ∧ report.qualityScore rounding ≤ 1 := by
  refine ⟨?_,DataQualityReport.qualityScore_unit rounding⟩
  generalize checker : make names ranges none float = c
  have own : c.featureNames = names ∧ c.requiredFeatures = names := by rw [← checker]; exact ⟨rfl,rfl⟩
  obtain ⟨report,ran,total,missing,ranged,typed⟩ := c.check_row row (own.2.trans own.1.symm)
  obtain ⟨batchMissing,batchRanged,batchTyped⟩ := c.checkBatch_row rounding row
  have covered := List.countP_le_length (p := fun name => decide (name ∉ c.featureNames.take row.length)) (l := c.featureNames.drop row.length)
  rw [← own.1]
  constructor
  · rintro ⟨other,came,agrees⟩
    rw [ran] at came
    cases came
    have counts := agrees.missing
    have ranges := agrees.outOfRange
    rw [missing,batchMissing] at counts
    rw [ranged,batchRanged] at ranges
    refine ⟨?_,?_,(countP_lastWrites _ _).2.mp ranges⟩
    · have none : undefinedCells (c.featureNames.zip row) = 0 := by omega
      intro cell member undefined
      exact List.countP_eq_zero.mp none cell member (by simpa using undefined)
    · have every : (c.featureNames.drop row.length).countP (fun name => decide (name ∉ c.featureNames.take row.length)) =
          (c.featureNames.drop row.length).length := by omega
      intro name member
      simpa using List.countP_eq_length.mp every name member
  · intro plain
    have none : undefinedCells (c.featureNames.zip row) = 0 :=
      List.countP_eq_zero.mpr fun cell member => by simpa using plain.defined cell member
    have every : (c.featureNames.drop row.length).countP (fun name => decide (name ∉ c.featureNames.take row.length)) =
        (c.featureNames.drop row.length).length :=
      List.countP_eq_length.mpr fun name member => by simpa using plain.beyond name member
    have sameMissing : report.missingCount = (c.checkBatch rounding (.row row)).missingCount := by
      rw [missing,batchMissing,every,none,Nat.add_zero]
    have sameRanged : report.outOfRangeCount = (c.checkBatch rounding (.row row)).outOfRangeCount := by
      rw [ranged,batchRanged]
      exact (countP_lastWrites _ _).2.mpr plain.ranged
    have sameTyped : report.typeMismatchCount = (c.checkBatch rounding (.row row)).typeMismatchCount := typed.trans batchTyped.symm
    have sameTotal : report.totalFeatures = (c.checkBatch rounding (.row row)).totalFeatures := total
    refine ⟨report,ran,sameMissing,sameRanged,?_,?_⟩
    · rw [DataQualityReport.isHealthy,DataQualityReport.isHealthy,sameMissing,sameRanged,sameTyped]
    · rw [DataQualityReport.qualityScore,DataQualityReport.qualityScore,sameMissing,sameRanged,sameTyped,sameTotal]

def exactRounding : FloatRounding := ⟨fun q => q,fun _ _ less => less,rfl,rfl⟩

def amountChecker : DataQualityChecker := make ["amount"] .empty none fun n => .ok (.finite n)

-- An undefined amount is missing for the batch check and fine for the single one.
theorem undefined_cell_disagrees :
    (amountChecker.check (rowFeatures ["amount"] [.nan])).map DataQualityReport.missingCount = .ok 0 ∧
      (amountChecker.checkBatch exactRounding (.row [.nan])).missingCount = 1 ∧
      ¬∃ report, amountChecker.check (rowFeatures ["amount"] [.nan]) = .ok report ∧
        Agrees exactRounding report (amountChecker.checkBatch exactRounding (.row [.nan])) := by
  have single : (amountChecker.check (rowFeatures ["amount"] [.nan])).map DataQualityReport.missingCount = .ok 0 := rfl
  refine ⟨single,rfl,?_⟩
  rintro ⟨report,ran,agrees⟩
  rw [ran] at single
  have none : report.missingCount = 0 := Except.ok.inj single
  rw [agrees.missing] at none
  cases none

end DataQualityChecker
end RiskPulse
