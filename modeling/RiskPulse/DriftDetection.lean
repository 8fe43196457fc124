import Mathlib.Algebra.Order.BigOperators.Group.List
import RiskPulse.FraudRules
import RiskPulse.Library.Fallible
import RiskPulse.Library.Histogram
import RiskPulse.Library.NdArray

open Histogram

namespace RiskPulse
namespace PyFloat

-- Sums, quotients and absolute values where nothing is rounded, as numpy has them on what
-- is no number.
def plus : PyFloat → PyFloat → PyFloat
  | .finite a,.finite b => .finite (a + b)
  | .infinity s,.infinity t => if s = t then .infinity s else .nan
  | .finite _,.infinity t => .infinity t
  | .infinity s,.finite _ => .infinity s
  | _,_ => .nan

def quotient : PyFloat → PyFloat → PyFloat
  | .finite a,.finite b => if b ≠ 0 then .finite (a / b) else if a = 0 then .nan else .infinity (decide (a < 0))
  | .finite _,.infinity _ => .finite 0
  | .infinity s,.finite b => .infinity (s != decide (b < 0))
  | _,_ => .nan

def magnitude : PyFloat → PyFloat
  | .finite a => .finite |a|
  | .infinity _ => .infinity false
  | .nan => .nan

def sum (terms : List PyFloat) : PyFloat := terms.foldl plus (.finite 0)

def rational? : PyFloat → Option Rat
  | .finite q => some q
  | _ => none

end PyFloat

-- What the monitor takes from numpy and scipy beyond histograms: the logarithm of a positive
-- number, the mean, the standard deviation, and the statistic and p-value of a KS test.
structure MonitorHost where
  log : Rat → Rat
  mean : List PyFloat → PyFloat
  std : List PyFloat → PyFloat
  ks2samp : List PyFloat → List PyFloat → PyFloat × PyFloat

namespace MonitorHost
variable (h : MonitorHost)

-- np.log
def naturalLog : PyFloat → PyFloat
  | .finite q => if 0 < q then .finite (h.log q) else if q = 0 then .infinity true else .nan
  | .infinity false => .infinity false
  | _ => .nan

end MonitorHost

-- np.histogram(values, bins=edges, density=True)[0]
def density (edges : List Rat) (values : List PyFloat) : List PyFloat :=
  let counted := counts (values.filterMap PyFloat.rational?) edges
  (counted.zip (widths edges)).map fun bin => ((PyFloat.finite bin.1).quotient (.finite bin.2)).quotient (.finite counted.sum)

-- The range numpy finds for its bins.
def outerEdges (values : List PyFloat) : Except String (Rat × Rat) :=
  match values.mapM PyFloat.rational? with
  | none => .error "ValueError: autodetected range is not finite"
  | some [] => .ok (0,1)
  | some (first :: rest) =>
    let low := rest.foldl min first
    let high := rest.foldl max first
    if low = high then .ok (low - 1 / 2,high + 1 / 2) else .ok (low,high)

def eps : PyFloat := .finite (1 / 10 ^ 8)

-- A histogram with a little in every bin, as shares of one.
def smoothed (hist : List PyFloat) : List PyFloat :=
  let shifted := hist.map fun x => x.plus eps
  shifted.map fun x => x.quotient (PyFloat.sum shifted)

-- np.sum((current - baseline) * np.log(current / baseline))
def populationStability (h : MonitorHost) (baseline current : List PyFloat) : PyFloat :=
  PyFloat.sum (((smoothed current).zip (smoothed baseline)).map fun bin =>
    (bin.1.difference bin.2).product (h.naturalLog (bin.1.quotient bin.2)))

-- A deque with a maximal length drops its oldest items.
def keepLast (size : Nat) (window : List PyFloat) : List PyFloat := window.drop (window.length - size)

structure PredictionDistributionTracker where
  windowSize : Nat
  nBins : Nat
  scores : List PyFloat
  baselineHistogram : Option (List PyFloat)
  baselineEdges : Option (List Rat)

namespace PredictionDistributionTracker
variable (t : PredictionDistributionTracker)

def make (windowSize nBins : Nat) : PredictionDistributionTracker := ⟨windowSize,nBins,[],none,none⟩

def count : Nat := t.scores.length

def record (score : PyFloat) : PredictionDistributionTracker := { t with scores := keepLast t.windowSize (t.scores ++ [score]) }

def recordBatch (scores : List PyFloat) : PredictionDistributionTracker :=
  { t with scores := keepLast t.windowSize (t.scores ++ scores) }

def setBaseline (scores : Option (List PyFloat)) : Except String PredictionDistributionTracker :=
  let fit (data : List PyFloat) : Except String PredictionDistributionTracker :=
    if t.nBins = 0 then .error "ValueError: `bins` must be positive, when an integer"
    else
      let edges := linspace 0 1 t.nBins
      .ok { t with baselineHistogram := some (density edges data), baselineEdges := some edges }
  match scores with
  | some data => fit data
  | none => if 0 < t.scores.length then fit t.scores else .ok t

def computePsi (h : MonitorHost) : Option PyFloat :=
  match t.baselineHistogram,t.baselineEdges with
  | some baseline,some edges => if t.scores.length < 100 then none else some (populationStability h baseline (density edges t.scores))
  | _,_ => none

end PredictionDistributionTracker

structure FeatureDriftResult where
  featureName : String
  driftScore : PyFloat
  isDrifted : Bool
  testMethod : String
  pValue : Option PyFloat
  threshold : PyFloat
  details : Record

structure FeatureDriftDetector where
  featureNames : List String
  windowSize : Nat
  psiThreshold : PyFloat
  ksThreshold : PyFloat
  featureWindows : OrderedDict String (List PyFloat)
  baselines : OrderedDict String (List PyFloat)

namespace FeatureDriftDetector
variable (h : MonitorHost) (d : FeatureDriftDetector)

def make (featureNames : List String) (windowSize : Nat) (psiThreshold ksThreshold : PyFloat) : FeatureDriftDetector where
  featureNames := featureNames
  windowSize := windowSize
  psiThreshold := psiThreshold
  ksThreshold := ksThreshold
  featureWindows := .ofList (featureNames.map fun name => (name,[]))
  baselines := .empty

def setBaseline (featureData : OrderedDict String (List PyFloat)) : FeatureDriftDetector :=
  { d with baselines := featureData.entries.foldl (fun baselines item => if item.1 ∈ d.featureNames then baselines.set item.1 item.2 else baselines) d.baselines }

def extend (name : String) (values : List PyFloat) : FeatureDriftDetector :=
  match d.featureWindows.get? name with
  | some window => { d with featureWindows := d.featureWindows.set name (keepLast d.windowSize (window ++ values)) }
  | none => d

def record (features : OrderedDict String PyFloat) : FeatureDriftDetector :=
  features.entries.foldl (fun d item => d.extend item.1 [item.2]) d

-- An array of shape (n_samples, n_features).
def recordBatch (featureMatrix : NdMatrix PyFloat) : FeatureDriftDetector :=
  d.featureNames.zipIdx.foldl
    (fun d feature => if feature.2 < featureMatrix.columns then d.extend feature.1 (featureMatrix.column feature.2) else d) d

def computeFeaturePsi (name : String) (baseline current : List PyFloat) : Except String FeatureDriftResult := do
  let (first,last) ← outerEdges baseline
  let edges := linspace first last 20
  let psi := populationStability h (density edges baseline) (density edges current)
  return {
    featureName := name
    driftScore := psi
    isDrifted := psi.greater d.psiThreshold
    testMethod := "psi"
    pValue := none
    threshold := d.psiThreshold
    details := .ofList [("psi_value",.float psi),("n_baseline",.int baseline.length),("n_current",.int current.length)] }

def computeKsTest (name : String) (baseline current : List PyFloat) : FeatureDriftResult :=
  let (statistic,pValue) := h.ks2samp baseline current
  {
    featureName := name
    driftScore := statistic
    isDrifted := d.ksThreshold.greater pValue
    testMethod := "ks"
    pValue := some pValue
    threshold := d.ksThreshold
    details := .ofList [("ks_statistic",.float statistic),("p_value",.float pValue),("n_baseline",.int baseline.length),
      ("n_current",.int current.length)] }

def computeMeanShift (name : String) (baseline current : List PyFloat) : FeatureDriftResult :=
  let baselineMean := h.mean baseline
  let baselineStd := if h.std baseline = .finite 0 then eps else h.std baseline
  let currentMean := h.mean current
  let shift := (currentMean.difference baselineMean).magnitude.quotient baselineStd
  let threshold := .finite 3
  {
    featureName := name
    driftScore := shift
    isDrifted := shift.greater threshold
    testMethod := "mean_shift"
    pValue := none
    threshold := threshold
    details := .ofList [("baseline_mean",.float baselineMean),("baseline_std",.float baselineStd),("current_mean",.float currentMean),
      ("shift_z_score",.float shift)] }

-- The baseline and the window of a feature that has both, with a hundred values to compare.
def sampled (name : String) : Option (String × List PyFloat × List PyFloat) :=
  match d.baselines.get? name,d.featureWindows.get? name with
  | some baseline,some current => if current.length < 100 then none else some (name,baseline,current)
  | _,_ => none

def detect (method : String) : String × List PyFloat × List PyFloat → Except String FeatureDriftResult
  | (name,baseline,current) =>
    if method = "psi" then d.computeFeaturePsi h name baseline current
    else if method = "ks" then .ok (d.computeKsTest h name baseline current)
    else .ok (computeMeanShift h name baseline current)

def detectDrift (method : String) : Except String (List FeatureDriftResult) :=
  (d.featureNames.filterMap d.sampled).mapM (d.detect h method)

def getDriftedFeatures (method : String) : Except String (List FeatureDriftResult) := do
  let allResults ← d.detectDrift h method
  return allResults.filter FeatureDriftResult.isDrifted

end FeatureDriftDetector

namespace PyFloat

theorem quotient_finite (a : Rat) (other : b ≠ 0) : (finite a).quotient (finite b) = finite (a / b) := if_pos other

theorem sum_finite (terms : List Rat) : sum (terms.map finite) = finite terms.sum := by
  have folded : ∀ start : Rat, (terms.map finite).foldl plus (finite start) = finite (start + terms.sum) := by
    induction terms with
    | nil => intro start; rw [List.sum_nil,add_zero]; rfl
    | cons q terms ih =>
      intro start
      rw [List.sum_cons,← add_assoc]
      exact ih (start + q)
  rw [sum,folded,zero_add]

theorem plus_nan (a : PyFloat) : a.plus .nan = .nan := by cases a <;> rfl

-- What is no number stays so in a sum.
theorem sum_nan (terms : List PyFloat) (undefined : .nan ∈ terms) : sum terms = .nan := by
  have stays : ∀ terms : List PyFloat, terms.foldl plus .nan = .nan := by
    intro terms
    induction terms with
    | nil => rfl
    | cons _ _ ih => exact ih
  obtain ⟨before,after,rfl⟩ := List.append_of_mem undefined
  rw [sum,List.foldl_append,List.foldl_cons,plus_nan,stays]

theorem quotient_nan (a : PyFloat) : a.quotient .nan = .nan := by cases a <;> rfl

theorem difference_nan (a : PyFloat) : a.difference .nan = .nan := by cases a <;> rfl

theorem product_undefined (a : PyFloat) : product .nan a = .nan := by cases a <;> rfl

end PyFloat

-- A number from the first edge to the last.
def Within (first last : Rat) (x : PyFloat) : Prop := ∃ q, x = .finite q ∧ first ≤ q ∧ q ≤ last

theorem within_counted (values : List PyFloat) (first last : Rat) (bins : Nat) (wide : first < last) (filled : 0 < bins) :
    0 < (counts (values.filterMap PyFloat.rational?) (linspace first last bins)).sum ↔ ∃ x ∈ values, Within first last x := by
  rw [linspace_counts _ first last bins wide filled,List.countP_pos_iff]
  constructor
  · rintro ⟨q,member,between⟩
    obtain ⟨x,present,same⟩ := List.mem_filterMap.mp member
    cases x with
    | finite r =>
      cases same
      exact ⟨_,present,q,rfl,of_decide_eq_true between⟩
    | nan => cases same
    | infinity negative => cases same
  · rintro ⟨x,present,q,rfl,between⟩
    exact ⟨q,List.mem_filterMap.mpr ⟨_,present,rfl⟩,decide_eq_true between⟩

theorem density_length (edges : List Rat) (values : List PyFloat) : (density edges values).length = edges.length - 1 := by
  rw [density,List.length_map,List.length_zip,counts_length,widths_length,Nat.min_self]

-- A histogram of something is a list of shares.
theorem density_defined (edges : List Rat) (values : List PyFloat) (increasing : edges.Pairwise (· < ·))
    (filled : 0 < (counts (values.filterMap PyFloat.rational?) edges).sum) :
    ∃ shares : List Rat, density edges values = shares.map PyFloat.finite ∧ ∀ share ∈ shares, 0 ≤ share := by
  rw [density]
  generalize counts (values.filterMap PyFloat.rational?) edges = counted at filled ⊢
  have whole : (counted.sum : Rat) ≠ 0 := Nat.cast_ne_zero.mpr filled.ne'
  refine ⟨(counted.zip (widths edges)).map fun bin => (bin.1 : Rat) / bin.2 / counted.sum,?_,?_⟩
  · rw [List.map_map]
    apply List.map_congr_left
    intro bin member
    have wide := widths_positive edges increasing bin.2 (List.of_mem_zip member).2
    rw [PyFloat.quotient_finite _ wide.ne',PyFloat.quotient_finite _ whole]
    rfl
  · intro share member
    obtain ⟨bin,present,rfl⟩ := List.mem_map.mp member
    have wide := widths_positive edges increasing bin.2 (List.of_mem_zip present).2
    exact div_nonneg (div_nonneg (Nat.cast_nonneg _) wide.le) (Nat.cast_nonneg _)

-- A histogram of nothing divides by zero in every bin.
theorem density_undefined (edges : List Rat) (values : List PyFloat) (increasing : edges.Pairwise (· < ·))
    (empty : (counts (values.filterMap PyFloat.rational?) edges).sum = 0) : ∀ share ∈ density edges values, share = .nan := by
  rw [density]
  generalize counts (values.filterMap PyFloat.rational?) edges = counted at empty ⊢
  intro share member
  obtain ⟨⟨n,width⟩,present,rfl⟩ := List.mem_map.mp member
  obtain ⟨counted_,wide⟩ := List.of_mem_zip present
  have none : n = 0 := Nat.le_zero.mp (empty ▸ List.single_le_sum (fun _ _ => Nat.zero_le _) _ counted_)
  have positive := widths_positive edges increasing width wide
  simp only
  rw [PyFloat.quotient_finite _ positive.ne',none,empty,Nat.cast_zero,zero_div]
  rfl

theorem smoothed_length (hist : List PyFloat) : (smoothed hist).length = hist.length := by
  rw [smoothed,List.length_map,List.length_map]

-- Shares with a little more in each, divided by their sum, are positive.
theorem smoothed_defined (shares : List Rat) (least : ∀ share ∈ shares, 0 ≤ share) :
    ∃ parts : List Rat, smoothed (shares.map PyFloat.finite) = parts.map PyFloat.finite ∧ ∀ part ∈ parts, 0 < part := by
  have shifted : (shares.map PyFloat.finite).map (fun x => x.plus eps) = (shares.map fun share => share + 1 / 10 ^ 8).map PyFloat.finite := by
    rw [List.map_map,List.map_map]
    rfl
  have positive : ∀ part ∈ shares.map fun share => share + 1 / 10 ^ 8, (0 : Rat) < part := by
    intro part member
    obtain ⟨share,present,rfl⟩ := List.mem_map.mp member
    exact add_pos_of_nonneg_of_pos (least share present) (by norm_num)
  rw [smoothed,shifted,PyFloat.sum_finite]
  generalize (shares.map fun share => share + 1 / 10 ^ 8) = parts at positive ⊢
  refine ⟨parts.map fun part => part / parts.sum,?_,?_⟩
  · rw [List.map_map,List.map_map]
    apply List.map_congr_left
    intro part member
    have whole : 0 < parts.sum := List.sum_pos parts positive (List.ne_nil_of_mem member)
    exact PyFloat.quotient_finite _ whole.ne'
  · intro share member
    obtain ⟨part,present,rfl⟩ := List.mem_map.mp member
    have whole : 0 < parts.sum := List.sum_pos parts positive (List.ne_nil_of_mem present)
    exact div_pos (positive part present) whole

theorem smoothed_undefined (hist : List PyFloat) (undefined : .nan ∈ hist) : ∀ share ∈ smoothed hist, share = .nan := by
  intro share member
  rw [smoothed,PyFloat.sum_nan] at member
  · obtain ⟨part,_,rfl⟩ := List.mem_map.mp member
    exact PyFloat.quotient_nan part
  · exact List.mem_map.mpr ⟨.nan,undefined,rfl⟩

-- The index of two lists of shares is a number.
theorem stability_defined (h : MonitorHost) (baseline current : List Rat) (least : ∀ share ∈ baseline, 0 ≤ share)
    (lowest : ∀ share ∈ current, 0 ≤ share) :
    ∃ q, populationStability h (baseline.map PyFloat.finite) (current.map PyFloat.finite) = .finite q := by
  obtain ⟨before,based,some⟩ := smoothed_defined baseline least
  obtain ⟨now,present,more⟩ := smoothed_defined current lowest
  rw [populationStability,based,present,List.zip_map,List.map_map]
  have terms : (now.zip before).map ((fun bin : PyFloat × PyFloat =>
        (bin.1.difference bin.2).product (h.naturalLog (bin.1.quotient bin.2))) ∘ Prod.map PyFloat.finite PyFloat.finite) =
      ((now.zip before).map fun bin => (bin.1 - bin.2) * h.log (bin.1 / bin.2)).map PyFloat.finite := by
    rw [List.map_map]
    apply List.map_congr_left
    intro bin member
    obtain ⟨one,other⟩ := List.of_mem_zip member
    have ratio : 0 < bin.1 / bin.2 := div_pos (more bin.1 one) (some bin.2 other)
    simp only [Function.comp,Prod.map]
    rw [PyFloat.quotient_finite _ (some bin.2 other).ne',MonitorHost.naturalLog,if_pos ratio]
    rfl
  rw [terms,PyFloat.sum_finite]
  exact ⟨_,rfl⟩

-- The index of histograms one of which is undefined is not.
theorem stability_undefined (h : MonitorHost) (baseline current : List PyFloat) (sizes : baseline.length = current.length)
    (undefined : .nan ∈ baseline ∨ .nan ∈ current) : populationStability h baseline current = .nan := by
  have long : 0 < baseline.length ∧ 0 < current.length := by
    rcases undefined with base | now
    · exact ⟨List.length_pos_of_mem base,sizes ▸ List.length_pos_of_mem base⟩
    · exact ⟨sizes ▸ List.length_pos_of_mem now,List.length_pos_of_mem now⟩
  rw [← smoothed_length baseline,← smoothed_length current] at long
  obtain ⟨b,before,based⟩ := List.exists_cons_of_length_pos long.1
  obtain ⟨c,now,present⟩ := List.exists_cons_of_length_pos long.2
  rw [populationStability,based,present]
  apply PyFloat.sum_nan
  refine List.mem_map.mpr ⟨(c,b),List.mem_cons_self,?_⟩
  rcases undefined with base | current_
  · have none := smoothed_undefined baseline base b (based ▸ List.mem_cons_self)
    rw [none,PyFloat.difference_nan]
    exact PyFloat.product_undefined _
  · have none := smoothed_undefined current current_ c (present ▸ List.mem_cons_self)
    rw [none]
    exact PyFloat.product_undefined _

-- The index is a number exactly when each of the two samples has a value between the edges.
theorem stability_linspace (h : MonitorHost) (baseline current : List PyFloat) (first last : Rat) (bins : Nat)
    (wide : first < last) (filled : 0 < bins) :
    let index := populationStability h (density (linspace first last bins) baseline) (density (linspace first last bins) current)
    (((∃ x ∈ baseline, Within first last x) ∧ ∃ x ∈ current, Within first last x) → ∃ q, index = .finite q) ∧
      (¬((∃ x ∈ baseline, Within first last x) ∧ ∃ x ∈ current, Within first last x) → index = .nan) := by
  have increasing := linspace_increasing first last bins wide
  have undefined : ∀ values : List PyFloat, (¬∃ x ∈ values, Within first last x) → .nan ∈ density (linspace first last bins) values := by
    intro values outside
    rw [← within_counted values first last bins wide filled,Nat.not_lt,Nat.le_zero] at outside
    have all := density_undefined _ values increasing outside
    have long : 0 < (density (linspace first last bins) values).length := by
      rw [density_length,linspace,List.length_map,List.length_range]
      exact filled
    obtain ⟨share,rest,shape⟩ := List.exists_cons_of_length_pos long
    have here := all share (shape ▸ List.mem_cons_self)
    rw [shape,here]
    exact List.mem_cons_self
  constructor
  · rintro ⟨based,present⟩
    obtain ⟨shares,same,least⟩ := density_defined _ baseline increasing ((within_counted _ _ _ _ wide filled).mpr based)
    obtain ⟨others,equal,lowest⟩ := density_defined _ current increasing ((within_counted _ _ _ _ wide filled).mpr present)
    rw [same,equal]
    exact stability_defined h shares others least lowest
  · intro outside
    apply stability_undefined
    · rw [density_length,density_length]
    · rcases not_and_or.mp outside with base | now
      · exact .inl (undefined baseline base)
      · exact .inr (undefined current now)

namespace FeatureDriftDetector
variable (h : MonitorHost) (d : FeatureDriftDetector)

-- A number between two of the baseline, or within a half of the only one it has.
def InRange (baseline : List PyFloat) (x : PyFloat) : Prop :=
  ∃ q, x = .finite q ∧
    ((∃ low high, .finite low ∈ baseline ∧ .finite high ∈ baseline ∧ low ≤ q ∧ q ≤ high) ∨
      ∃ c, (∀ a ∈ baseline, a = .finite c) ∧ |q - c| ≤ 1 / 2)

theorem mapM_rational (values : List PyFloat) (finite : ∀ x ∈ values, ∃ q, x = .finite q) :
    ∃ numbers : List Rat, values = numbers.map PyFloat.finite ∧ values.mapM PyFloat.rational? = some numbers := by
  induction values with
  | nil => exact ⟨[],rfl,rfl⟩
  | cons x values ih =>
    rw [List.forall_mem_cons] at finite
    obtain ⟨⟨q,rfl⟩,others⟩ := finite
    obtain ⟨numbers,rfl,read⟩ := ih others
    refine ⟨q :: numbers,rfl,?_⟩
    rw [List.mapM_cons,read]
    rfl

theorem outerEdges_range (baseline : List PyFloat) (filled : baseline ≠ []) (finite : ∀ x ∈ baseline, ∃ q, x = .finite q) :
    ∃ first last, outerEdges baseline = .ok (first,last) ∧ first < last ∧ (∃ x ∈ baseline, Within first last x) ∧
      ∀ x, Within first last x ↔ InRange baseline x := by
  obtain ⟨numbers,rfl,read⟩ := mapM_rational baseline finite
  obtain ⟨a,rest,rfl⟩ : ∃ a rest, numbers = a :: rest := List.exists_cons_of_ne_nil fun none => filled (by rw [none]; rfl)
  have least : rest.foldl min a ∈ a :: rest ∧ ∀ b ∈ a :: rest, rest.foldl min a ≤ b :=
    List.min?_eq_some_iff.mp rfl
  have most : rest.foldl max a ∈ a :: rest ∧ ∀ b ∈ a :: rest, b ≤ rest.foldl max a :=
    List.max?_eq_some_iff.mp rfl
  rw [outerEdges,read]
  simp only
  generalize rest.foldl min a = low at least ⊢
  generalize rest.foldl max a = high at most ⊢
  have present : ∀ q, PyFloat.finite q ∈ (a :: rest).map PyFloat.finite ↔ q ∈ a :: rest := by
    intro q
    exact List.mem_map_of_injective fun _ _ same => PyFloat.finite.inj same
  split
  · next constant =>
    have all : ∀ b ∈ a :: rest, b = low := fun b member => le_antisymm ((most.2 b member).trans constant.ge) (least.2 b member)
    refine ⟨low - 1 / 2,high + 1 / 2,rfl,by linarith,⟨_,(present low).mpr least.1,low,rfl,by linarith,by linarith⟩,?_⟩
    intro x
    constructor
    · rintro ⟨q,rfl,lower,upper⟩
      refine ⟨q,rfl,.inr ⟨low,?_,abs_le.mpr ⟨by linarith,by linarith⟩⟩⟩
      intro b member
      obtain ⟨number,listed,rfl⟩ := List.mem_map.mp member
      rw [all number listed]
    · rintro ⟨q,rfl,⟨b,c,one,other,lower,upper⟩ | ⟨c,every,close⟩⟩
      · rw [present] at one other
        rw [all b one] at lower
        rw [all c other] at upper
        exact ⟨q,rfl,by linarith,by linarith⟩
      · have same := PyFloat.finite.inj (every _ ((present low).mpr least.1))
        rw [← same,abs_le] at close
        exact ⟨q,rfl,by linarith,by linarith⟩
  · next spread =>
    have wide : low < high := lt_of_le_of_ne (least.2 high most.1) spread
    refine ⟨low,high,rfl,wide,⟨_,(present low).mpr least.1,low,rfl,le_refl low,wide.le⟩,?_⟩
    intro x
    constructor
    · rintro ⟨q,rfl,lower,upper⟩
      exact ⟨q,rfl,.inl ⟨low,high,(present low).mpr least.1,(present high).mpr most.1,lower,upper⟩⟩
    · rintro ⟨q,rfl,⟨b,c,one,other,lower,upper⟩ | ⟨c,every,_⟩⟩
      · rw [present] at one other
        exact ⟨q,rfl,(least.2 b one).trans lower,upper.trans (most.2 c other)⟩
      · have bottom := PyFloat.finite.inj (every _ ((present low).mpr least.1))
        have top := PyFloat.finite.inj (every _ ((present high).mpr most.1))
        exact absurd (bottom.trans top.symm) spread

-- The score of a feature is a number where a value of its window is in range, else undefined.
theorem computeFeaturePsi_ok (name : String) (baseline current : List PyFloat) (filled : baseline ≠ [])
    (finite : ∀ x ∈ baseline, ∃ q, x = .finite q) :
    ∃ result, d.computeFeaturePsi h name baseline current = .ok result ∧ result.featureName = name ∧
      result.isDrifted = result.driftScore.greater d.psiThreshold ∧
      ((∃ x ∈ current, InRange baseline x) → ∃ q, result.driftScore = .finite q) ∧
      ((¬∃ x ∈ current, InRange baseline x) → result.driftScore = .nan) := by
  obtain ⟨first,last,found,wide,within,range⟩ := outerEdges_range baseline filled finite
  obtain ⟨defined,undefined⟩ := stability_linspace h baseline current first last 20 wide (by decide)
  generalize index : populationStability h (density (linspace first last 20) baseline) (density (linspace first last 20) current) = psi at defined undefined
  simp only [computeFeaturePsi,found,index,bind,Except.bind,pure,Except.pure]
  refine ⟨_,rfl,rfl,rfl,?_,?_⟩
  · rintro ⟨x,member,here⟩
    exact defined ⟨within,x,member,(range x).mpr here⟩
  · intro outside
    apply undefined
    rintro ⟨_,x,member,here⟩
    exact outside ⟨x,member,(range x).mp here⟩

-- What is reported of a feature is the result of its own baseline and window.
theorem getDriftedFeatures_own {results : List FeatureDriftResult} (ran : d.getDriftedFeatures h "psi" = .ok results)
    {result : FeatureDriftResult} (member : result ∈ results) :
    ∃ name baseline current, d.sampled name = some (name,baseline,current) ∧
      d.computeFeaturePsi h name baseline current = .ok result ∧ result.isDrifted = true := by
  obtain ⟨all,detected,kept⟩ := Fallible.bind_ok.mp ran
  cases kept
  obtain ⟨present,drifted⟩ := List.mem_filter.mp member
  obtain ⟨item,listed,made⟩ := Fallible.mapM_source detected present
  obtain ⟨name,_,sampled⟩ := List.mem_filterMap.mp listed
  obtain ⟨other,baseline,current⟩ := item
  have own : other = name := by
    unfold FeatureDriftDetector.sampled at sampled
    split at sampled
    · split at sampled
      · cases sampled
      · exact (Prod.mk.inj (Option.some.inj sampled)).1.symm
    · cases sampled
  subst own
  exact ⟨other,baseline,current,sampled,made,drifted⟩

-- A feature whose window is all out of range is not reported.
theorem outside_unreported {name : String} {baseline current : List PyFloat} (sampled : d.sampled name = some (name,baseline,current))
    (filled : baseline ≠ []) (finite : ∀ x ∈ baseline, ∃ q, x = .finite q) (outside : ¬∃ x ∈ current, InRange baseline x)
    {results : List FeatureDriftResult} (ran : d.getDriftedFeatures h "psi" = .ok results) :
    ∀ result ∈ results, result.featureName ≠ name := by
  intro result member same
  obtain ⟨other,base,window,own,made,drifted⟩ := d.getDriftedFeatures_own h ran member
  have named : result.featureName = other := by
    obtain ⟨_,_,kept⟩ := Fallible.bind_ok.mp made
    cases kept
    rfl
  rw [← named,same,sampled] at own
  cases own
  obtain ⟨found,ran,_,compared,_,undefined⟩ := d.computeFeaturePsi_ok h name baseline current filled finite
  rw [← named,same,ran] at made
  cases made
  rw [compared,undefined outside] at drifted
  cases drifted

end FeatureDriftDetector

namespace PredictionDistributionTracker
variable (h : MonitorHost)

-- The trackers that come of one by recording scores.
inductive Recorded (t : PredictionDistributionTracker) : PredictionDistributionTracker → Prop where
  | none : Recorded t t
  | one (score : PyFloat) : Recorded t u → Recorded t (u.record score)
  | batch (scores : List PyFloat) : Recorded t u → Recorded t (u.recordBatch scores)

theorem recorded_baseline (recorded : Recorded t u) :
    u.baselineHistogram = t.baselineHistogram ∧ u.baselineEdges = t.baselineEdges := by
  induction recorded with
  | none => exact ⟨rfl,rfl⟩
  | one score _ ih => exact ih
  | batch scores _ ih => exact ih

-- What a baseline is made of: the given scores, or the recorded ones.
def BaselineOf (t : PredictionDistributionTracker) (given : Option (List PyFloat)) (baseline : List PyFloat) : Prop :=
  given = some baseline ∨ given = none ∧ t.scores = baseline ∧ baseline ≠ []

theorem setBaseline_ok {t u : PredictionDistributionTracker} {given : Option (List PyFloat)} {baseline : List PyFloat}
    (made : t.BaselineOf given baseline) (set : t.setBaseline given = .ok u) :
    0 < t.nBins ∧ u.baselineHistogram = some (density (linspace 0 1 t.nBins) baseline) ∧
      u.baselineEdges = some (linspace 0 1 t.nBins) := by
  unfold setBaseline at set
  have fitted : (if t.nBins = 0 then Except.error "ValueError: `bins` must be positive, when an integer"
      else .ok { t with baselineHistogram := some (density (linspace 0 1 t.nBins) baseline),
                        baselineEdges := some (linspace 0 1 t.nBins) }) = .ok u := by
    rcases made with rfl | ⟨rfl,rfl,filled⟩
    · exact set
    · simp only [List.length_pos_iff.mpr filled,↓reduceIte] at set
      exact set
  by_cases empty : t.nBins = 0
  · rw [if_pos empty] at fitted
    cases fitted
  · rw [if_neg empty] at fitted
    cases fitted
    exact ⟨Nat.pos_of_ne_zero empty,rfl,rfl⟩

end PredictionDistributionTracker

namespace FeatureDriftDetector

def plainMonitor : MonitorHost where
  log q := q - 1
  mean _ := .finite 0
  std _ := .finite 0
  ks2samp _ _ := (.finite 0,.finite 0)

-- A baseline that is constantly one, against a hundred equal amounts.
def constantDetector (amount : Rat) : FeatureDriftDetector :=
  ((make ["amount"] 5000 (.finite (1 / 4)) (.finite (1 / 20))).setBaseline (.ofList [("amount",[.finite 1])])).extend "amount"
    (List.replicate 100 (.finite amount))

def halfTracker : PredictionDistributionTracker := .make 10000 50

end FeatureDriftDetector
end RiskPulse
