import Mathlib.Algebra.BigOperators.Group.List.Basic
import Mathlib.Algebra.BigOperators.Ring.List
import Mathlib.Algebra.Order.BigOperators.Group.List
import Mathlib.Algebra.Order.Field.Basic
import Mathlib.Algebra.Order.Ring.Defs
import Mathlib.Data.Finset.Max
import Mathlib.Tactic.Linarith

-- Values with their weights, and the mean in which each counts by its share of the
-- total weight.
namespace WeightedMean
variable {K : Type*} [Field K]

def total (items : List (K × K)) : K := (items.map Prod.snd).sum

def moment (items : List (K × K)) : K := (items.map fun item => item.1 * item.2).sum

def mean (items : List (K × K)) : K := (items.map fun item => item.1 * (item.2 / total items)).sum

theorem moment_cons (item : K × K) (items : List (K × K)) : moment (item :: items) = item.1 * item.2 + moment items :=
  List.sum_cons

theorem total_cons (item : K × K) (items : List (K × K)) : total (item :: items) = item.2 + total items := List.sum_cons

theorem mean_moment (items : List (K × K)) : mean items = moment items / total items := by
  unfold mean moment
  rw [div_eq_mul_inv,← List.sum_map_mul_right]
  congr 1
  apply List.map_congr_left
  intro item _
  rw [div_eq_mul_inv,mul_assoc]

theorem mean_perm (same : items.Perm others) : mean (K := K) items = mean others := by
  have weights : total items = total others := (same.map _).sum_eq
  have moments : moment items = moment others := (same.map _).sum_eq
  rw [mean_moment,mean_moment,weights,moments]

section Order
variable [LinearOrder K] {items others : List (K × K)}

def NonNegative (items : List (K × K)) : Prop := ∀ item ∈ items, 0 ≤ item.2

theorem NonNegative.tail (weighed : NonNegative (item :: items)) : NonNegative items :=
  fun other member => weighed other (List.mem_cons_of_mem _ member)

theorem total_filled (positive : 0 < total items) : items.toFinset.Nonempty := by
  apply List.toFinset_nonempty_iff items |>.mpr
  intro nothing
  rw [nothing] at positive
  exact lt_irrefl 0 positive

-- Each value of the second list is at least that of the first, under the same weight.
def Raised (items others : List (K × K)) : Prop := List.Forall₂ (fun item other => item.2 = other.2 ∧ item.1 ≤ other.1) items others

theorem raised_total (raised : Raised items others) : total items = total others := by
  induction raised with
  | nil => rfl
  | cons pair _ ih => rw [total_cons,total_cons,pair.1,ih]

variable [IsStrictOrderedRing K]

theorem total_nonneg (weighed : NonNegative items) : 0 ≤ total items := by
  apply List.sum_nonneg
  intro weight member
  obtain ⟨item,inside,rfl⟩ := List.mem_map.mp member
  exact weighed item inside

theorem moment_le (weighed : NonNegative items) (below : ∀ item ∈ items, item.1 ≤ top) : moment items ≤ top * total items := by
  induction items with
  | nil => simp [moment,total]
  | cons item rest ih =>
    have here := mul_le_mul_of_nonneg_right (below item List.mem_cons_self) (weighed item List.mem_cons_self)
    have later := ih weighed.tail fun other member => below other (List.mem_cons_of_mem _ member)
    rw [moment_cons,total_cons,mul_add]
    exact add_le_add here later

theorem le_moment (weighed : NonNegative items) (above : ∀ item ∈ items, bottom ≤ item.1) :
    bottom * total items ≤ moment items := by
  induction items with
  | nil => simp [moment,total]
  | cons item rest ih =>
    have here := mul_le_mul_of_nonneg_right (above item List.mem_cons_self) (weighed item List.mem_cons_self)
    have later := ih weighed.tail fun other member => above other (List.mem_cons_of_mem _ member)
    rw [moment_cons,total_cons,mul_add]
    exact add_le_add here later

theorem mean_le (weighed : NonNegative items) (positive : 0 < total items) (below : ∀ item ∈ items, item.1 ≤ top) :
    mean items ≤ top := by
  rw [mean_moment]
  exact (div_le_iff₀ positive).mpr (moment_le weighed below)

theorem le_mean (weighed : NonNegative items) (positive : 0 < total items) (above : ∀ item ∈ items, bottom ≤ item.1) :
    bottom ≤ mean items := by
  rw [mean_moment]
  exact (le_div_iff₀ positive).mpr (le_moment weighed above)

-- The mean lies between the smallest and the largest of the values.
theorem exists_le_mean (weighed : NonNegative items) (positive : 0 < total items) : ∃ item ∈ items, item.1 ≤ mean items := by
  obtain ⟨least,member,below⟩ := Finset.exists_min_image items.toFinset Prod.fst (total_filled positive)
  refine ⟨least,List.mem_toFinset.mp member,le_mean weighed positive ?_⟩
  intro item inside
  exact below item (List.mem_toFinset.mpr inside)

theorem exists_mean_le (weighed : NonNegative items) (positive : 0 < total items) : ∃ item ∈ items, mean items ≤ item.1 := by
  obtain ⟨most,member,above⟩ := Finset.exists_max_image items.toFinset Prod.fst (total_filled positive)
  refine ⟨most,List.mem_toFinset.mp member,mean_le weighed positive ?_⟩
  intro item inside
  exact above item (List.mem_toFinset.mpr inside)

theorem raised_moment (weighed : NonNegative items) (raised : Raised items others) : moment items ≤ moment others := by
  induction raised with
  | nil => exact le_refl _
  | cons pair _ ih =>
    rw [moment_cons,moment_cons,← pair.1]
    apply add_le_add
    · exact mul_le_mul_of_nonneg_right pair.2 (weighed _ List.mem_cons_self)
    · exact ih weighed.tail

theorem mean_mono (weighed : NonNegative items) (raised : Raised items others) : mean items ≤ mean others := by
  rw [mean_moment,mean_moment,← raised_total raised]
  exact div_le_div_of_nonneg_right (raised_moment weighed raised) (total_nonneg weighed)

end Order
end WeightedMean

-- The chance that at least one of several independent events happens.
namespace NoisyOr
variable {K : Type*} [CommRing K] [LinearOrder K] [IsStrictOrderedRing K]

-- The chance that none does.
def none (ps : List K) : K := (ps.map fun p => 1 - p).prod

def combine (ps : List K) : K := 1 - none ps

def Chance (p : K) : Prop := 0 ≤ p ∧ p ≤ 1

omit [LinearOrder K] [IsStrictOrderedRing K] in
theorem none_cons (p : K) (ps : List K) : none (p :: ps) = (1 - p) * none ps := List.prod_cons

omit [LinearOrder K] [IsStrictOrderedRing K] in
theorem combine_perm (same : ps.Perm others) : combine (K := K) ps = combine others := congrArg (1 - ·) (same.map _).prod_eq

theorem none_chance (ps : List K) (chances : ∀ p ∈ ps, Chance p) : Chance (none ps) := by
  induction ps with
  | nil => exact ⟨zero_le_one,le_refl _⟩
  | cons p rest ih =>
    obtain ⟨low,high⟩ := chances p List.mem_cons_self
    obtain ⟨restLow,restHigh⟩ := ih fun other member => chances other (List.mem_cons_of_mem _ member)
    rw [none_cons]
    exact ⟨mul_nonneg (by linarith) restLow,mul_le_one₀ (by linarith) restLow restHigh⟩

theorem combine_chance (ps : List K) (chances : ∀ p ∈ ps, Chance p) : Chance (combine ps) := by
  obtain ⟨low,high⟩ := none_chance ps chances
  unfold combine
  exact ⟨by linarith,by linarith⟩

-- One event more makes it no less.
theorem combine_more (p : K) (ps : List K) (chance : Chance p) (chances : ∀ p ∈ ps, Chance p) : combine ps ≤ combine (p :: ps) := by
  have fewer := mul_le_of_le_one_left (none_chance ps chances).1 (show 1 - p ≤ 1 by linarith [chance.1])
  unfold combine
  rw [none_cons]
  linarith

end NoisyOr
