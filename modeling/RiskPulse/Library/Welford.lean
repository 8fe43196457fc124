import Mathlib.Algebra.BigOperators.Ring.List
import Mathlib.Algebra.Field.Basic
import Mathlib.Tactic.FieldSimp
import Mathlib.Tactic.LinearCombination
import Mathlib.Tactic.Ring

-- The mean and the squared deviations of a list of numbers, and the method that keeps
-- both up to date one number at a time.
namespace Welford
variable {K : Type*} [Field K]

def mean (xs : List K) : K := xs.sum / xs.length

-- The sum of the squared deviations from the mean.
def squares (xs : List K) : K := (xs.map fun x => (x - mean xs) ^ 2).sum

structure State (K : Type*) where
  count : Nat
  mean : K
  m2 : K

def start : State K := ⟨0,0,0⟩

def add (s : State K) (x : K) : State K :=
  let delta := x - s.mean
  let moved := s.mean + delta / (s.count + 1 : Nat)
  ⟨s.count + 1,moved,s.m2 + delta * (x - moved)⟩

theorem mean_perm (same : xs.Perm others) : mean (K := K) xs = mean others := by
  rw [mean,mean,same.sum_eq,same.length_eq]

theorem squares_perm (same : xs.Perm others) : squares (K := K) xs = squares others := by
  rw [squares,squares,mean_perm same]
  exact (same.map _).sum_eq

-- Deviations from any point.
theorem deviations (xs : List K) (c : K) :
    (xs.map fun x => (x - c) ^ 2).sum = (xs.map (· ^ 2)).sum - 2 * c * xs.sum + xs.length * c ^ 2 := by
  induction xs with
  | nil => simp
  | cons x rest ih =>
    simp only [List.map_cons,List.sum_cons,List.length_cons,ih]
    push_cast
    ring

variable [CharZero K]

theorem length_mean (xs : List K) : xs.length * mean xs = xs.sum := by
  cases xs with
  | nil => simp
  | cons x rest => exact mul_div_cancel₀ _ (Nat.cast_ne_zero.mpr (Nat.succ_ne_zero _))

theorem squares_mean (xs : List K) : squares xs = (xs.map (· ^ 2)).sum - xs.length * mean xs ^ 2 := by
  have total := length_mean xs
  rw [squares,deviations]
  linear_combination 2 * mean xs * total

-- The state stands for the numbers added so far.
structure Summarises (s : State K) (xs : List K) : Prop where
  count : s.count = xs.length
  mean : s.mean = Welford.mean xs
  m2 : s.m2 = squares xs

omit [CharZero K] in
theorem start_summarises : Summarises (start : State K) [] := ⟨rfl,by simp [start,mean],by simp [start,squares]⟩

theorem Summarises.add {s : State K} {xs : List K} (summary : Summarises s xs) (x : K) : Summarises (Welford.add s x) (xs ++ [x]) := by
  obtain ⟨counted,centre,spread⟩ := summary
  have positive : ((xs.length + 1 : Nat) : K) ≠ 0 := Nat.cast_ne_zero.mpr (Nat.succ_ne_zero _)
  have total := length_mean xs
  have moved : s.mean + (x - s.mean) / ((s.count + 1 : Nat) : K) = Welford.mean (xs ++ [x]) := by
    rw [Welford.mean,List.sum_append,List.sum_singleton,List.length_append,List.length_singleton,← total,counted,centre]
    field_simp
    push_cast
    ring
  refine ⟨by rw [List.length_append,← counted]; rfl,moved,?_⟩
  have weighed := length_mean (xs ++ [x])
  rw [List.sum_append,List.sum_singleton,List.length_append,List.length_singleton,← total] at weighed
  change s.m2 + (x - s.mean) * (x - (s.mean + (x - s.mean) / ((s.count + 1 : Nat) : K))) = _
  rw [moved,squares_mean,List.map_append,List.sum_append,List.map_singleton,List.sum_singleton,List.length_append,List.length_singleton,
    spread,squares_mean,centre]
  push_cast at weighed ⊢
  linear_combination (Welford.mean xs + Welford.mean (xs ++ [x])) * weighed

theorem run_summarises (xs : List K) : Summarises (xs.foldl Welford.add start) xs := by
  have runs : ∀ (later earlier : List K) (s : State K), Summarises s earlier → Summarises (later.foldl Welford.add s) (earlier ++ later) := by
    intro later
    induction later with
    | nil =>
      intro earlier s summary
      rw [List.append_nil]
      exact summary
    | cons x rest ih =>
      intro earlier s summary
      have next := ih (earlier ++ [x]) (Welford.add s x) (summary.add x)
      rw [List.append_assoc] at next
      exact next
  exact runs xs [] start start_summarises

end Welford
