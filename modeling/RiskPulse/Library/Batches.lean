import Mathlib.Data.List.Basic

-- A list cut into slices of one size, the last one shorter: the slices at the
-- numbers of range(0, length, size).
namespace Batches
variable {α β : Type}

def starts (size length : Nat) : List Nat := List.range' 0 ((length + size - 1) / size) size

def batches (size : Nat) (items : List α) : List (List α) :=
  (starts size items.length).map fun i => (items.drop i).take size

theorem slices_flatten (size count first : Nat) (items : List α) :
    ((List.range' first count size).map fun i => (items.drop i).take size).flatten =
      (items.drop first).take (count * size) := by
  induction count generalizing first with
  | zero => simp
  | succ count ih =>
    rw [List.range'_succ,List.map_cons,List.flatten_cons,ih,Nat.succ_mul,Nat.add_comm (count * size) size,List.take_add,
      List.drop_drop]

theorem starts_cover (positive : 0 < size) (length : Nat) : length ≤ (length + size - 1) / size * size := by
  have whole := Nat.div_add_mod (length + size - 1) size
  have rest := Nat.mod_lt (length + size - 1) positive
  rw [Nat.mul_comm] at whole
  omega

theorem batches_flatten (positive : 0 < size) (items : List α) : (batches size items).flatten = items := by
  rw [batches,starts,slices_flatten,List.drop_zero]
  exact List.take_of_length_le (starts_cover positive items.length)

-- Slices of two lists, paired, are the pairs of the two.
theorem batches_zip (positive : 0 < size) (items : List α) (others : List β) :
    ((starts size items.length).map fun i => ((items.drop i).take size).zip ((others.drop i).take size)).flatten =
      items.zip others := by
  have slice : ∀ i, ((items.drop i).take size).zip ((others.drop i).take size) = ((items.zip others).drop i).take size := by
    intro i
    simp only [List.zip,← List.take_zipWith,← List.drop_zipWith]
  simp only [slice]
  rw [starts,slices_flatten,List.drop_zero]
  apply List.take_of_length_le
  have cover := starts_cover positive items.length
  rw [List.length_zip]
  omega

theorem batches_whole (some : items ≠ []) : batches items.length items = [items] := by
  have positive : 0 < items.length := List.length_pos_of_ne_nil some
  have once : (items.length + items.length - 1) / items.length = 1 := by
    rw [Nat.div_eq_iff positive]
    omega
  simp [batches,starts,once]

theorem batches_nil (size : Nat) : batches size ([] : List α) = [] := by
  have none : (0 + size - 1) / size = 0 := by
    cases size with
    | zero => rfl
    | succ n => exact Nat.div_eq_of_lt (by omega)
  rw [batches,starts,List.length_nil,none]
  rfl

-- The first slice and those of the rest.
theorem batches_cons (positive : 0 < size) (items : List α) (some : items ≠ []) :
    batches size items = items.take size :: batches size (items.drop size) := by
  have filled : 0 < items.length := List.length_pos_of_ne_nil some
  have count : (items.length + size - 1) / size = (items.length - size + size - 1) / size + 1 := by
    by_cases long : size ≤ items.length
    · rw [Nat.sub_add_cancel long,← Nat.add_div_right _ positive]
      congr 1
      omega
    · have short : items.length - size = 0 := by omega
      rw [short,Nat.div_eq_of_lt (by omega : 0 + size - 1 < size)]
      apply Nat.div_eq_of_lt_le
      · omega
      · omega
  have shifted : ∀ n, List.range' size n size = (List.range' 0 n size).map (size + ·) := by
    intro n
    rw [List.map_add_range']
    rfl
  rw [batches,starts,count,List.range'_succ,List.map_cons,List.drop_zero,Nat.zero_add,shifted,List.map_map,batches,starts,List.length_drop]
  congr 1
  apply List.map_congr_left
  intro i _
  rw [Function.comp_apply,List.drop_drop]

theorem batches_filled (positive : 0 < size) (items : List α) (member : batch ∈ batches size items) : batch ≠ [] := by
  obtain ⟨i,start,rfl⟩ := List.mem_map.mp member
  obtain ⟨j,before,rfl⟩ := List.mem_range'.mp start
  have inside : (j + 1) * size ≤ items.length + size - 1 := (Nat.le_div_iff_mul_le positive).mp before
  rw [Nat.succ_mul,Nat.mul_comm] at inside
  intro empty
  have short := congrArg List.length empty
  rw [List.length_take,List.length_drop,List.length_nil] at short
  omega

theorem batches_one (items : List α) (member : batch ∈ batches 1 items) : batch.length ≤ 1 := by
  obtain ⟨i,_,rfl⟩ := List.mem_map.mp member
  rw [List.length_take]
  exact Nat.min_le_left _ _

end Batches
