import Mathlib.Algebra.Order.Field.Basic
import Mathlib.Data.List.Chain
import Mathlib.Data.Rat.Cast.Order

-- Counting values by the intervals between edges. Every interval has its lower edge, and
-- the last one both.
namespace Histogram
variable {α : Type} [LinearOrder α]

def counts (values : List α) : List α → List Nat
  | lower :: upper :: rest =>
    match rest with
    | [] => [values.countP fun v => decide (lower ≤ v ∧ v ≤ upper)]
    | _ :: _ => (values.countP fun v => decide (lower ≤ v ∧ v < upper)) :: counts values (upper :: rest)
  | _ => []

theorem counts_length (values edges : List α) : (counts values edges).length = edges.length - 1 := by
  fun_induction counts values edges with
  | case1 lower upper => rfl
  | case2 lower upper next rest ih =>
    rw [List.length_cons,ih]
    rfl
  | case3 edges short =>
    match edges,short with
    | [],_ => rfl
    | [edge],_ => rfl
    | lower :: upper :: rest,short => exact absurd rfl (short lower upper rest)

-- A value between two edges lies below one between them or not.
theorem countP_split (values : List α) {lower upper top : α} (up : lower ≤ upper) (last : upper ≤ top) :
    (values.countP fun v => decide (lower ≤ v ∧ v < upper)) + (values.countP fun v => decide (upper ≤ v ∧ v ≤ top)) =
      values.countP fun v => decide (lower ≤ v ∧ v ≤ top) := by
  induction values with
  | nil => rfl
  | cons v values ih =>
    rw [List.countP_cons,List.countP_cons,List.countP_cons,← ih]
    have here : (if decide (lower ≤ v ∧ v ≤ top) = true then 1 else 0) =
        (if decide (lower ≤ v ∧ v < upper) = true then 1 else 0) + if decide (upper ≤ v ∧ v ≤ top) = true then 1 else 0 := by
      rcases lt_or_ge v upper with below | above
      · have under : v ≤ top := (le_of_lt below).trans last
        simp [below,under,not_le.mpr below]
      · simp [above,not_lt.mpr above,up.trans above]
    rw [here]
    omega

-- What is counted is what lies between the first and the last edge.
theorem counts_sum (values : List α) (lower upper : α) (rest : List α) (sorted : (lower :: upper :: rest).Pairwise (· ≤ ·)) :
    (counts values (lower :: upper :: rest)).sum =
      values.countP fun v => decide (lower ≤ v ∧ v ≤ (upper :: rest).getLast (List.cons_ne_nil upper rest)) := by
  induction rest generalizing lower upper with
  | nil => exact Nat.add_zero _
  | cons next rest ih =>
    rw [List.pairwise_cons] at sorted
    obtain ⟨first,later⟩ := sorted
    have up : lower ≤ upper := first upper List.mem_cons_self
    have last : upper ≤ (next :: rest).getLast (List.cons_ne_nil next rest) :=
      (List.pairwise_cons.mp later).1 _ (List.getLast_mem _)
    rw [counts,List.sum_cons,ih upper next later]
    rw [List.getLast_cons (List.cons_ne_nil next rest)]
    exact countP_split values up last

-- The distances between neighbouring edges.
def widths [Sub α] : List α → List α
  | lower :: upper :: rest => (upper - lower) :: widths (upper :: rest)
  | _ => []

omit [LinearOrder α] in
theorem widths_length [Sub α] (edges : List α) : (widths edges).length = edges.length - 1 := by
  fun_induction widths edges with
  | case1 lower upper rest ih =>
    rw [List.length_cons,ih]
    rfl
  | case2 edges short =>
    match edges,short with
    | [],_ => rfl
    | [edge],_ => rfl
    | lower :: upper :: rest,short => exact absurd rfl (short lower upper rest)

theorem widths_positive [AddGroup α] [AddRightStrictMono α] (edges : List α) (sorted : edges.Pairwise (· < ·)) :
    ∀ width ∈ widths edges, 0 < width := by
  fun_induction widths edges with
  | case1 lower upper rest ih =>
    rw [List.pairwise_cons] at sorted
    intro width member
    rcases List.mem_cons.mp member with rfl | later
    · exact sub_pos.mpr (sorted.1 upper List.mem_cons_self)
    · exact ih sorted.2 width later
  | case2 => exact fun _ member => by cases member

-- Evenly spaced edges, the first and the last included.
def linspace [Field α] (first last : α) (bins : Nat) : List α :=
  (List.range (bins + 1)).map fun i : Nat => first + i * ((last - first) / bins)

variable [Field α] [IsStrictOrderedRing α]

theorem linspace_increasing (first last : α) (bins : Nat) (wide : first < last) :
    (linspace first last bins).Pairwise (· < ·) := by
  rw [linspace,List.pairwise_map]
  apply List.pairwise_iff_getElem.mpr
  intro i j short long less
  rw [List.length_range] at long
  have some : 0 < bins := by omega
  rw [List.getElem_range,List.getElem_range]
  have step : 0 < (last - first) / bins := div_pos (sub_pos.mpr wide) (Nat.cast_pos.mpr some)
  have counted : (i : α) < j := Nat.cast_lt.mpr less
  exact add_lt_add_right (mul_lt_mul_of_pos_right counted step) first

-- What evenly spaced edges count.
theorem linspace_counts (values : List α) (first last : α) (bins : Nat) (wide : first < last) (some : 0 < bins) :
    (counts values (linspace first last bins)).sum = values.countP fun v => decide (first ≤ v ∧ v ≤ last) := by
  obtain ⟨bins,rfl⟩ := Nat.exists_eq_succ_of_ne_zero (Nat.pos_iff_ne_zero.mp some)
  have increasing := linspace_increasing first last (bins + 1) wide
  have size : (linspace first last (bins + 1)).length = bins + 2 := by rw [linspace,List.length_map,List.length_range]
  obtain ⟨lower,upper,rest,shape⟩ : ∃ lower upper rest, linspace first last (bins + 1) = lower :: upper :: rest := by
    match linspace first last (bins + 1),size with
    | lower :: upper :: rest,_ => exact ⟨lower,upper,rest,rfl⟩
  have start : lower = first := by
    have head : (linspace first last (bins + 1)).head? = .some first := by
      rw [linspace,List.head?_map,List.range_succ_eq_map]
      simp
    rw [shape] at head
    exact Option.some.inj head
  have finish : (upper :: rest).getLast (List.cons_ne_nil upper rest) = last := by
    have top : (linspace first last (bins + 1)).getLast? = .some last := by
      rw [linspace,List.getLast?_map,List.range_succ,List.getLast?_append_of_ne_nil _ (List.cons_ne_nil _ _)]
      have whole : ((bins + 1 : Nat) : α) ≠ 0 := Nat.cast_ne_zero.mpr (Nat.succ_ne_zero bins)
      simp only [List.getLast?_singleton,Option.map_some,Option.some.injEq]
      rw [mul_div_cancel₀ _ whole,add_sub_cancel]
    rw [shape,List.getLast?_cons_cons,List.getLast?_eq_some_getLast (List.cons_ne_nil upper rest)] at top
    exact Option.some.inj top
  rw [shape] at increasing ⊢
  rw [counts_sum values lower upper rest (increasing.imp le_of_lt),start,finish]

end Histogram
