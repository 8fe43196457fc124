import RiskPulse.Library.Fallible

-- Two runs of a computation over lists that agree on what is not hidden.
namespace TwoRuns
variable {α β ε : Type} {hidden : α → Bool} {seen : List α}

def visible (hidden : α → Bool) (items : List α) : List α := items.filter fun a => !hidden a

-- The hidden elements have no influence on the result.
def Stable (hidden : α → Bool) (eval : List α → Except ε β) (seen : List α) : Prop :=
  ∀ first second, visible hidden first = seen → visible hidden second = seen → Fallible.Same (eval first) (eval second)

theorem visible_visible (hidden : α → Bool) (items : List α) : visible hidden (visible hidden items) = visible hidden items := by
  unfold visible
  rw [List.filter_filter]
  simp only [Bool.and_self]

-- A hidden element can be there any number of times.
theorem visible_padded (own : visible hidden seen = seen) (hides : hidden a = true) (n : Nat) :
    visible hidden (seen ++ List.replicate n a) = seen := by
  unfold visible at own ⊢
  rw [List.filter_append,own,List.filter_replicate]
  simp [hides]

theorem stable_of {eval : List α → Except ε β} (same : ∀ items, visible hidden items = seen → Fallible.Same (eval items) (eval seen)) :
    Stable hidden eval seen := by
  intro first second one two b
  exact (same first one b).trans (same second two b).symm

-- A computation that always fails has no result to influence.
theorem stable_raises {eval : List α → Except ε β} (raises : ∀ items, visible hidden items = seen → ∀ b, eval items ≠ .ok b) :
    Stable hidden eval seen := by
  intro first second one two b
  exact iff_of_false (raises first one b) (raises second two b)

theorem Stable.padded {eval : List α → Except ε β} (stable : Stable hidden eval seen) (own : visible hidden seen = seen)
    (hides : hidden a = true) (n : Nat) : Fallible.Same (eval (seen ++ List.replicate n a)) (eval seen) :=
  stable _ _ (visible_padded own hides n) own

theorem stable_congr {eval other : List α → Except ε β} (same : ∀ items, eval items = other items) :
    Stable hidden eval seen ↔ Stable hidden other seen := by
  rw [funext same]

theorem count_visible (q : α → Bool) {items : List α} (uncounted : ∀ a ∈ items, hidden a = true → q a = false) :
    items.countP q = (visible hidden items).countP q := by
  unfold visible
  rw [List.countP_filter]
  apply List.countP_congr
  intro a member
  cases hides : hidden a with
  | true => simp [uncounted a member hides]
  | false => simp

theorem count_le (hidden q : α → Bool) (items : List α) : (visible hidden items).countP q ≤ items.countP q :=
  (List.filter_sublist).countP_le

theorem count_padded {q : α → Bool} (counted : q a = true) (seen : List α) (n : Nat) :
    (seen ++ List.replicate n a).countP q = seen.countP q + n := by
  rw [List.countP_append,List.countP_replicate,if_pos counted]

theorem filterMap_visible {f : α → Option β} {p : β → Bool} {items : List α}
    (dropped : ∀ a ∈ items, hidden a = true → ∀ b, f a = some b → p b = false) :
    (items.filterMap f).filter p = ((visible hidden items).filterMap f).filter p := by
  unfold visible
  induction items with
  | nil => rfl
  | cons a rest ih =>
    obtain ⟨here,others⟩ := List.forall_mem_cons.mp dropped
    cases hides : hidden a with
    | true =>
      rw [List.filter_cons_of_neg (by simp [hides]),← ih others]
      cases given : f a with
      | none => rw [List.filterMap_cons_none given]
      | some b => rw [List.filterMap_cons_some given,List.filter_cons_of_neg (by simp [here hides b given])]
    | false =>
      rw [List.filter_cons_of_pos (by simp [hides])]
      cases given : f a with
      | none => rw [List.filterMap_cons_none given,List.filterMap_cons_none given,ih others]
      | some b => rw [List.filterMap_cons_some given,List.filterMap_cons_some given,List.filter_cons,List.filter_cons,ih others]

-- A count that is compared with a bound is stable where it has reached the bound, or where
-- nothing hidden is counted.
theorem threshold_stable (own : visible hidden seen = seen) (q : α → Bool) (bound : Int) :
    Stable hidden (fun items => (.ok (decide (bound ≤ items.countP q)) : Except ε Bool)) seen ↔
      bound ≤ seen.countP q ∨ ∀ a, hidden a = true → q a = false := by
  constructor
  · intro stable
    by_contra neither
    obtain ⟨below,some⟩ := not_or.mp neither
    obtain ⟨a,counted⟩ := not_forall.mp some
    obtain ⟨hides,counts⟩ := Classical.not_imp.mp counted
    have many := stable.padded own hides (bound - seen.countP q).toNat
    rw [count_padded ((Bool.not_eq_false _).mp counts)] at many
    have reached := (many true).mp (congrArg _ (decide_eq_true (by omega)))
    exact below (of_decide_eq_true (Except.ok.inj reached))
  · intro given
    apply stable_of
    intro items same b
    rcases given with reached | uncounted
    · have more := count_le hidden q items
      rw [same] at more
      rw [decide_eq_true reached,decide_eq_true (by omega : bound ≤ items.countP q)]
    · rw [count_visible q fun a _ => uncounted a,same]

end TwoRuns
