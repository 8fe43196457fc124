import Mathlib.Data.List.Induction
import Mathlib.Order.Defs.Unbundled

-- The first item with a largest value, of those that count and are above a floor. The
-- order of the values is strict; those above the floor can be compared.
namespace FirstMaximum
variable {α β : Type} (above : β → β → Prop) (counts : α → Bool) (value : α → β) (floor : β)

def better [DecidableRel above] (chosen : Option α) (a : α) : Option α :=
  if counts a = true ∧ above (value a) (chosen.elim floor value) then some a else chosen

def first [DecidableRel above] (items : List α) : Option α := items.foldl (better above counts value floor) none

structure Leads (items : List α) (a : α) : Prop where
  counted : counts a = true
  high : above (value a) floor
  split : ∃ front back, items = front ++ a :: back ∧
    (∀ other ∈ front, counts other = true → ¬above (value other) (value a) ∧ value other ≠ value a) ∧
    ∀ other ∈ back, counts other = true → ¬above (value other) (value a)

variable {above counts value floor}

theorem Leads.mem (leads : Leads above counts value floor items a) : a ∈ items := by
  obtain ⟨front,back,rfl,-,-⟩ := leads.split
  simp

theorem Leads.bound [Std.Irrefl above] (leads : Leads above counts value floor items a) (member : other ∈ items)
    (counted : counts other = true) : ¬above (value other) (value a) := by
  obtain ⟨front,back,rfl,before,after⟩ := leads.split
  rcases List.mem_append.mp member with early | late
  · exact (before other early counted).1
  · rcases List.mem_cons.mp late with rfl | late
    · exact irrefl _
    · exact after other late counted

theorem Leads.keep (leads : Leads above counts value floor items a) (lower : counts b = true → ¬above (value b) (value a)) :
    Leads above counts value floor (items ++ [b]) a := by
  obtain ⟨front,back,rfl,before,after⟩ := leads.split
  refine ⟨leads.counted,leads.high,front,back ++ [b],by simp,before,?_⟩
  intro other member counted
  rcases List.mem_append.mp member with old | new
  · exact after other old counted
  · cases List.mem_singleton.mp new
    exact lower counted

-- Of two items at places of a list, one comes first.
theorem places {front back front' back' : List α} (same : front ++ a :: back = front' ++ b :: back') :
    a = b ∨ (a ∈ front' ∧ b ∈ back) ∨ (b ∈ front ∧ a ∈ back') := by
  rcases List.append_eq_append_iff.mp same with ⟨more,rfl,rest⟩ | ⟨more,rfl,rest⟩
  · cases more with
    | nil => exact .inl (List.cons.inj rest).1
    | cons x more =>
      obtain ⟨rfl,rfl⟩ := List.cons.inj rest
      exact .inr (.inl ⟨by simp,by simp⟩)
  · cases more with
    | nil => exact .inl (List.cons.inj rest).1.symm
    | cons x more =>
      obtain ⟨rfl,rfl⟩ := List.cons.inj rest
      exact .inr (.inr ⟨by simp,by simp⟩)

theorem first_snoc [DecidableRel above] (items : List α) (a : α) :
    first above counts value floor (items ++ [a]) =
      better above counts value floor (first above counts value floor items) a := by
  rw [first,List.foldl_append]
  rfl

variable [IsStrictOrder β above]

-- An item that is better than the best so far is above all before it.
theorem leads_next (bounded : ∀ other ∈ items, counts other = true → ¬above (value other) best)
    (counted : counts a = true) (high : above (value a) floor) (better : above (value a) best) :
    Leads above counts value floor (items ++ [a]) a := by
  refine ⟨counted,high,items,[],rfl,?_,by simp⟩
  intro other member counts
  constructor
  · intro higher
    exact bounded other member counts (trans_of above higher better)
  · intro same
    exact bounded other member counts (same ▸ better)

theorem leads_unique (compared : ∀ x y, above x floor → above y floor → above x y ∨ x = y ∨ above y x)
    (one : Leads above counts value floor items a) (two : Leads above counts value floor items b) : a = b := by
  have same : value a = value b := by
    rcases compared _ _ one.high two.high with up | same | down
    · exact absurd up (two.bound one.mem one.counted)
    · exact same
    · exact absurd down (one.bound two.mem two.counted)
  obtain ⟨front,back,split,before,-⟩ := one.split
  obtain ⟨front',back',split',before',-⟩ := two.split
  rcases places (split.symm.trans split') with equal | ⟨early,-⟩ | ⟨early,-⟩
  · exact equal
  · exact absurd same (before' a early one.counted).2
  · exact absurd same.symm (before b early two.counted).2

variable [DecidableRel above]

variable (above counts value floor) in
theorem first_spec (items : List α) :
    (first above counts value floor items = none ∧ ∀ a ∈ items, counts a = true → ¬above (value a) floor) ∨
      ∃ a, first above counts value floor items = some a ∧ Leads above counts value floor items a := by
  induction items using List.reverseRecOn with
  | nil => exact .inl ⟨rfl,by simp⟩
  | append_singleton items b ih =>
    rw [first_snoc]
    rcases ih with ⟨none,low⟩ | ⟨a,some,leads⟩
    · rw [none,better]
      split
      next up => exact .inr ⟨b,rfl,leads_next low up.1 up.2 up.2⟩
      next down =>
        refine .inl ⟨rfl,?_⟩
        intro other member counted
        rcases List.mem_append.mp member with old | new
        · exact low other old counted
        · cases List.mem_singleton.mp new
          exact fun up => down ⟨counted,up⟩
    · rw [some,better]
      split
      next up => exact .inr ⟨b,rfl,leads_next (fun _ => leads.bound) up.1 (trans_of above up.2 leads.high) up.2⟩
      next down => exact .inr ⟨a,rfl,leads.keep fun counted up => down ⟨counted,up⟩⟩

theorem first_none : first above counts value floor items = none ↔ ∀ a ∈ items, counts a = true → ¬above (value a) floor := by
  rcases first_spec above counts value floor items with ⟨none,low⟩ | ⟨a,some,leads⟩
  · exact ⟨fun _ => low,fun _ => none⟩
  · constructor
    · intro none
      rw [some] at none
      cases none
    · intro low
      exact absurd leads.high (low a leads.mem leads.counted)

theorem first_some (compared : ∀ x y, above x floor → above y floor → above x y ∨ x = y ∨ above y x) :
    first above counts value floor items = some a ↔ Leads above counts value floor items a := by
  rcases first_spec above counts value floor items with ⟨none,low⟩ | ⟨b,some,leads⟩
  · constructor
    · intro some
      rw [none] at some
      cases some
    · intro leads
      exact absurd leads.high (low a leads.mem leads.counted)
  · rw [some]
    constructor
    · intro same
      cases same
      exact leads
    · intro other
      exact congrArg Option.some (leads_unique compared leads other)

-- The least and the largest value do not depend on the order of the list.
theorem min?_perm {γ : Type} [LE γ] [Min γ] [Std.IsLinearOrder γ] [Std.LawfulOrderMin γ] {values others : List γ}
    (same : values.Perm others) : values.min? = others.min? := by
  apply Option.ext
  intro m
  rw [List.min?_eq_some_iff,List.min?_eq_some_iff]
  simp only [same.mem_iff]

theorem max?_perm {γ : Type} [LE γ] [Max γ] [Std.IsLinearOrder γ] [Std.LawfulOrderMax γ] {values others : List γ}
    (same : values.Perm others) : values.max? = others.max? := by
  apply Option.ext
  intro m
  rw [List.max?_eq_some_iff,List.max?_eq_some_iff]
  simp only [same.mem_iff]

end FirstMaximum
