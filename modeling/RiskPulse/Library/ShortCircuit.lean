import Mathlib.Data.List.Forall2
import RiskPulse.Library.Fallible

-- Conditions joined by and- and or-nodes whose leaves may fail to have a value. A node
-- takes its children in order, up to the first whose value decides its own: true at an
-- or-node, false at an and-node.
namespace ShortCircuit
open Fallible

inductive Tree (ν α : Type) where
  | leaf (a : α)
  | node (stop : Bool) (label : ν) (children : List (Tree ν α))

variable {ν α β ε : Type}

def first (stop : Bool) (value : β → Except ε Bool) : List β → Except ε Bool
  | [] => .ok !stop
  | b :: rest => do
    let found ← value b
    if found = stop then pure stop else first stop value rest

section First
variable {stop : Bool} {value : β → Except ε Bool}

theorem first_decided (b : β) (rest : List β) (found : value b = .ok stop) : first stop value (b :: rest) = .ok stop := by
  rw [first,found]
  exact if_pos rfl

theorem first_failed (b : β) (rest : List β) (found : value b = .error e) : first stop value (b :: rest) = .error e := by
  rw [first,found]
  rfl

theorem first_onward (b : β) (rest : List β) (found : value b = .ok !stop) : first stop value (b :: rest) = first stop value rest := by
  rw [first,found]
  cases stop with
  | true => rfl
  | false => rfl

theorem first_all (items : List β) (undecided : ∀ b ∈ items, value b = .ok !stop) : first stop value items = .ok !stop := by
  induction items with
  | nil => rfl
  | cons b rest ih =>
    rw [first_onward b rest (undecided b List.mem_cons_self)]
    exact ih fun other member => undecided other (List.mem_cons_of_mem _ member)

-- What the value of a node says of its children.
theorem first_cases (items : List β) (came : first stop value items = .ok found) :
    (found = stop ∧ ∃ b ∈ items, value b = .ok stop) ∨ (found = !stop) ∧ ∀ b ∈ items, value b = .ok !stop := by
  induction items with
  | nil => cases came; exact .inr ⟨rfl,fun _ member => by cases member⟩
  | cons b rest ih =>
    rcases here : value b with e | head
    · rw [first_failed b rest here] at came
      cases came
    · by_cases decides : head = stop
      · subst decides
        rw [first_decided b rest here] at came
        cases came
        exact .inl ⟨rfl,b,List.mem_cons_self,here⟩
      · rw [Bool.eq_not.mpr decides] at here
        rw [first_onward b rest here] at came
        rcases ih came with ⟨same,c,member,decided⟩ | ⟨same,all⟩
        · exact .inl ⟨same,c,List.mem_cons_of_mem _ member,decided⟩
        · refine .inr ⟨same,?_⟩
          intro c member
          rcases List.mem_cons.mp member with rfl | member
          · exact here
          · exact all c member

end First

section Trees
variable (leaf : α → Except ε Bool) (tooDeep : ε)

-- A tree can be evaluated down to a depth only.
def evaluate : Nat → Tree ν α → Except ε Bool
  | 0,_ => .error tooDeep
  | _ + 1,.leaf a => leaf a
  | depth + 1,.node stop _ children => first stop (evaluate depth) children

-- Every leaf has a value, and none is too deep.
def Evaluable : Nat → Tree ν α → Prop
  | 0,_ => False
  | _ + 1,.leaf a => ∃ b, leaf a = .ok b
  | depth + 1,.node _ _ children => ∀ child ∈ children, Evaluable depth child

def certain : Except ε Bool → Bool
  | .ok b => b
  | .error _ => false

-- The tree is true although what has no value counts as false.
def holds : Nat → Tree ν α → Bool
  | 0,_ => false
  | _ + 1,.leaf a => certain (leaf a)
  | depth + 1,.node stop _ children => if stop then children.any (holds depth) else children.all (holds depth)

-- The children of each node in any order.
inductive Reordered : Tree ν α → Tree ν α → Prop
  | leaf (a : α) : Reordered (.leaf a) (.leaf a)
  | node (stop : Bool) (label : ν) (each : List.Forall₂ Reordered children kept) (order : kept.Perm others) :
      Reordered (.node stop label children) (.node stop label others)

theorem Reordered.refl (t : Tree ν α) : Reordered t t :=
  match t with
  | .leaf a => .leaf a
  | .node stop label children => .node stop label (List.forall₂_same.mpr fun child _ => Reordered.refl child) (.refl _)

theorem forall_related {R : β → β → Prop} (each : List.Forall₂ R items others) (good : β → Prop) (same : ∀ b c, R b c → (good b ↔ good c)) :
    (∀ b ∈ items, good b) ↔ ∀ c ∈ others, good c := by
  induction each with
  | nil => simp
  | cons here _ ih => simp [same _ _ here,ih]

theorem exists_related {R : β → β → Prop} (each : List.Forall₂ R items others) (good : β → Prop) (same : ∀ b c, R b c → (good b ↔ good c)) :
    (∃ b ∈ items, good b) ↔ ∃ c ∈ others, good c := by
  induction each with
  | nil => simp
  | cons here _ ih => simp [same _ _ here,ih]

variable {leaf tooDeep}

theorem evaluable_reordered (depth : Nat) (t u : Tree ν α) (same : Reordered t u) :
    Evaluable leaf depth t ↔ Evaluable leaf depth u := by
  induction depth generalizing t u with
  | zero => rfl
  | succ depth ih =>
    cases same with
    | leaf a => rfl
    | node stop label each order =>
      rw [Evaluable,Evaluable,forall_related each _ ih]
      exact forall_congr' fun child => imp_congr_left order.mem_iff

theorem holds_node : holds leaf (depth + 1) (.node stop label children : Tree ν α) = true ↔
    if stop then ∃ child ∈ children, holds leaf depth child = true else ∀ child ∈ children, holds leaf depth child = true := by
  cases stop with
  | true => simp [holds]
  | false => simp [holds]

theorem holds_reordered (depth : Nat) (t u : Tree ν α) (same : Reordered t u) :
    holds leaf depth t = true ↔ holds leaf depth u = true := by
  induction depth generalizing t u with
  | zero => rfl
  | succ depth ih =>
    cases same with
    | leaf a => rfl
    | node stop label each order =>
      rw [holds_node,holds_node]
      cases stop with
      | true =>
        simp only [if_true]
        rw [exists_related each _ ih]
        exact exists_congr fun child => and_congr_left fun _ => order.mem_iff
      | false =>
        simp only [Bool.false_eq_true,if_false]
        rw [forall_related each _ ih]
        exact forall_congr' fun child => imp_congr_left order.mem_iff

-- A tree that is evaluated to true holds, and one that can be evaluated has its value.
theorem evaluate_holds (depth : Nat) (t : Tree ν α) (came : evaluate leaf tooDeep depth t = .ok true) : holds leaf depth t = true := by
  induction depth generalizing t with
  | zero => cases came
  | succ depth ih =>
    cases t with
    | leaf a => exact congrArg certain came
    | node stop label children =>
      rw [holds_node]
      rcases first_cases children came with ⟨same,child,member,decided⟩ | ⟨same,all⟩
      · subst same
        exact ⟨child,member,ih child decided⟩
      · cases stop with
        | true => cases same
        | false =>
          intro child member
          exact ih child (all child member)

theorem first_evaluable (items : List β) (stop : Bool) {value : β → Except ε Bool} (truth : β → Bool)
    (each : ∀ b ∈ items, value b = .ok (truth b)) : first stop value items = .ok (if stop then items.any truth else items.all truth) := by
  induction items with
  | nil => cases stop with
    | true => rfl
    | false => rfl
  | cons b rest ih =>
    have here := each b List.mem_cons_self
    have later := ih fun other member => each other (List.mem_cons_of_mem _ member)
    rw [List.any_cons,List.all_cons]
    by_cases decides : truth b = stop
    · rw [decides] at here ⊢
      rw [first_decided b rest here]
      cases stop with
      | true => rfl
      | false => rfl
    · rw [Bool.eq_not.mpr decides] at here ⊢
      rw [first_onward b rest here,later]
      cases stop with
      | true => rfl
      | false => rfl

theorem evaluate_evaluable (depth : Nat) (t : Tree ν α) (can : Evaluable leaf depth t) :
    evaluate leaf tooDeep depth t = .ok (holds leaf depth t) := by
  induction depth generalizing t with
  | zero => cases can
  | succ depth ih =>
    cases t with
    | leaf a =>
      obtain ⟨b,found⟩ := can
      rw [evaluate,holds,found]
      rfl
    | node stop label children => exact first_evaluable children stop (holds leaf depth) fun child member => ih child (can child member)

-- The child that can be brought to a value goes to the front.
theorem reordered_front (stop : Bool) (label : ν) (member : child ∈ children) (same : Reordered child other) :
    ∃ rest, Reordered (.node stop label children : Tree ν α) (.node stop label (other :: rest)) := by
  obtain ⟨before,after,rfl⟩ := List.append_of_mem member
  have keep : ∀ items : List (Tree ν α), List.Forall₂ Reordered items items := fun items => List.forall₂_same.mpr fun child _ => .refl child
  refine ⟨before ++ after,.node stop label ?_ List.perm_middle⟩
  exact List.rel_append (keep before) (.cons same (keep after))

theorem reordered_each (children : List (Tree ν α)) (good : Tree ν α → Prop) (each : ∀ child ∈ children, ∃ other, Reordered child other ∧ good other) :
    ∃ others, List.Forall₂ Reordered children others ∧ ∀ other ∈ others, good other := by
  induction children with
  | nil => exact ⟨[],.nil,fun _ member => by cases member⟩
  | cons child rest ih =>
    obtain ⟨other,same,here⟩ := each child List.mem_cons_self
    obtain ⟨others,later,all⟩ := ih fun child member => each child (List.mem_cons_of_mem _ member)
    exact ⟨other :: others,.cons same later,List.forall_mem_cons.mpr ⟨here,all⟩⟩

variable (tooDeep)

-- Some order brings out what a tree holds, and some order brings out a leaf that fails.
theorem holds_evaluates (depth : Nat) (t : Tree ν α) (truly : holds leaf depth t = true) :
    ∃ u, Reordered t u ∧ evaluate leaf tooDeep depth u = .ok true := by
  induction depth generalizing t with
  | zero => cases truly
  | succ depth ih =>
    cases t with
    | leaf a =>
      refine ⟨.leaf a,.leaf a,?_⟩
      rcases found : leaf a with e | b
      · rw [holds,found] at truly
        cases truly
      · rw [holds,found] at truly
        rw [evaluate,found]
        exact congrArg Except.ok truly
    | node stop label children =>
      rw [holds_node] at truly
      cases stop with
      | true =>
        obtain ⟨child,member,inside⟩ := truly
        obtain ⟨other,same,came⟩ := ih child inside
        obtain ⟨rest,moved⟩ := reordered_front true label member same
        exact ⟨_,moved,first_decided other rest came⟩
      | false =>
        obtain ⟨others,same,all⟩ := reordered_each children _ fun child member => ih child (truly child member)
        exact ⟨.node false label others,.node false label same (.refl _),first_all others all⟩

theorem fails_evaluates (depth : Nat) (t : Tree ν α) (cannot : ¬Evaluable leaf depth t) :
    ∃ u e, Reordered t u ∧ evaluate leaf tooDeep depth u = .error e := by
  induction depth generalizing t with
  | zero => exact ⟨t,tooDeep,.refl t,rfl⟩
  | succ depth ih =>
    cases t with
    | leaf a =>
      rcases found : leaf a with e | b
      · exact ⟨.leaf a,e,.leaf a,found⟩
      · exact absurd ⟨b,found⟩ cannot
    | node stop label children =>
      simp only [Evaluable,not_forall] at cannot
      obtain ⟨child,member,inside⟩ := cannot
      obtain ⟨other,e,same,failed⟩ := ih child inside
      obtain ⟨rest,moved⟩ := reordered_front stop label member same
      exact ⟨_,e,moved,first_failed other rest failed⟩

-- The order makes no difference exactly where no leaf fails, or the tree does not hold.
theorem order_free (depth : Nat) (t : Tree ν α) :
    (∀ u, Reordered t u → (evaluate leaf tooDeep depth u = .ok true ↔ evaluate leaf tooDeep depth t = .ok true)) ↔
      (holds leaf depth t = true → Evaluable leaf depth t) := by
  constructor
  · intro free truly
    by_contra cannot
    obtain ⟨u,same,came⟩ := holds_evaluates tooDeep depth t truly
    obtain ⟨v,e,other,failed⟩ := fails_evaluates tooDeep depth t cannot
    rw [(free v other).mpr ((free u same).mp came)] at failed
    cases failed
  · intro sound u same
    by_cases truly : holds leaf depth t = true
    · have can := sound truly
      rw [evaluate_evaluable depth t can,evaluate_evaluable depth u ((evaluable_reordered depth t u same).mp can),truly,
        (holds_reordered depth t u same).mp truly]
    · constructor
      · intro came
        exact absurd ((holds_reordered depth t u same).mpr (evaluate_holds depth u came)) truly
      · intro came
        exact absurd (evaluate_holds depth t came) truly

end Trees
end ShortCircuit
