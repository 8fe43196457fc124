import Mathlib.Logic.Basic

-- Runs of a step function: a run is a list of actions, and every list is one.
namespace Runs
variable {σ α : Type} (step : σ → α → σ)

def run (s : σ) (actions : List α) : σ := actions.foldl step s

theorem run_append (s : σ) (first later : List α) : run step s (first ++ later) = run step (run step s first) later :=
  List.foldl_append

theorem run_keeps {inv : σ → Prop} (keeps : ∀ s action, inv s → inv (step s action)) (start : inv s)
    (actions : List α) : inv (run step s actions) := by
  induction actions generalizing s with
  | nil => exact start
  | cons action rest ih => exact ih (keeps s action start)

-- Each step of a run, in the state it is taken in, is as the fact says.
def Along (fact : σ → α → Prop) : σ → List α → Prop
  | _,[] => True
  | s,action :: rest => fact s action ∧ Along fact (step s action) rest

instance decidableAlong {fact : σ → α → Prop} [∀ s action, Decidable (fact s action)] :
    (s : σ) → (actions : List α) → Decidable (Along step fact s actions)
  | _,[] => isTrue trivial
  | s,action :: rest => @instDecidableAnd _ _ _ (decidableAlong (step s action) rest)

variable {step} {fact other : σ → α → Prop} {inv : σ → Prop}

theorem along_always (always : ∀ s action, fact s action) (s : σ) (actions : List α) : Along step fact s actions := by
  induction actions generalizing s with
  | nil => trivial
  | cons action rest ih => exact ⟨always s action,ih (step s action)⟩

theorem along_imp (implies : ∀ s action, fact s action → other s action) (along : Along step fact s actions) :
    Along step other s actions := by
  induction actions generalizing s with
  | nil => trivial
  | cons action rest ih => exact ⟨implies s action along.1,ih along.2⟩

theorem along_and (first : Along step fact s actions) (second : Along step other s actions) :
    Along step (fun s action => fact s action ∧ other s action) s actions := by
  induction actions generalizing s with
  | nil => trivial
  | cons action rest ih => exact ⟨⟨first.1,second.1⟩,ih first.2 second.2⟩

theorem along_earlier (along : Along step fact s (earlier ++ later)) : Along step fact s earlier := by
  induction earlier generalizing s with
  | nil => trivial
  | cons first rest ih => exact ⟨along.1,ih along.2⟩

theorem along_later (along : Along step fact s (earlier ++ later)) : Along step fact (run step s earlier) later := by
  induction earlier generalizing s with
  | nil => exact along
  | cons first rest ih => exact ih along.2

-- An invariant that the steps with the fact keep holds at the end of a run of them.
theorem along_keeps (keeps : ∀ s action, inv s → fact s action → inv (step s action)) (start : inv s)
    (along : Along step fact s actions) : inv (run step s actions) := by
  induction actions generalizing s with
  | nil => exact start
  | cons action rest ih => exact ih (keeps s action start along.1) along.2

theorem along_at (along : Along step fact s (earlier ++ action :: later)) : fact (run step s earlier) action := by
  induction earlier generalizing s with
  | nil => exact along.1
  | cons first rest ih => exact ih along.2

-- Where a run whose steps do not all have the fact first goes wrong.
theorem along_fails (broken : ¬Along step fact s actions) :
    ∃ earlier action later, actions = earlier ++ action :: later ∧ Along step fact s earlier ∧ ¬fact (run step s earlier) action := by
  induction actions generalizing s with
  | nil => exact absurd trivial broken
  | cons action rest ih =>
    by_cases here : fact s action
    · obtain ⟨earlier,other,later,rfl,along,wrong⟩ := ih fun along => broken ⟨here,along⟩
      exact ⟨action :: earlier,other,later,rfl,⟨here,along⟩,wrong⟩
    · exact ⟨[],action,rest,rfl,trivial,here⟩

-- Under an invariant that the steps with one fact keep, such steps have another.
theorem along_gives (keeps : ∀ s action, inv s → fact s action → inv (step s action))
    (gives : ∀ s action, inv s → fact s action → other s action) (start : inv s) (along : Along step fact s actions) :
    Along step other s actions := by
  induction actions generalizing s with
  | nil => trivial
  | cons action rest ih =>
    obtain ⟨first,later⟩ := along
    exact ⟨gives s action start first,ih (keeps s action start first) later⟩

theorem along_iff (keeps : ∀ s action, inv s → inv (step s action))
    (same : ∀ s action, inv s → (fact s action ↔ other s action)) (start : inv s) :
    Along step fact s actions ↔ Along step other s actions :=
  ⟨along_gives (fun s action holds _ => keeps s action holds) (fun s action holds => (same s action holds).mp) start,
    along_gives (fun s action holds _ => keeps s action holds) (fun s action holds => (same s action holds).mpr) start⟩

section Permitted
variable {permitted : α → Prop}

-- The same for runs of which the actions are of a kind.
theorem run_permitted (inv : σ → Prop) (keeps : ∀ s action, inv s → permitted action → inv (step s action)) (start : inv s)
    (all : ∀ action ∈ actions, permitted action) : inv (run step s actions) := by
  induction actions generalizing s with
  | nil => exact start
  | cons action rest ih =>
    exact ih (keeps s action start (all action List.mem_cons_self)) fun other member => all other (List.mem_cons_of_mem _ member)

theorem along_permitted (inv : σ → Prop) (keeps : ∀ s action, inv s → permitted action → inv (step s action))
    (same : ∀ s action, inv s → permitted action → (fact s action ↔ other s action)) (start : inv s)
    (all : ∀ action ∈ actions, permitted action) : Along step fact s actions ↔ Along step other s actions := by
  induction actions generalizing s with
  | nil => exact Iff.rfl
  | cons action rest ih =>
    have here := all action List.mem_cons_self
    exact and_congr (same s action start here)
      (ih (keeps s action start here) fun other member => all other (List.mem_cons_of_mem _ member))

end Permitted
end Runs

-- Two runs of a system whose steps put out values: one with steps that are to have no
-- influence, and one with those left out.
namespace Purging
variable {σ α β : Type} (step : σ → α → σ × List β)

def next (s : σ) (action : α) : σ := (step s action).1

def outputs : σ → List α → List β
  | _,[] => []
  | s,action :: rest => (step s action).2 ++ outputs (step s action).1 rest

section Purged
variable (hidden : σ → α → Bool)

-- Whether an action is left out is told from the state of the full run.
def purged : σ → List α → List α
  | _,[] => []
  | s,action :: rest =>
    if hidden s action then purged (step s action).1 rest else action :: purged (step s action).1 rest

variable {step} {hidden} {sim : σ → σ → Prop} {fact : σ → α → Prop}

-- The full run is followed step by step: what is left out keeps the relation and puts
-- nothing out, and what stays is taken on both sides.
theorem purged_sim
    (locally : ∀ s t action, sim s t → fact s action → hidden s action = true → sim (step s action).1 t ∧ (step s action).2 = [])
    (both : ∀ s t action, sim s t → fact s action → hidden s action = false →
      sim (step s action).1 (step t action).1 ∧ (step s action).2 = (step t action).2)
    (start : sim s t) (along : Runs.Along (next step) fact s actions) :
    outputs step s actions = outputs step t (purged step hidden s actions) ∧
      sim (Runs.run (next step) s actions) (Runs.run (next step) t (purged step hidden s actions)) := by
  induction actions generalizing s t with
  | nil => exact ⟨rfl,start⟩
  | cons action rest ih =>
    obtain ⟨here,later⟩ := along
    rw [outputs,purged]
    cases out : hidden s action with
    | true =>
      obtain ⟨kept,silent⟩ := locally s t action start here out
      rw [if_pos rfl,silent]
      exact ih kept later
    | false =>
      obtain ⟨kept,same⟩ := both s t action start here out
      obtain ⟨outs,last⟩ := ih kept later
      rw [if_neg Bool.false_ne_true,same]
      exact ⟨congrArg ((step t action).2 ++ ·) outs,last⟩

end Purged
end Purging
