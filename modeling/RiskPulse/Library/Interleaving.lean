import Mathlib.Algebra.BigOperators.Group.List.Basic
import Mathlib.Tactic.Abel
import RiskPulse.Library.Runs

-- Concurrent calls over one shared state. A call is the list of atomic tasks it
-- still has to run; running the first one may put others in its place, or end
-- the call by an exception. What comes back from outside is the outcome. Every
-- order of steps is a list of actions, and so a run.
structure Interleaved (σ τ ο ε : Type) where
  exec : τ → ο → σ → σ × Option (List τ)
  event : ε → σ → σ × List τ

namespace Interleaved

structure Pool (σ τ : Type) where
  shared : σ
  calls : List (List τ)

-- What happens next: something outside the running calls, which may start a new
-- one, or the next task of the n-th call.
inductive Action (ο ε : Type) where
  | outside (event : ε)
  | run (call : Nat) (outcome : ο)

variable {σ τ ο ε : Type} (system : Interleaved σ τ ο ε)

def remaining (rest : List τ) : Option (List τ) → List τ
  | some next => next ++ rest
  | none => []

def step (p : Pool σ τ) : Action ο ε → Pool σ τ
  | .outside e => ⟨(system.event e p.shared).1,p.calls ++ [(system.event e p.shared).2]⟩
  | .run n o =>
    match p.calls[n]? with
    | some (task :: rest) =>
      ⟨(system.exec task o p.shared).1,p.calls.set n (remaining rest (system.exec task o p.shared).2)⟩
    | _ => p

theorem call_split (calls : List (List τ)) (n : Nat) (found : calls[n]? = some call) :
    ∃ before after, calls = before ++ call :: after ∧ ∀ other, calls.set n other = before ++ other :: after := by
  induction calls generalizing n with
  | nil => simp at found
  | cons head rest ih =>
    cases n with
    | zero =>
      simp only [List.getElem?_cons_zero,Option.some.injEq] at found
      subst found
      exact ⟨[],rest,rfl,fun _ => rfl⟩
    | succ n =>
      obtain ⟨before,after,split,replaced⟩ := ih n (by simpa using found)
      refine ⟨head :: before,after,by rw [split]; rfl,fun other => ?_⟩
      rw [List.set_cons_succ,replaced]
      rfl

-- Everything a step can do. The action of a call that has ended does nothing.
theorem step_cases (p : Pool σ τ) (action : Action ο ε) :
    (∃ e, action = .outside e ∧
      system.step p action = ⟨(system.event e p.shared).1,p.calls ++ [(system.event e p.shared).2]⟩) ∨
    (∃ n o task rest before after, action = .run n o ∧ p.calls[n]? = some (task :: rest) ∧
      p.calls = before ++ (task :: rest) :: after ∧
      system.step p action = ⟨(system.exec task o p.shared).1,
        before ++ remaining rest (system.exec task o p.shared).2 :: after⟩) ∨
    (system.step p action = p ∧ ∃ n o, action = .run n o ∧ ∀ task rest, p.calls[n]? ≠ some (task :: rest)) := by
  cases action with
  | outside e => exact .inl ⟨e,rfl,rfl⟩
  | run n o =>
    rcases found : p.calls[n]? with _ | call
    · exact .inr (.inr ⟨by simp only [step,found],n,o,rfl,by simp [found]⟩)
    · cases call with
      | nil => exact .inr (.inr ⟨by simp only [step,found],n,o,rfl,by simp [found]⟩)
      | cons task rest =>
        obtain ⟨before,after,split,replaced⟩ := call_split p.calls n found
        exact .inr (.inl ⟨n,o,task,rest,before,after,rfl,found,split,by simp only [step,found,replaced]⟩)

theorem step_other (p : Pool σ τ) (action : Action ο ε) (n : Nat) (other : ∀ o, action ≠ .run n o)
    (found : p.calls[n]? = some call) : (system.step p action).calls[n]? = some call := by
  cases action with
  | outside e =>
    have bound := (List.getElem?_eq_some_iff.mp found).1
    simp only [step]
    rw [List.getElem?_append_left bound,found]
  | run m o =>
    have different : m ≠ n := by
      rintro rfl
      exact other o rfl
    simp only [step]
    split
    · simp only
      rw [List.getElem?_set_ne different,found]
    · exact found

theorem step_own (p : Pool σ τ) (n : Nat) (o : ο) (found : p.calls[n]? = some (task :: rest)) :
    (system.step p (.run n o)).shared = (system.exec task o p.shared).1 ∧
      (system.step p (.run n o)).calls[n]? = some (remaining rest (system.exec task o p.shared).2) := by
  have bound := (List.getElem?_eq_some_iff.mp found).1
  have stepped : system.step p (.run n o) = ⟨(system.exec task o p.shared).1,
      p.calls.set n (remaining rest (system.exec task o p.shared).2)⟩ := by simp only [step,found]
  rw [stepped]
  exact ⟨rfl,List.getElem?_set_self bound⟩

section Tasks

-- A fact about every task still to run, which may depend on the shared state.
def AllTasks (fact : σ → τ → Prop) (p : Pool σ τ) : Prop := ∀ call ∈ p.calls, ∀ task ∈ call, fact p.shared task

theorem allTasks_outside {fact : σ → τ → Prop} (holds : AllTasks fact p)
    (stays : ∀ task, fact p.shared task → fact s task) (fresh : ∀ task ∈ call, fact s task) :
    AllTasks fact ⟨s,p.calls ++ [call]⟩ := by
  intro other member task inside
  rcases List.mem_append.mp member with old | new
  · exact stays task (holds other old task inside)
  · rw [List.mem_singleton.mp new] at inside
    exact fresh task inside

theorem allTasks_run {fact : σ → τ → Prop} (holds : AllTasks fact p)
    (split : p.calls = before ++ (task :: rest) :: after) (stays : ∀ task, fact p.shared task → fact s task)
    (fresh : ∀ tasks, next = some tasks → ∀ task ∈ tasks, fact s task) :
    AllTasks fact ⟨s,before ++ remaining rest next :: after⟩ := by
  intro call member other inside
  have old : ∀ call ∈ p.calls, ∀ task ∈ call, fact s task :=
    fun call member task inside => stays task (holds call member task inside)
  rw [split] at old
  rcases List.mem_append.mp member with first | later
  · exact old call (List.mem_append_left _ first) other inside
  · rcases List.mem_cons.mp later with rfl | last
    · cases next with
      | none => cases inside
      | some tasks =>
        rcases List.mem_append.mp inside with made | kept
        · exact fresh tasks rfl other made
        · exact old (task :: rest) (by simp) other (List.mem_cons_of_mem _ kept)
    · exact old call (List.mem_append_right _ (List.mem_cons_of_mem _ last)) other inside

-- A fact about the tasks of every call but its first.
def AllTails (fact : τ → Prop) (p : Pool σ τ) : Prop := ∀ call ∈ p.calls, ∀ task ∈ call.tail, fact task

theorem allTails_outside {fact : τ → Prop} (holds : AllTails fact p) (fresh : ∀ task ∈ call.tail, fact task) :
    AllTails fact ⟨s,p.calls ++ [call]⟩ := by
  intro other member task inside
  rcases List.mem_append.mp member with old | new
  · exact holds other old task inside
  · rw [List.mem_singleton.mp new] at inside
    exact fresh task inside

theorem allTails_run {fact : τ → Prop} (holds : AllTails fact p)
    (split : p.calls = before ++ (task :: rest) :: after)
    (fresh : ∀ tasks, next = some tasks → ∀ task ∈ tasks.tail, fact task) :
    AllTails fact ⟨s,before ++ remaining rest next :: after⟩ := by
  have old := holds
  unfold AllTails at old
  rw [split] at old
  intro call member other inside
  rcases List.mem_append.mp member with first | later
  · exact old call (List.mem_append_left _ first) other inside
  · rcases List.mem_cons.mp later with rfl | last
    · have behind : ∀ other ∈ rest, fact other := fun other kept => old (task :: rest) (by simp) other kept
      cases next with
      | none => cases inside
      | some tasks =>
        cases tasks with
        | nil => exact behind other (List.mem_of_mem_tail inside)
        | cons made others =>
          rcases List.mem_append.mp inside with new | kept
          · exact fresh (made :: others) rfl other new
          · exact behind other kept
    · exact old call (List.mem_append_right _ (List.mem_cons_of_mem _ last)) other inside

end Tasks

section Weight
variable {M : Type} [AddCommMonoid M]

def weight (w : τ → M) (p : Pool σ τ) : M := (p.calls.map fun call => (call.map w).sum).sum

theorem weight_outside (w : τ → M) (p : Pool σ τ) (s : σ) (call : List τ) :
    weight w ⟨s,p.calls ++ [call]⟩ = weight w p + (call.map w).sum := by
  simp [weight]

theorem weight_run (w : τ → M) (p : Pool σ τ) (s : σ) (split : p.calls = before ++ (task :: rest) :: after)
    (tasks : List τ) :
    weight w ⟨s,before ++ remaining rest (some tasks) :: after⟩ + w task = weight w p + (tasks.map w).sum := by
  simp only [weight,split,remaining,List.map_append,List.map_cons,List.sum_append,List.sum_cons]
  abel

theorem weight_end (w : τ → M) (p : Pool σ τ) (s : σ) (split : p.calls = before ++ (task :: rest) :: after) :
    weight w ⟨s,before ++ remaining rest none :: after⟩ + (w task + (rest.map w).sum) = weight w p := by
  simp only [weight,split,remaining,List.map_append,List.map_cons,List.map_nil,List.sum_append,List.sum_cons,
    List.sum_nil]
  abel

-- What is counted in the state and by the tasks together stays the same when a task
-- leaves in both what it took.
theorem weight_moved [IsCancelAdd M] {w : τ → M} {p : Pool σ τ} {total kept left : M} (balance : total = kept + weight w p)
    (moved : kept + w task = left + (tasks.map w).sum) (s : σ) (split : p.calls = before ++ (task :: rest) :: after) :
    total = left + weight w ⟨s,before ++ remaining rest (some tasks) :: after⟩ := by
  have weighed := weight_run w p s split tasks
  refine add_right_cancel (b:=w task) ?_
  calc total + w task = (kept + w task) + weight w p := by rw [balance]; abel
    _ = left + (weight w p + (tasks.map w).sum) := by rw [moved]; abel
    _ = left + weight w ⟨s,before ++ remaining rest (some tasks) :: after⟩ + w task := by rw [← weighed]; abel

end Weight

section Alone

-- The tasks still to run, of all calls together.
def waiting (p : Pool σ τ) : List τ := p.calls.flatten

theorem waiting_outside (p : Pool σ τ) (e : ε) :
    waiting (system.step p (.outside e)) = waiting p ++ (system.event e p.shared).2 := by
  simp [waiting,step]

theorem waiting_run (p : Pool σ τ) (s : σ) (split : p.calls = before ++ (task :: rest) :: after) :
    waiting p = before.flatten ++ task :: (rest ++ after.flatten) ∧ ∀ tasks,
      waiting ⟨s,before ++ remaining rest (some tasks) :: after⟩ = before.flatten ++ (tasks ++ (rest ++ after.flatten)) := by
  constructor
  · simp [waiting,split]
  · intro tasks
    simp [waiting,remaining]

-- While one task at most is left, the step of a call is that task or nothing.
theorem run_alone (few : (waiting p).length ≤ 1) (n : Nat) (o : ο) :
    system.step p (.run n o) = p ∨ ∃ task, p.calls[n]? = some [task] ∧ waiting p = [task] ∧
      (system.step p (.run n o)).shared = (system.exec task o p.shared).1 ∧
      waiting (system.step p (.run n o)) = (system.exec task o p.shared).2.getD [] := by
  rcases step_cases system p (.run n o) with ⟨_,absurdity,_⟩ | ⟨m,outcome,task,rest,before,after,same,found,split,stepped⟩ | ⟨idle,_⟩
  · cases absurdity
  · cases same
    have all : waiting p = before.flatten ++ task :: (rest ++ after.flatten) := by simp [waiting,split]
    have sizes := few
    rw [all,List.length_append,List.length_cons,List.length_append] at sizes
    have first : before.flatten = [] := List.eq_nil_of_length_eq_zero (by omega)
    have own : rest = [] := List.eq_nil_of_length_eq_zero (by omega)
    have last : after.flatten = [] := List.eq_nil_of_length_eq_zero (by omega)
    subst own
    refine .inr ⟨task,found,?_,?_,?_⟩
    · rw [all,first,last]
      rfl
    · rw [stepped]
    · rw [stepped,waiting,List.flatten_append,List.flatten_cons,first,last,List.append_nil,List.nil_append]
      cases (system.exec task o p.shared).2 with
      | none => rfl
      | some next => exact List.append_nil next
  · exact .inl idle

end Alone

section Uninterrupted
variable (outcome : τ → ο)

-- A call that runs with nothing in between, to its end or to an exception.
inductive Uninterrupted : σ → List τ → σ → Bool → Prop where
  | ended : Uninterrupted s [] s true
  | raised (stops : (system.exec task (outcome task) s).2 = none) :
      Uninterrupted s (task :: rest) (system.exec task (outcome task) s).1 false
  | continued (goes : (system.exec task (outcome task) s).2 = some tasks)
      (later : Uninterrupted (system.exec task (outcome task) s).1 (tasks ++ rest) t finished) :
      Uninterrupted s (task :: rest) t finished

-- It is one of the runs of the system.
theorem uninterrupted_run {p : Pool σ τ} (n : Nat) (found : p.calls[n]? = some call) (alone : Uninterrupted system outcome p.shared call t finished) :
    ∃ actions, Runs.run (step system) p actions = ⟨t,p.calls.set n []⟩ := by
  generalize start : p.shared = s at alone
  induction alone generalizing p with
  | ended =>
    refine ⟨[],?_⟩
    obtain ⟨before,after,split,replaced⟩ := call_split p.calls n found
    rw [replaced,← split,← start]
    rfl
  | raised stops =>
    rename_i task _ _
    subst start
    refine ⟨[.run n (outcome task)],?_⟩
    change step system p (.run n (outcome task)) = _
    simp only [step,found,stops,remaining]
  | continued goes later ih =>
    rename_i task _ tasks rest _ _
    subst start
    have bound := (List.getElem?_eq_some_iff.mp found).1
    have stepped : step system p (.run n (outcome task)) =
        ⟨(system.exec task (outcome task) p.shared).1,p.calls.set n (tasks ++ rest)⟩ := by
      simp only [step,found,goes,remaining]
    obtain ⟨actions,reached⟩ := ih (p := ⟨_,p.calls.set n (tasks ++ rest)⟩) (List.getElem?_set_self bound) rfl
    refine ⟨.run n (outcome task) :: actions,?_⟩
    change Runs.run (step system) (step system p (.run n (outcome task))) actions = _
    rw [stepped,reached]
    simp only [List.set_set]

end Uninterrupted
end Interleaved
