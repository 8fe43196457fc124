import Mathlib.Data.List.Nodup
import RiskPulse.IncrementalLoad

namespace RiskPulse
open Watermark Interleaved

namespace IncrementalState
variable {W : Type}

-- Every row committed before the last completed load began is copied once.
def ExactlyOnce (s : IncrementalState W) : Prop := ∀ i < s.completed, s.target.count i = 1

instance (s : IncrementalState W) : Decidable s.ExactlyOnce := inferInstanceAs (Decidable (∀ i < s.completed, _))

def copied (s : IncrementalState W) : List W := s.source.take s.target.length

def fresh (s : IncrementalState W) : List W := s.source.drop s.target.length

theorem copied_fresh (s : IncrementalState W) : s.copied ++ s.fresh = s.source := List.take_append_drop _ _

-- The target holds the first rows of the source in order, once each, and a row that is
-- not among them has a value above theirs.
structure Copied [LinearOrder W] (s : IncrementalState W) : Prop where
  rows : s.target = List.range s.target.length
  within : s.target.length ≤ s.source.length
  below : Below s.copied s.fresh
  completed : s.completed ≤ s.target.length

theorem Copied.exactlyOnce [LinearOrder W] {s : IncrementalState W} (held : Copied s) : s.ExactlyOnce := by
  intro i before
  have inside : i < s.target.length := Nat.lt_of_lt_of_le before held.completed
  rw [held.rows]
  exact List.count_eq_one_of_mem List.nodup_range (List.mem_range.mpr inside)

end IncrementalState

-- Between the INSERT and the MAX.
def LoadTask.inserted : LoadTask W → Bool
  | .selectMax _ _ _ => true
  | _ => false

namespace SnowflakeHandler
open IncrementalState
variable {W : Type} [LinearOrder W]

-- The condition on how a statement ends: the watermark is not refused once rows are
-- copied, and the MAX comes back when there is a row to be its value.
def Answered (s : IncrementalState W) : LoadTask W → Reply → Prop
  | .getWatermark handler _,reply => s.remembered handler = none → reply = .queryError → s.target = []
  | .selectMax _ _ watermark,reply => reply = .done ∨ ∀ v ∈ s.source, above watermark v = false
  | _,_ => True

-- The condition on a step: a row committed has a value above those copied, and comes
-- at no time between an INSERT and its MAX; a load begins when none is running, on a
-- handler whose watermark is the last one updated.
def Undisturbed (p : Loads W) : LoadAction W → Prop
  | .outside (.commit value) =>
    (∀ i ∈ p.shared.target, ((p.shared.source[i]?).all fun v => decide (v < value)) = true) ∧
      ∀ task ∈ waiting p, LoadTask.inserted task = false
  | .outside (.loadIncremental handler) => waiting p = [] ∧ p.shared.known handler = p.shared.latest
  | .run n reply =>
    match p.calls[n]? with
    | some (task :: _) => Answered p.shared task reply
    | _ => True

instance (s : IncrementalState W) : (task : LoadTask W) → (reply : Reply) → Decidable (Answered s task reply)
  | .getWatermark _ _,_ => inferInstanceAs (Decidable (_ → _ → _))
  | .selectMax _ _ _,_ => inferInstanceAs (Decidable (_ ∨ _))
  | .insertSelect _ _ _,_ | .mergeWatermark _ _ _,_ => isTrue trivial

instance (p : Loads W) : (action : LoadAction W) → Decidable (Undisturbed p action)
  | .outside (.commit _) => inferInstanceAs (Decidable (_ ∧ _))
  | .outside (.loadIncremental _) => inferInstanceAs (Decidable (_ ∧ _))
  | .run n reply =>
    match found : p.calls[n]? with
    | some (task :: _) => decidable_of_iff (Answered p.shared task reply) (by rw [Undisturbed,found])
    | some [] => isTrue (by rw [Undisturbed,found]; trivial)
    | none => isTrue (by rw [Undisturbed,found]; trivial)

-- What is known at each stage of the one load that is running.
def Stage (s : IncrementalState W) : List (LoadTask W) → Prop
  | [] => Greatest s.copied s.latest
  | [.getWatermark handler began] => began ≤ s.source.length ∧ Greatest s.copied s.latest ∧ s.known handler = s.latest
  | [.insertSelect _ began watermark] => began ≤ s.source.length ∧ Greatest s.copied s.latest ∧ watermark = s.latest
  | [.selectMax _ began watermark] => began ≤ s.target.length ∧ s.target.length = s.source.length ∧ watermark = s.latest ∧
      ∃ before after, s.source = before ++ after ∧ Greatest before s.latest ∧ Below before after
  | [.mergeWatermark _ began value] => began ≤ s.target.length ∧ Greatest s.copied (some value)
  | _ => False

theorem Stage.alone {s : IncrementalState W} {tasks : List (LoadTask W)} (stage : Stage s tasks) : tasks.length ≤ 1 := by
  match tasks with
  | [] => exact Nat.zero_le 1
  | [_] => exact Nat.le_refl 1
  | first :: _ :: _ => cases first <;> exact stage.elim

theorem start_copied : Copied (Loads.start : Loads W).shared where
  rows := rfl
  within := Nat.le_refl 0
  below _ member := (List.not_mem_nil member).elim
  completed := Nat.le_refl 0

section Commit
variable {s : IncrementalState W} {value : W}

theorem commit_cases (s : IncrementalState W) (value : W) :
    loadEvent (.commit value) s = ({s with source := s.source ++ [value]},[]) ∨ loadEvent (.commit value) s = (s,[]) := by
  by_cases ordered : ∀ v ∈ s.source, v ≤ value
  · exact .inl (if_pos ordered)
  · exact .inr (if_neg ordered)

theorem commit_copied (held : Copied s) (larger : ∀ v ∈ s.copied, v < value) :
    Copied {s with source := s.source ++ [value]} ∧ ({s with source := s.source ++ [value]} : IncrementalState W).copied = s.copied := by
  have same : ({s with source := s.source ++ [value]} : IncrementalState W).copied = s.copied :=
    List.take_append_of_le_length held.within
  have more : ({s with source := s.source ++ [value]} : IncrementalState W).fresh = s.fresh ++ [value] :=
    List.drop_append_of_le_length held.within
  refine ⟨⟨held.rows,?_,?_,held.completed⟩,same⟩
  · rw [List.length_append]
    exact Nat.le_trans held.within (Nat.le_add_right _ _)
  · rw [same,more]
    intro u old v new
    rcases List.mem_append.mp new with waiting | arrived
    · exact held.below u old v waiting
    · rw [List.mem_singleton.mp arrived]
      exact larger u old

theorem commit_stage {tasks : List (LoadTask W)} (held : Copied s) (larger : ∀ v ∈ s.copied, v < value)
    (outside : ∀ task ∈ tasks, LoadTask.inserted task = false) (stage : Stage s tasks) :
    Stage {s with source := s.source ++ [value]} tasks := by
  have same := (commit_copied held larger).2
  have grows : s.source.length ≤ (s.source ++ [value]).length := by
    rw [List.length_append]
    exact Nat.le_add_right _ _
  match tasks with
  | [] =>
    unfold Stage at stage ⊢
    rwa [same]
  | [.getWatermark handler began] =>
    obtain ⟨began,greatest,known⟩ := stage
    refine ⟨Nat.le_trans began grows,?_,known⟩
    rwa [same]
  | [.insertSelect handler began watermark] =>
    obtain ⟨began,greatest,known⟩ := stage
    refine ⟨Nat.le_trans began grows,?_,known⟩
    rwa [same]
  | [.selectMax handler began watermark] => cases outside _ List.mem_cons_self
  | [.mergeWatermark handler began v] =>
    obtain ⟨began,greatest⟩ := stage
    refine ⟨began,?_⟩
    rwa [same]

end Commit

section Statements
variable {s : IncrementalState W} {reply : Reply}

-- What the statement of a running load leaves.
def Leaves (left : IncrementalState W × Option (List (LoadTask W))) : Prop := Copied left.1 ∧ Stage left.1 (left.2.getD [])

omit [LinearOrder W] in
theorem copied_all (size : s.target.length = s.source.length) : s.copied = s.source := by
  rw [copied,size,List.take_length]

theorem getWatermark_leaves (held : Copied s) (stage : Stage s [.getWatermark handler began])
    (answered : Answered s (.getWatermark handler began) reply) : Leaves (getWatermark handler began reply s) := by
  obtain ⟨before,greatest,known⟩ := stage
  unfold IncrementalState.known at known
  unfold getWatermark
  split
  · rename_i value has
    rw [has] at known
    exact ⟨held,before,greatest,known⟩
  · rename_i value absent has
    rw [absent,has] at known
    exact ⟨⟨held.rows,held.within,held.below,held.completed⟩,before,greatest,known⟩
  · rename_i absent has
    rw [absent,has] at known
    exact ⟨held,before,greatest,known⟩
  · rename_i absent
    have empty : s.copied = [] := by
      rw [copied,answered absent rfl]
      rfl
    refine ⟨held,before,greatest,?_⟩
    rw [empty] at greatest
    cases latest : s.latest with
    | none => rfl
    | some w =>
      rw [latest] at greatest
      cases greatest.1
  · exact ⟨held,greatest⟩

theorem insertSelect_leaves (held : Copied s) (stage : Stage s [.insertSelect handler began watermark]) :
    Leaves (insertSelect handler began watermark reply s) := by
  obtain ⟨before,greatest,rfl⟩ := stage
  unfold insertSelect
  split
  · have size : s.copied.length = s.target.length := List.length_take_of_le held.within
    have rows := positions_above greatest held.below
    rw [copied_fresh,size,fresh,List.length_drop] at rows
    have whole : s.target ++ List.range' s.target.length (s.source.length - s.target.length) = List.range s.source.length := by
      have joined := List.range'_append_1 (s := 0) (m := s.target.length) (n := s.source.length - s.target.length)
      rw [Nat.zero_add,Nat.add_sub_cancel' held.within,← List.range_eq_range',← held.rows,← List.range_eq_range'] at joined
      exact joined
    simp only [rows,whole]
    refine ⟨⟨?_,?_,?_,?_⟩,?_,?_,rfl,s.copied,s.fresh,s.copied_fresh.symm,greatest,held.below⟩
    · simp only [List.length_range]
    · simp only [List.length_range,Nat.le_refl]
    · intro u _ v late
      simp [fresh] at late
    · simp only [List.length_range]
      exact Nat.le_trans held.completed held.within
    · simp only [List.length_range]
      exact before
    · simp only [List.length_range]
  · exact ⟨held,greatest⟩

theorem selectMax_leaves (held : Copied s) (stage : Stage s [.selectMax handler began watermark])
    (answered : Answered s (.selectMax handler began watermark) reply) : Leaves (selectMax handler began watermark reply s) := by
  obtain ⟨inside,size,rfl,before,after,split,greatest,below⟩ := stage
  have all := copied_all size
  have chosen : s.source.filter (above s.latest) = after := by
    rw [split]
    exact filter_above greatest below
  -- Without a row above the watermark the one before the load is still the greatest.
  have nothing : after = [] → Greatest s.copied s.latest := by
    rintro rfl
    rw [all,split,List.append_nil]
    exact greatest
  have most := greatest_max after
  unfold selectMax
  rw [chosen]
  cases found : after.max? with
  | none =>
    rw [found] at most
    by_cases done : reply = .done
    · rw [if_pos done]
      exact ⟨⟨held.rows,held.within,held.below,inside⟩,nothing most⟩
    · rw [if_neg done]
      exact ⟨held,nothing most⟩
  | some value =>
    rw [found] at most
    by_cases done : reply = .done
    · rw [if_pos done]
      refine ⟨held,inside,?_⟩
      rw [all,split]
      exact most.advance below
    · rw [if_neg done]
      have low := answered.resolve_left done value (by rw [split]; exact List.mem_append_right _ most.1)
      rw [above_fresh greatest below most.1] at low
      cases low

theorem updateWatermark_leaves (held : Copied s) (stage : Stage s [.mergeWatermark handler began value]) :
    Leaves (updateWatermark handler began value reply s) := by
  obtain ⟨inside,greatest⟩ := stage
  unfold updateWatermark
  split
  · exact ⟨⟨held.rows,held.within,held.below,inside⟩,greatest⟩
  · exact ⟨⟨held.rows,held.within,held.below,held.completed⟩,greatest⟩

theorem execLoad_leaves (held : Copied s) (task : LoadTask W) (stage : Stage s [task]) (answered : Answered s task reply) :
    Leaves (execLoad task reply s) := by
  cases task with
  | getWatermark => exact getWatermark_leaves held stage answered
  | insertSelect => exact insertSelect_leaves held stage
  | selectMax => exact selectMax_leaves held stage answered
  | mergeWatermark => exact updateWatermark_leaves held stage

end Statements

def Inv (p : Loads W) : Prop := Copied p.shared ∧ Stage p.shared (waiting p)

-- A row whose value is above those of the rows in the target is above all copied ones.
theorem larger_copied {s : IncrementalState W} (held : Copied s)
    (higher : ∀ i ∈ s.target, ((s.source[i]?).all fun v => decide (v < value)) = true) : ∀ v ∈ s.copied, v < value := by
  intro v member
  obtain ⟨i,bound,found⟩ := List.mem_take_iff_getElem.mp member
  have small : i < s.target.length := Nat.lt_of_lt_of_le bound (Nat.min_le_left _ _)
  have inSource : i < s.source.length := Nat.lt_of_lt_of_le small held.within
  have among : i ∈ s.target := by
    rw [held.rows]
    exact List.mem_range.mpr small
  have lower := higher i among
  rw [List.getElem?_eq_getElem inSource,found] at lower
  simpa using lower

theorem commit_inv (p : Loads W) (value : W) (inv : Inv p) (calm : Undisturbed p (.outside (.commit value))) :
    Inv ((incrementalLoads W).step p (.outside (.commit value))) := by
  obtain ⟨held,stage⟩ := inv
  obtain ⟨higher,outside⟩ := calm
  have larger := larger_copied held higher
  have left := waiting_outside (incrementalLoads W) p (.commit value)
  have shared : ((incrementalLoads W).step p (.outside (.commit value))).shared = (loadEvent (.commit value) p.shared).1 := rfl
  have quiet : ((incrementalLoads W).event (.commit value) p.shared).2 = (loadEvent (.commit value) p.shared).2 := rfl
  unfold Inv
  rw [left,shared,quiet]
  rcases commit_cases p.shared value with committed | refused
  · rw [committed,List.append_nil]
    exact ⟨(commit_copied held larger).1,commit_stage held larger outside stage⟩
  · rw [refused,List.append_nil]
    exact ⟨held,stage⟩

theorem loadIncremental_inv (p : Loads W) (handler : Nat) (inv : Inv p)
    (calm : Undisturbed p (.outside (.loadIncremental handler))) :
    Inv ((incrementalLoads W).step p (.outside (.loadIncremental handler))) := by
  obtain ⟨held,stage⟩ := inv
  obtain ⟨idle,known⟩ := calm
  have left := waiting_outside (incrementalLoads W) p (.loadIncremental handler)
  rw [idle] at stage left
  unfold Inv
  rw [left]
  exact ⟨held,Nat.le_refl _,stage,known⟩

theorem statement_inv (p : Loads W) (n : Nat) (reply : Reply) (inv : Inv p) (calm : Undisturbed p (.run n reply)) :
    Inv ((incrementalLoads W).step p (.run n reply)) := by
  obtain ⟨held,stage⟩ := inv
  rcases run_alone (incrementalLoads W) stage.alone n reply with idle | ⟨task,found,one,shared,left⟩
  · rw [idle]
    exact ⟨held,stage⟩
  · simp only [Undisturbed,found] at calm
    rw [one] at stage
    unfold Inv
    rw [shared,left]
    exact execLoad_leaves held task stage calm

theorem undisturbed_step (p : Loads W) (action : LoadAction W) (inv : Inv p) (calm : Undisturbed p action) :
    Inv ((incrementalLoads W).step p action) := by
  cases action with
  | outside event =>
    cases event with
    | commit value => exact commit_inv p value inv calm
    | loadIncremental handler => exact loadIncremental_inv p handler inv calm
  | run n reply => exact statement_inv p n reply inv calm

-- In every run whose steps all meet the condition, every state reached has every row
-- committed before the last completed load in the target once.
theorem loads_exactly_once (earlier later : List (LoadAction W))
    (calm : Runs.Along (incrementalLoads W).step Undisturbed Loads.start (earlier ++ later)) :
    (Runs.run (incrementalLoads W).step Loads.start earlier).shared.ExactlyOnce := by
  have start : Inv (Loads.start : Loads W) := ⟨start_copied,rfl⟩
  exact (Runs.along_keeps undisturbed_step start (Runs.along_earlier calm)).1.exactlyOnce

-- Two loads with a row committed before each; the MAX of the first is made before the
-- second row comes, and the INSERT of a third load fails.
def twoLoads : List (LoadAction Nat) :=
  [.outside (.commit 1),.outside (.loadIncremental 0),.run 1 .queryError,.run 1 .done,.run 1 .done,.run 1 .raised,
    .outside (.commit 2),.outside (.loadIncremental 0),.run 3 .done,.run 3 .done,.run 3 .done,.run 3 .done,
    .outside (.loadIncremental 1),.run 4 .done,.run 4 .raised]

theorem two_loads_copied_once : (Runs.run (incrementalLoads Nat).step Loads.start twoLoads).shared.ExactlyOnce :=
  loads_exactly_once twoLoads [] (by decide +kernel)

def after (actions : List (LoadAction Nat)) : IncrementalState Nat :=
  (Runs.run (incrementalLoads Nat).step Loads.start actions).shared

-- One row, and a load of it on handler 0.
def oneLoad : List (LoadAction Nat) :=
  [.outside (.commit 1),.outside (.loadIncremental 0),.run 1 .done,.run 1 .done,.run 1 .done,.run 1 .done]

-- A row committed between an INSERT and its MAX is never copied, nor is one with the
-- value of the watermark; an INSERT whose MAX fails is made again, and so is one whose
-- watermark another load has moved, by the same time or since the handler remembered
-- it, or could not be read.
theorem rows_skipped_and_copied_twice :
    ¬(after [.outside (.commit 1),.outside (.loadIncremental 0),.run 1 .done,.run 1 .done,.outside (.commit 2),.run 1 .done,
      .run 1 .done,.outside (.loadIncremental 0),.run 3 .done,.run 3 .done,.run 3 .done]).ExactlyOnce ∧
    ¬(after (oneLoad ++ [.outside (.commit 1),.outside (.loadIncremental 0),.run 3 .done,.run 3 .done,
      .run 3 .done])).ExactlyOnce ∧
    ¬(after [.outside (.commit 1),.outside (.loadIncremental 0),.run 1 .done,.run 1 .done,.run 1 .queryError,
      .outside (.loadIncremental 0),.run 2 .done,.run 2 .done,.run 2 .done,.run 2 .done]).ExactlyOnce ∧
    ¬(after [.outside (.commit 1),.outside (.loadIncremental 0),.outside (.loadIncremental 1),.run 1 .done,.run 2 .done,
      .run 1 .done,.run 2 .done,.run 1 .done,.run 1 .done]).ExactlyOnce ∧
    ¬(after (oneLoad ++ [.outside (.commit 2),.outside (.loadIncremental 1),.run 3 .done,.run 3 .done,.run 3 .done,.run 3 .done,
      .outside (.loadIncremental 0),.run 4 .done,.run 4 .done,.run 4 .done,.run 4 .done])).ExactlyOnce ∧
    ¬(after (oneLoad ++ [.outside (.loadIncremental 1),.run 2 .queryError,.run 2 .done,.run 2 .done,
      .run 2 .done])).ExactlyOnce := by
  decide +kernel

end SnowflakeHandler
end RiskPulse
