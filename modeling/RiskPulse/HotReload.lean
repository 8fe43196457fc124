import RiskPulse.ServingCalls

namespace RiskPulse
open Interleaved ModelRegistry

namespace ModelServer
variable {Nd : Type} (c : ModelServer Nd)

def Produces (s : ModelService Nd) (version : String) : Prop :=
  ∃ m, c.registry.getProductionModel c.modelName s.registry.registry = .ok (some m) ∧ m.version = version

-- A load that began after the last promotion or rollback has swapped its model in.
def Current (s : ModelService Nd) : Prop := changes s.registry.registry ∈ s.loads

def Converged (s : ModelService Nd) : Prop :=
  Current s → ∃ installed, s.server.primary = some installed ∧ c.Produces s installed.metadata.version ∧
    ∀ fallback, s.server.fallback = some fallback → fallback.metadata.version ≠ installed.metadata.version

-- No load that began before the last promotion or rollback swaps another version in after
-- one that began later; and once that has happened, none swaps in the version there is.
def FreshSwap (p : Pool (ModelService Nd) (ServingTask Nd)) : Action (ServingOutcome Nd) (ServingEvent Nd) → Prop
  | .outside _ => True
  | .run n _ => ∀ started new rest, p.calls[n]? = some (.swap started new :: rest) →
      (Current p.shared → c.Produces p.shared new.metadata.version) ∧
      (Current p.shared ∨ started = some (changes p.shared.registry.registry) →
        ∀ old, p.shared.server.primary = some old → old.metadata.version ≠ new.metadata.version)

-- A call that began when there were so many promotions and rollbacks holds the version in
-- production while there are no more of them.
def InForce (s : ModelService Nd) (started : Nat) (metadata : ModelMetadata) : Prop :=
  started ≤ changes s.registry.registry ∧ (started = changes s.registry.registry → c.Produces s metadata.version)

def Timely (s : ModelService Nd) : ServingTask Nd → Prop
  | .readActive started => started ≤ changes s.registry.registry
  | .checkProduction started _ => started ≤ changes s.registry.registry
  | .readProduction started => started ≤ changes s.registry.registry
  | .loadArtifact (some started) metadata => c.InForce s started metadata
  | .swap (some started) new => c.InForce s started new.metadata
  | _ => True

structure Dated (p : Pool (ModelService Nd) (ServingTask Nd)) : Prop where
  tasks : AllTasks (Timely c) p
  tails : AllTails (fun _ : ServingTask Nd => False) p
  loads : ∀ started ∈ p.shared.loads, started ≤ changes p.shared.registry.registry

theorem idle_dated : Dated c idle where
  tasks _ member := by cases member
  tails _ member := by cases member
  loads _ member := by cases member

theorem timely_same (registry : s.registry = t.registry) (task : ServingTask Nd) (timely : Timely c t task) : Timely c s task := by
  unfold Timely InForce Produces at *
  rw [registry]
  exact timely

-- What a registry operation does to the version in production.
theorem produces_step (action : RegistryAction) (s : ModelService Nd) :
    (changes (c.registry.step s.registry action).registry = changes s.registry.registry ∧ ∀ version,
      c.Produces {s with registry := c.registry.step s.registry action} version ↔ c.Produces s version) ∨
    changes (c.registry.step s.registry action).registry = changes s.registry.registry + 1 := by
  rw [step_registry]
  rcases attempt_production c.registry action.now s.registry.registry action.operation with ⟨same,production⟩ | grown
  · refine .inl ⟨same,fun version => ?_⟩
    unfold Produces
    rw [step_registry,getProductionModel_same c.registry c.modelName (production (some c.modelName))]
  · exact .inr grown

theorem inForce_step (action : RegistryAction) (inForce : c.InForce s started metadata) :
    c.InForce {s with registry := c.registry.step s.registry action} started metadata := by
  obtain ⟨before,produced⟩ := inForce
  rcases c.produces_step action s with ⟨same,production⟩ | grown
  · exact ⟨before.trans same.ge,fun now => (production _).mpr (produced (now.trans same))⟩
  · have later : changes s.registry.registry ≤ changes (c.registry.step s.registry action).registry := by omega
    exact ⟨before.trans later,fun now => absurd (now.trans grown) (by omega)⟩

theorem timely_step (action : RegistryAction) (task : ServingTask Nd) (timely : Timely c s task) :
    Timely c {s with registry := c.registry.step s.registry action} task := by
  have later : changes s.registry.registry ≤ changes (c.registry.step s.registry action).registry := by
    rcases c.produces_step action s with ⟨same,_⟩ | grown <;> omega
  cases task with
  | readActive started => exact timely.trans later
  | checkProduction started currentVersion => exact timely.trans later
  | readProduction started => exact timely.trans later
  | loadArtifact started metadata =>
    cases started with
    | none => trivial
    | some started => exact c.inForce_step action timely
  | swap started new =>
    cases started with
    | none => trivial
    | some started => exact c.inForce_step action timely
  | _ => trivial

-- What a task puts in its place is timely when it is.
theorem exec_timely (o : ServingOutcome Nd) (timely : Timely c s task) (next : (c.exec task o s).2 = some tasks) :
    (∀ other ∈ tasks, Timely c s other) ∧ tasks.length ≤ 1 := by
  rcases c.exec_next o next with rfl | ⟨other,rfl,follows⟩
  · exact ⟨(fun _ member => by cases member),Nat.zero_le _⟩
  · refine ⟨?_,le_rfl⟩
    intro task member
    rw [List.mem_singleton.mp member]
    cases follows with
    | check => exact timely
    | newer production => exact ⟨timely,fun _ => ⟨_,production,rfl⟩⟩
    | production production => exact ⟨timely,fun _ => ⟨_,production,rfl⟩⟩
    | @loaded started => cases started <;> exact timely
    | _ => trivial

theorem begin_timely (e : ServingEvent Nd) (s : ModelService Nd) :
    (∀ task ∈ (c.begin s e).2, Timely c s task) ∧ (c.begin s e).2.length ≤ 1 := by
  rcases c.begin_next e s with none | ⟨task,one,first⟩
  · rw [none]
    exact ⟨(fun _ member => by cases member),Nat.zero_le _⟩
  · rw [one]
    refine ⟨?_,le_rfl⟩
    intro other member
    rw [List.mem_singleton.mp member]
    rcases first with rfl | rfl | ⟨_,rfl⟩ | ⟨_,rfl⟩ | ⟨_,rfl⟩ | ⟨_,_,_,_,rfl⟩
    · exact Nat.le_refl _
    · exact Nat.le_refl _
    all_goals trivial

theorem begin_stays (e : ServingEvent Nd) (s : ModelService Nd) :
    (∀ task, Timely c s task → Timely c (c.begin s e).1 task) ∧ (c.begin s e).1.loads = s.loads ∧
      changes s.registry.registry ≤ changes (c.begin s e).1.registry.registry := by
  rcases c.begin_cases e s with ⟨action,rfl⟩ | same
  · refine ⟨c.timely_step action,rfl,?_⟩
    change _ ≤ changes (c.registry.step s.registry action).registry
    rcases c.produces_step action s with ⟨same,_⟩ | grown <;> omega
  · rw [same]
    exact ⟨fun _ timely => timely,rfl,le_rfl⟩

theorem exec_loads (o : ServingOutcome Nd) (timely : Timely c s task)
    (loads : ∀ started ∈ s.loads, started ≤ changes s.registry.registry) :
    ∀ started ∈ (c.exec task o s).1.loads, started ≤ changes (c.exec task o s).1.registry.registry := by
  rw [exec_registry]
  by_cases swapping : ∃ started new, task = .swap started new
  · obtain ⟨started,new,rfl⟩ := swapping
    intro other member
    rcases List.mem_append.mp member with own | earlier
    · cases started with
      | none => cases own
      | some started =>
        rw [List.mem_singleton.mp own]
        exact timely.1
    · exact loads other earlier
  · rw [(c.exec_frame task o s fun started new same => swapping ⟨started,new,same⟩).2.2]
    exact loads

theorem dated_step (p : Pool (ModelService Nd) (ServingTask Nd)) (action : Action (ServingOutcome Nd) (ServingEvent Nd))
    (dated : Dated c p) : Dated c (step c.service p action) := by
  obtain ⟨tasks,tails,loads⟩ := dated
  have short : ∀ call : List (ServingTask Nd), call.length ≤ 1 → ∀ task ∈ call.tail, False := by
    intro call short task member
    have positive := List.length_pos_of_mem member
    rw [List.length_tail] at positive
    omega
  rcases step_cases c.service p action with ⟨e,rfl,stepped⟩ | ⟨n,o,task,rest,before,after,rfl,found,split,stepped⟩ | ⟨same,_⟩
  · rw [stepped]
    obtain ⟨fresh,few⟩ := c.begin_timely e p.shared
    obtain ⟨stays,kept,later⟩ := c.begin_stays e p.shared
    refine ⟨allTasks_outside tasks stays fun task member => stays task (fresh task member),allTails_outside tails (short _ few),?_⟩
    intro started member
    change started ∈ (c.begin p.shared e).1.loads at member
    rw [kept] at member
    exact (loads started member).trans later
  · rw [stepped]
    have inside : (task :: rest) ∈ p.calls := List.mem_of_getElem? found
    have timely := tasks _ inside task List.mem_cons_self
    have registry := c.exec_registry task o p.shared
    refine ⟨?_,?_,c.exec_loads o timely loads⟩
    · apply allTasks_run tasks split
      · exact fun other own => c.timely_same registry other own
      · intro next made other member
        exact c.timely_same registry other ((c.exec_timely o timely made).1 other member)
    · apply allTails_run tails split
      intro next made
      exact short next (c.exec_timely o timely made).2
  · rw [same]
    exact ⟨tasks,tails,loads⟩

theorem reached_dated (actions : List (Action (ServingOutcome Nd) (ServingEvent Nd))) : Dated c (c.servingReached actions) :=
  Runs.run_keeps _ (c.dated_step) c.idle_dated actions

theorem converged_begin (e : ServingEvent Nd) (s : ModelService Nd)
    (loads : ∀ started ∈ s.loads, started ≤ changes s.registry.registry) (converged : c.Converged s) :
    c.Converged (c.begin s e).1 := by
  rcases c.begin_cases e s with ⟨action,rfl⟩ | same
  · intro current
    change changes (c.registry.step s.registry action).registry ∈ s.loads at current
    rcases c.produces_step action s with ⟨same,production⟩ | grown
    · rw [same] at current
      obtain ⟨installed,primary,produced,apart⟩ := converged current
      exact ⟨installed,primary,(production _).mpr produced,apart⟩
    · have before := loads _ current
      omega
  · rw [same]
    exact converged

-- A swap leaves what it should, exactly when it is fresh.
theorem converged_swap (o : ServingOutcome Nd) (timely : Timely c s (.swap started new)) :
    c.Converged (c.exec (.swap started new) o s).1 ↔
      (Current s → c.Produces s new.metadata.version) ∧
        (Current s ∨ started = some (changes s.registry.registry) →
          ∀ old, s.server.primary = some old → old.metadata.version ≠ new.metadata.version) := by
  have current : Current (c.exec (.swap started new) o s).1 ↔ Current s ∨ started = some (changes s.registry.registry) := by
    change changes s.registry.registry ∈ started.toList ++ s.loads ↔ _
    rw [List.mem_append,Option.mem_toList,or_comm]
    rfl
  constructor
  · intro converged
    refine ⟨?_,?_⟩
    · intro before
      obtain ⟨installed,primary,produced,_⟩ := converged (current.mpr (.inl before))
      cases primary
      exact produced
    · intro served old before
      obtain ⟨installed,primary,_,apart⟩ := converged (current.mpr served)
      cases primary
      exact apart old before
  · rintro ⟨produces,apart⟩ served
    refine ⟨new,rfl,?_,apart (current.mp served)⟩
    rcases current.mp served with before | own
    · exact produces before
    · rw [own] at timely
      exact timely.2 rfl

theorem converged_exec (o : ServingOutcome Nd) (other : ∀ started new, task ≠ .swap started new) (converged : c.Converged s) :
    c.Converged (c.exec task o s).1 := by
  obtain ⟨primary,fallback,loads⟩ := c.exec_frame task o s other
  have registry := c.exec_registry task o s
  unfold Converged Current Produces at converged ⊢
  rw [primary,fallback,loads,registry]
  exact converged

theorem converged_step (p : Pool (ModelService Nd) (ServingTask Nd)) (action : Action (ServingOutcome Nd) (ServingEvent Nd))
    (dated : Dated c p) (converged : c.Converged p.shared) (fresh : c.FreshSwap p action) :
    c.Converged (step c.service p action).shared := by
  rcases step_cases c.service p action with ⟨e,rfl,stepped⟩ | ⟨n,o,task,rest,before,after,rfl,found,split,stepped⟩ | ⟨same,_⟩
  · rw [stepped]
    exact c.converged_begin e p.shared dated.loads converged
  · rw [stepped]
    have timely := dated.tasks _ (List.mem_of_getElem? found) task List.mem_cons_self
    by_cases swapping : ∃ started new, task = .swap started new
    · obtain ⟨started,new,rfl⟩ := swapping
      exact (c.converged_swap o timely).mpr (fresh started new rest found)
    · exact c.converged_exec o (fun started new same => swapping ⟨started,new,same⟩) converged
  · rw [same]
    exact converged

theorem fresh_of_converged (p : Pool (ModelService Nd) (ServingTask Nd)) (action : Action (ServingOutcome Nd) (ServingEvent Nd))
    (dated : Dated c p) (converged : c.Converged (step c.service p action).shared) : c.FreshSwap p action := by
  cases action with
  | outside e => trivial
  | run n o =>
    intro started new rest found
    have timely := dated.tasks _ (List.mem_of_getElem? found) _ List.mem_cons_self
    rw [(step_own c.service p n o found).1] at converged
    exact (c.converged_swap o timely).mp converged

-- In every run a load whose artifact cannot be loaded ends without a change; the primary
-- and the fallback are as they should be after every step exactly when every swap is
-- fresh; and so they are once no call is in progress.
theorem hot_reload_converges (c : ModelServer Nd) (actions : List (Action (ServingOutcome Nd) (ServingEvent Nd))) :
    (∀ n o started metadata rest, (c.servingReached actions).calls[n]? = some (.loadArtifact started metadata :: rest) →
      safeLoadArtifact o.loader metadata.artifactPath = none →
      (step c.service (c.servingReached actions) (.run n o)).shared = (c.servingReached actions).shared ∧
        (step c.service (c.servingReached actions) (.run n o)).calls[n]? = some []) ∧
    (Runs.Along (step c.service) c.FreshSwap idle actions ↔
      Runs.Along (step c.service) (fun p action => c.Converged (step c.service p action).shared) idle actions) ∧
    (Runs.Along (step c.service) c.FreshSwap idle actions → waiting (c.servingReached actions) = [] →
      c.Converged (c.servingReached actions).shared) := by
  have keeps : ∀ p action, (Dated c p ∧ c.Converged p.shared) → c.FreshSwap p action →
      Dated c (step c.service p action) ∧ c.Converged (step c.service p action).shared :=
    fun p action inv fresh => ⟨c.dated_step p action inv.1,c.converged_step p action inv.1 inv.2 fresh⟩
  have start : Dated c idle ∧ c.Converged (idle : Pool (ModelService Nd) (ServingTask Nd)).shared :=
    ⟨c.idle_dated,(fun absurdity => by cases absurdity)⟩
  refine ⟨?_,⟨?_,?_⟩,?_⟩
  · intro n o started metadata rest found failed
    obtain ⟨shared,own⟩ := step_own c.service (c.servingReached actions) n o found
    have alone := (c.reached_dated actions).tails _ (List.mem_of_getElem? found)
    have ended : rest = [] := List.eq_nil_iff_forall_not_mem.mpr fun task member => alone task member
    have result : c.exec (.loadArtifact started metadata) o (c.servingReached actions).shared =
        ((c.servingReached actions).shared,some []) := by simp only [exec,failed]
    refine ⟨shared.trans (congrArg Prod.fst result),own.trans ?_⟩
    change some (remaining rest (c.exec (.loadArtifact started metadata) o (c.servingReached actions).shared).2) = some []
    rw [result,ended]
    rfl
  · exact Runs.along_gives keeps (fun p action inv fresh => (keeps p action inv fresh).2) start
  · have step : ∀ p action, Dated c p → c.Converged (step c.service p action).shared → Dated c (step c.service p action) :=
      fun p action dated _ => c.dated_step p action dated
    exact Runs.along_gives step (fun p action dated converged => c.fresh_of_converged p action dated converged) c.idle_dated
  · intro fresh _
    exact (Runs.along_keeps keeps start fresh).2

-- One reload reads version 1.0.0 and is slow to load it. Meanwhile 2.0.0 is promoted and
-- another reload installs it.
def slowReload : List (Action (ServingOutcome String) (ServingEvent String)) :=
  [operation (registration "1.0.0"),operation (registration "2.0.0"),operation (.promoteModel "fraud" "1.0.0" .production "system"),
    .outside .hotReload,goOn 3,goOn 3,operation (.promoteModel "fraud" "2.0.0" .production "system"),
    .outside .hotReload,goOn 5,goOn 5,goOn 5,goOn 5,goOn 3,goOn 3]

-- The slow reload ends by installing 1.0.0 over 2.0.0, and keeps the version in production
-- as the fallback.
theorem slow_reload_outdated : (pathServer.servingReached slowReload).calls.all List.isEmpty = true ∧
    Current (pathServer.servingReached slowReload).shared ∧ ¬pathServer.Converged (pathServer.servingReached slowReload).shared := by
  have current : Current (pathServer.servingReached slowReload).shared := by
    unfold Current
    decide +kernel
  refine ⟨by decide +kernel,current,?_⟩
  intro converged
  obtain ⟨installed,primary,⟨m,production,same⟩,_⟩ := converged current
  have version : (pathServer.servingReached slowReload).shared.server.activeVersion = "1.0.0" := by decide +kernel
  have serving : (pathServer.registry.getProductionModel pathServer.modelName
      (pathServer.servingReached slowReload).shared.registry.registry).map (Option.map ModelMetadata.version) =
      .ok (some "2.0.0") := by decide +kernel
  rw [production] at serving
  rw [ModelServerState.activeVersion,primary] at version
  have newer : m.version = "2.0.0" := Option.some.inj (Except.ok.inj serving)
  have older : installed.metadata.version = "1.0.0" := version
  rw [newer,older] at same
  exact absurd same (by decide)

end ModelServer
end RiskPulse
