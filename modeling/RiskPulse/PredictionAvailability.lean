import RiskPulse.ServingCalls

namespace RiskPulse
open Interleaved ModelRegistry

namespace ModelServer
variable {Nd : Type} (c : ModelServer Nd)

def PrimaryAnswers (s : ModelService Nd) (features predictions : Nd) : Prop :=
  ∃ installed, s.server.primary = some installed ∧ c.tryModel installed.model features = .ok predictions

def FallbackAnswers (s : ModelService Nd) (features predictions : Nd) : Prop :=
  ∃ installed, s.server.fallback = some installed ∧ c.scores installed.model features = .ok predictions

-- A prediction is not raised for while it is routed, and otherwise only when no model is
-- loaded, or each of them fails; and after a failing variant it is the primary's where the
-- primary answers.
def Justified (o : ServingOutcome Nd) (s : ModelService Nd) (task : ServingTask Nd) : Prop :=
  match task with
  | .examine _ _ _ _ => (c.exec task o s).2 ≠ none
  | .resolve _ _ _ _ _ => (c.exec task o s).2 ≠ none
  | .provide _ _ _ _ _ _ => (c.exec task o s).2 ≠ none
  | .attempt _ _ => (c.exec task o s).2 ≠ none
  | .choose _ => (c.exec task o s).2 = none → s.server.primary = none ∧ s.server.fallback = none
  | .fallBack features candidate =>
    ((c.exec task o s).2 = none → (∃ e, c.tryModel candidate.model features = .error e) ∧
      (¬∃ predictions, c.PrimaryAnswers s features predictions) ∧ ¬∃ predictions, c.FallbackAnswers s features predictions) ∧
    ∀ testName version model predictions, candidate = .variant testName version model → c.PrimaryAnswers s features predictions →
      ∃ answerer, (c.exec task o s).1.answers = (answerer,predictions) :: s.answers
  | _ => True

-- The tests are as many as when the iteration over them began; the test that was found
-- active still is; a variant that failed leaves a primary that fails too, or a fallback
-- that answers alike; and a primary that failed is still the primary, or there is a
-- fallback that answers, or no primary that does.
def Undisturbed (s : ModelService Nd) : ServingTask Nd → Prop
  | .examine _ _ size _ => s.registry.registry.abTests.entries.length = size
  | .resolve _ _ _ testName _ => ∃ config, s.registry.registry.abTests.get? testName = some config ∧ config.isActive = true
  | .fallBack features (.variant _ _ _) =>
    ∀ predictions, c.PrimaryAnswers s features predictions → c.FallbackAnswers s features predictions
  | .fallBack features (.primary installed) =>
    s.server.primary = some installed ∨ (∃ predictions, c.FallbackAnswers s features predictions) ∨
      ¬∃ predictions, c.PrimaryAnswers s features predictions
  | _ => True

def JustifiedStep (p : Pool (ModelService Nd) (ServingTask Nd)) : Action (ServingOutcome Nd) (ServingEvent Nd) → Prop
  | .outside _ => True
  | .run n o => ∀ task rest, p.calls[n]? = some (task :: rest) → c.Justified o p.shared task

def UndisturbedStep (p : Pool (ModelService Nd) (ServingTask Nd)) : Action (ServingOutcome Nd) (ServingEvent Nd) → Prop
  | .outside _ => True
  | .run n _ => ∀ task rest, p.calls[n]? = some (task :: rest) → c.Undisturbed p.shared task

-- A call falls back only after its model failed, and that is not the fallback itself.
def Failed : ServingTask Nd → Prop
  | .attempt _ candidate => ∀ installed, candidate ≠ .fallback installed
  | .fallBack features candidate =>
    (∀ installed, candidate ≠ .fallback installed) ∧ ∃ e, c.tryModel candidate.model features = .error e
  | _ => True

structure Sane (p : Pool (ModelService Nd) (ServingTask Nd)) : Prop where
  numeric : NumericSplits p.shared.registry.registry
  covered : p.shared.server.primary = none → p.shared.server.fallback = none
  failed : AllTasks (fun _ task => Failed c task) p

theorem idle_sane : Sane c idle where
  numeric _ _ found := by cases found
  covered _ := rfl
  failed _ member := by cases member

-- What comes of a fallback: an answer of the fallback model, or an exception without one.
theorem fallBack_cases (features : Nd) (candidate : Candidate Nd) (o : ServingOutcome Nd) (s : ModelService Nd) :
    (∃ answerer predictions, c.FallbackAnswers s features predictions ∧
      c.exec (.fallBack features candidate) o s = ({s with answers := (answerer,predictions) :: s.answers},some [])) ∨
    ((¬∃ predictions, c.FallbackAnswers s features predictions) ∧ c.exec (.fallBack features candidate) o s = (s,none)) := by
  cases held : s.server.fallback with
  | none =>
    refine .inr ⟨?_,by simp only [exec,predictWithFallback,held]⟩
    rintro ⟨_,installed,same,_⟩
    rw [held] at same
    cases same
  | some installed =>
    cases scored : c.scores installed.model features with
    | error exc =>
      refine .inr ⟨?_,by simp only [exec,predictWithFallback,held,scored]⟩
      rintro ⟨predictions,other,same,answered⟩
      rw [held] at same
      cases same
      rw [scored] at answered
      cases answered
    | ok predictions =>
      exact .inl ⟨.fallback installed,predictions,⟨installed,held,scored⟩,by simp only [exec,predictWithFallback,held,scored]⟩

theorem fallback_unique (one : c.FallbackAnswers s features predictions) (two : c.FallbackAnswers s features others) :
    predictions = others := by
  obtain ⟨installed,held,scored⟩ := one
  obtain ⟨other,same,again⟩ := two
  rw [held] at same
  cases same
  rw [scored] at again
  exact Except.ok.inj again

-- A test that is active is resolved, and one that is not raises.
theorem resolve_iff (numeric : NumericSplits s.registry.registry) (features : Nd) (userId : String) (size : Nat) (testName : String)
    (tests : List String) (o : ServingOutcome Nd) :
    (c.exec (.resolve features userId size testName tests) o s).2 ≠ none ↔
      ∃ config, s.registry.registry.abTests.get? testName = some config ∧ config.isActive = true := by
  simp only [exec,resolveAbAssignment,getAbTest]
  cases found : s.registry.registry.abTests.get? testName with
  | none => simp
  | some config =>
    obtain ⟨split,number⟩ := numeric testName config found
    cases active : config.isActive with
    | false => simp [active]
    | true => simp [active,number]

theorem justified_variant (o : ServingOutcome Nd) (failed : ∃ e, c.tryModel model features = .error e) :
    c.Justified o s (.fallBack features (.variant testName version model)) ↔
      ∀ predictions, c.PrimaryAnswers s features predictions → c.FallbackAnswers s features predictions := by
  unfold Justified
  simp only
  rcases c.fallBack_cases features (.variant testName version model) o s with ⟨answerer,made,answers,result⟩ | ⟨silent,result⟩
  · rw [result]
    constructor
    · rintro ⟨_,follows⟩ predictions primary
      obtain ⟨other,same⟩ := follows testName version model predictions rfl primary
      cases (List.cons.inj same).1
      exact answers
    · intro alike
      refine ⟨(fun absurdity => by cases absurdity),?_⟩
      intro _ _ _ predictions _ primary
      rw [c.fallback_unique (alike predictions primary) answers]
      exact ⟨answerer,rfl⟩
  · rw [result]
    constructor
    · rintro ⟨exhausted,_⟩ predictions primary
      exact absurd ⟨predictions,primary⟩ (exhausted rfl).2.1
    · intro alike
      have none : ¬∃ predictions, c.PrimaryAnswers s features predictions :=
        fun ⟨predictions,primary⟩ => silent ⟨predictions,alike predictions primary⟩
      exact ⟨fun _ => ⟨failed,none,silent⟩,fun _ _ _ predictions _ primary => absurd ⟨predictions,primary⟩ none⟩

theorem justified_primary (o : ServingOutcome Nd) (failed : ∃ e, c.tryModel installed.model features = .error e) :
    c.Justified o s (.fallBack features (.primary installed)) ↔
      s.server.primary = some installed ∨ (∃ predictions, c.FallbackAnswers s features predictions) ∨
        ¬∃ predictions, c.PrimaryAnswers s features predictions := by
  have itself : s.server.primary = some installed → ¬∃ predictions, c.PrimaryAnswers s features predictions := by
    rintro held ⟨predictions,other,same,answered⟩
    obtain ⟨e,raised⟩ := failed
    rw [held] at same
    cases same
    rw [raised] at answered
    cases answered
  unfold Justified
  simp only
  rcases c.fallBack_cases features (.primary installed) o s with ⟨answerer,made,answers,result⟩ | ⟨silent,result⟩
  · rw [result]
    exact ⟨fun _ => .inr (.inl ⟨made,answers⟩),fun _ =>
      ⟨(fun absurdity => by cases absurdity),(fun _ _ _ _ absurdity => by cases absurdity)⟩⟩
  · rw [result]
    constructor
    · rintro ⟨exhausted,_⟩
      exact .inr (.inr (exhausted rfl).2.1)
    · intro undisturbed
      refine ⟨fun _ => ⟨failed,?_,silent⟩,(fun _ _ _ _ absurdity => by cases absurdity)⟩
      rcases undisturbed with held | answers | none
      · exact itself held
      · exact absurd answers silent
      · exact none

theorem justified_iff (o : ServingOutcome Nd) (numeric : NumericSplits s.registry.registry)
    (covered : s.server.primary = none → s.server.fallback = none) (failed : Failed c task) :
    c.Justified o s task ↔ c.Undisturbed s task := by
  cases task with
  | examine features userId size tests =>
    change (c.exec (.examine features userId size tests) o s).2 ≠ none ↔ s.registry.registry.abTests.entries.length = size
    simp only [exec]
    by_cases same : s.registry.registry.abTests.entries.length = size
    · simp only [same,not_true,ne_eq,if_false,iff_true]
      cases tests with
      | nil => exact Option.some_ne_none _
      | cons testName rest =>
        simp only
        split <;> exact Option.some_ne_none _
    · simp [same]
  | resolve features userId size testName tests => exact c.resolve_iff numeric features userId size testName tests o
  | provide features userId size testName version tests =>
    refine ⟨fun _ => trivial,fun _ => ?_⟩
    change (c.exec (.provide features userId size testName version tests) o s).2 ≠ none
    simp only [exec]
    split <;> exact Option.some_ne_none _
  | choose features =>
    refine ⟨fun _ => trivial,fun _ => ?_⟩
    change (c.exec (.choose features) o s).2 = none → _
    simp only [exec]
    cases held : s.server.primary with
    | none => exact fun _ => ⟨rfl,covered held⟩
    | some installed => exact fun absurdity => by cases absurdity
  | attempt features candidate =>
    refine ⟨fun _ => trivial,fun _ => ?_⟩
    change (c.exec (.attempt features candidate) o s).2 ≠ none
    simp only [exec]
    split <;> exact Option.some_ne_none _
  | fallBack features candidate =>
    cases candidate with
    | variant testName version model => exact c.justified_variant o failed.2
    | primary installed => exact c.justified_primary o failed.2
    | fallback installed => exact absurd rfl (failed.1 installed)
  | _ => exact ⟨fun _ => trivial,fun _ => trivial⟩

theorem exec_failed (o : ServingOutcome Nd) (failed : Failed c task) (next : (c.exec task o s).2 = some tasks) :
    ∀ other ∈ tasks, Failed c other := by
  rcases c.exec_next o next with rfl | ⟨other,rfl,follows⟩
  · intro _ member
    cases member
  · intro task member
    rw [List.mem_singleton.mp member]
    cases follows with
    | provided => exact fun _ absurdity => by cases absurdity
    | primary => exact fun _ absurdity => by cases absurdity
    | failed raised => exact ⟨failed,_,raised⟩
    | _ => trivial

theorem begin_failed (e : ServingEvent Nd) (s : ModelService Nd) : ∀ task ∈ (c.begin s e).2, Failed c task := by
  rcases c.begin_next e s with none | ⟨task,one,first⟩
  · rw [none]
    intro _ member
    cases member
  · rw [one]
    intro other member
    rw [List.mem_singleton.mp member]
    rcases first with rfl | rfl | ⟨_,rfl⟩ | ⟨_,rfl⟩ | ⟨_,rfl⟩ | ⟨_,_,_,_,rfl⟩ <;> trivial

theorem exec_covered (task : ServingTask Nd) (o : ServingOutcome Nd)
    (covered : s.server.primary = none → s.server.fallback = none) :
    (c.exec task o s).1.server.primary = none → (c.exec task o s).1.server.fallback = none := by
  by_cases swapping : ∃ started new, task = .swap started new
  · obtain ⟨started,new,rfl⟩ := swapping
    intro absurdity
    cases absurdity
  · obtain ⟨primary,fallback,_⟩ := c.exec_frame task o s fun started new same => swapping ⟨started,new,same⟩
    rw [primary,fallback]
    exact covered

theorem sane_step (p : Pool (ModelService Nd) (ServingTask Nd)) (action : Action (ServingOutcome Nd) (ServingEvent Nd))
    (sane : Sane c p) : Sane c (step c.service p action) := by
  obtain ⟨numeric,covered,failed⟩ := sane
  rcases step_cases c.service p action with ⟨e,rfl,stepped⟩ | ⟨n,o,task,rest,before,after,rfl,found,split,stepped⟩ | ⟨same,_⟩
  · rw [stepped]
    have tasks : AllTasks (fun _ task => Failed c task) ⟨(c.begin p.shared e).1,p.calls ++ [(c.begin p.shared e).2]⟩ :=
      allTasks_outside failed (fun _ own => own) (c.begin_failed e p.shared)
    rcases c.begin_cases e p.shared with ⟨action,rfl⟩ | same
    · refine ⟨?_,covered,tasks⟩
      change NumericSplits (c.registry.step p.shared.registry action).registry
      rw [step_registry]
      exact attempt_numericSplits c.registry action.now action.operation numeric
    · refine ⟨?_,?_,tasks⟩
      · change NumericSplits (c.begin p.shared e).1.registry.registry
        rw [same]
        exact numeric
      · change (c.begin p.shared e).1.server.primary = none → (c.begin p.shared e).1.server.fallback = none
        rw [same]
        exact covered
  · rw [stepped]
    have own := failed _ (List.mem_of_getElem? found) task List.mem_cons_self
    refine ⟨?_,c.exec_covered task o covered,?_⟩
    · change NumericSplits (c.exec task o p.shared).1.registry.registry
      rw [exec_registry]
      exact numeric
    · exact allTasks_run failed split (fun _ own => own) fun tasks next => c.exec_failed o own next
  · rw [same]
    exact ⟨numeric,covered,failed⟩

-- In every run, with every interleaving of predictions, reloads and changes of the tests:
-- the predictions are available exactly when no step of theirs is disturbed.
theorem prediction_available (c : ModelServer Nd) (actions : List (Action (ServingOutcome Nd) (ServingEvent Nd))) :
    Runs.Along (step c.service) c.JustifiedStep idle actions ↔ Runs.Along (step c.service) c.UndisturbedStep idle actions := by
  have same : ∀ p action, Sane c p → (c.JustifiedStep p action ↔ c.UndisturbedStep p action) := by
    intro p action sane
    cases action with
    | outside e => exact ⟨fun _ => trivial,fun _ => trivial⟩
    | run n o =>
      have task : ∀ task rest, p.calls[n]? = some (task :: rest) → (c.Justified o p.shared task ↔ c.Undisturbed p.shared task) := by
        intro task rest found
        exact c.justified_iff o sane.numeric sane.covered
          (sane.failed _ (List.mem_of_getElem? found) task List.mem_cons_self)
      exact ⟨fun justified first rest found => (task first rest found).mp (justified first rest found),
        fun undisturbed first rest found => (task first rest found).mpr (undisturbed first rest found)⟩
  exact Runs.along_iff (c.sane_step) same c.idle_sane

-- The artifact of 2.0.0 is a model that fails on every input.
def brokenModel : LoadedModel String := ⟨none,none,fun _ => .error "features"⟩

def brokenLoads (call : Nat) : Action (ServingOutcome String) (ServingEvent String) := .run call ⟨fun _ => .ok (some brokenModel),0⟩

-- 1.0.0 is loaded, and a test assigns every user to 2.0.0.
def onTrial : List (Action (ServingOutcome String) (ServingEvent String)) :=
  [operation (registration "1.0.0"),operation (registration "2.0.0"),operation (.promoteModel "fraud" "1.0.0" .production "system"),
    operation (.createAbTest "trial" "fraud" "2.0.0" "2.0.0" allTraffic true),
    .outside .loadProductionModel,goOn 4,goOn 4,goOn 4,.outside (.predict "x" (some "u1")),goOn 5]

def variantFails : List (Action (ServingOutcome String) (ServingEvent String)) := onTrial ++ [goOn 5,brokenLoads 5,goOn 5]

def testEnds : List (Action (ServingOutcome String) (ServingEvent String)) := onTrial ++ [operation (.endAbTest "trial")]

-- The variant fails, and the call raises with a primary that answers; and a test that is
-- ended while a user is routed makes the call raise.
theorem healthy_primary_unused :
    ¬Runs.Along (step pathServer.service) pathServer.JustifiedStep idle (variantFails ++ [goOn 5]) ∧
      ¬Runs.Along (step pathServer.service) pathServer.JustifiedStep idle (testEnds ++ [goOn 5]) := by
  constructor
  · intro available
    have last : pathServer.JustifiedStep (pathServer.servingReached variantFails) (goOn 5) := Runs.along_at available
    have waiting : (pathServer.servingReached variantFails).calls[5]? =
        some [.fallBack "x" (.variant "trial" "2.0.0" brokenModel)] := by with_unfolding_all rfl
    obtain ⟨installed,held,answers⟩ : ∃ installed, (pathServer.servingReached variantFails).shared.server.primary = some installed ∧
        pathServer.tryModel installed.model "x" = .ok "1.0.0" := ⟨_,by with_unfolding_all rfl,by with_unfolding_all rfl⟩
    exact ((last _ _ waiting).1 (by with_unfolding_all rfl)).2.1 ⟨"1.0.0",installed,held,answers⟩
  · intro available
    have last : pathServer.JustifiedStep (pathServer.servingReached testEnds) (goOn 5) := Runs.along_at available
    have waiting : (pathServer.servingReached testEnds).calls[5]? = some [.resolve "x" "u1" 1 "trial" []] := by
      with_unfolding_all rfl
    exact last _ _ waiting (by with_unfolding_all rfl)

end ModelServer
end RiskPulse
