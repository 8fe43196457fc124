import RiskPulse.Library.Interleaving
import RiskPulse.ModelServer
import RiskPulse.RegistrySteps

namespace RiskPulse
open Interleaved ModelRegistry

-- What the calls of a server still have to do, cut where it reads what others can change:
-- the registry, the tests one by one, and the references to the models. A load carries the
-- number of promotions and rollbacks there were when its call began.
inductive ServingTask (Nd : Type) where
  | readActive (started : Nat)
  | checkProduction (started : Nat) (currentVersion : String)
  | readProduction (started : Nat)
  | readMetadata (version : String)
  | loadArtifact (started : Option Nat) (metadata : ModelMetadata)
  | swap (started : Option Nat) (new : InstalledModel Nd)
  | preload (versions : List String)
  | examine (features : Nd) (userId : String) (size : Nat) (tests : List String)
  | resolve (features : Nd) (userId : String) (size : Nat) (testName : String) (tests : List String)
  | provide (features : Nd) (userId : String) (size : Nat) (testName version : String) (tests : List String)
  | choose (features : Nd)
  | attempt (features : Nd) (candidate : Candidate Nd)
  | fallBack (features : Nd) (candidate : Candidate Nd)

-- The loads and the answers are not in the code: when the loads that swapped a model in
-- had begun, and what the predictions came to.
structure ModelService (Nd : Type) where
  registry : RegistryState
  server : ModelServerState Nd
  loads : List Nat
  answers : List (Candidate Nd × Nd)

inductive ServingEvent (Nd : Type) where
  | registry (action : RegistryAction)
  | hotReload
  | loadProductionModel
  | loadModelVersion (version : String)
  | loadForAbTest (testName : String)
  | predict (features : Nd) (userId : Option String)

structure ServingOutcome (Nd : Type) where
  loader : ModelLoader Nd
  draw : Rat

namespace ModelServer
variable {Nd : Type} (c : ModelServer Nd)

-- The iteration over the tests notes their number, and goes by their names in order.
def begin (s : ModelService Nd) : ServingEvent Nd → ModelService Nd × List (ServingTask Nd)
  | .registry action => ({s with registry := c.registry.step s.registry action},[])
  | .hotReload => (s,[.readActive (changes s.registry.registry)])
  | .loadProductionModel => (s,[.readProduction (changes s.registry.registry)])
  | .loadModelVersion version => (s,[.readMetadata version])
  | .loadForAbTest testName =>
    match getAbTest testName s.registry.registry with
    | none => (s,[])
    | some config => (s,[.preload [config.modelAVersion,config.modelBVersion]])
  | .predict features none => (s,[.choose features])
  | .predict features (some userId) =>
    if userId = "" then (s,[.choose features])
    else (s,[.examine features userId s.registry.registry.abTests.entries.length s.registry.registry.abTests.keys])

-- The lock that a prediction holds while it goes through the tests keeps swaps out, which
-- touch nothing it reads there; here they may happen at any time.
def exec (task : ServingTask Nd) (o : ServingOutcome Nd) (s : ModelService Nd) : ModelService Nd × Option (List (ServingTask Nd)) :=
  match task with
  | .readActive started => (s,some [.checkProduction started s.server.activeVersion])
  | .checkProduction started currentVersion =>
    match c.registry.getProductionModel c.modelName s.registry.registry with
    | .error _ => (s,none)
    | .ok none => (s,some [])
    | .ok (some productionMeta) =>
      if productionMeta.version = currentVersion then (s,some []) else (s,some [.loadArtifact (some started) productionMeta])
  | .readProduction started =>
    match c.registry.getProductionModel c.modelName s.registry.registry with
    | .error _ => (s,none)
    | .ok none => (s,some [])
    | .ok (some metadata) => (s,some [.loadArtifact (some started) metadata])
  | .readMetadata version =>
    match getModelMetadata c.modelName version s.registry.registry with
    | .error _ => (s,none)
    | .ok metadata => (s,some [.loadArtifact none metadata])
  | .loadArtifact started metadata =>
    match safeLoadArtifact o.loader metadata.artifactPath with
    | none => (s,some [])
    | some model => (s,some [.swap started ⟨model,metadata⟩])
  | .swap started new => ({s with server := s.server.swapped new, loads := started.toList ++ s.loads},some [])
  | .preload [] => (s,some [])
  | .preload (version :: rest) =>
    ({s with server := (c.abModel o.loader version s.registry.registry s.server).2},some [.preload rest])
  | .examine features userId size tests =>
    if s.registry.registry.abTests.entries.length ≠ size then (s,none)
    else
      match tests with
      | [] => (s,some [.choose features])
      | testName :: rest =>
        if (s.registry.registry.abTests.get? testName).any ABTestConfig.isActive then
          (s,some [.resolve features userId size testName rest])
        else (s,some [.examine features userId size rest])
  | .resolve features userId size testName tests =>
    match resolveAbAssignment c.sha256 testName userId o.draw s.registry.registry with
    | .error _ => (s,none)
    | .ok version => (s,some [.provide features userId size testName version tests])
  | .provide features userId size testName version tests =>
    match c.abModel o.loader version s.registry.registry s.server with
    | (some model,t) => ({s with server := t},some [.attempt features (.variant testName version model)])
    | (none,t) => ({s with server := t},some [.examine features userId size tests])
  | .choose features =>
    match s.server.primary with
    | none => (s,none)
    | some installed => (s,some [.attempt features (.primary installed)])
  | .attempt features candidate =>
    match c.tryModel candidate.model features with
    | .ok predictions => ({s with answers := (candidate,predictions) :: s.answers},some [])
    | .error _ => (s,some [.fallBack features candidate])
  | .fallBack features _ =>
    match c.predictWithFallback features s.server with
    | .error _ => (s,none)
    | .ok answer => ({s with answers := answer :: s.answers},some [])

def service : Interleaved (ModelService Nd) (ServingTask Nd) (ServingOutcome Nd) (ServingEvent Nd) where
  exec task o s := c.exec task o s
  event e s := c.begin s e

def idle : Pool (ModelService Nd) (ServingTask Nd) := ⟨⟨ModelRegistry.opened,.empty,[],[]⟩,[]⟩

def servingReached (actions : List (Action (ServingOutcome Nd) (ServingEvent Nd))) : Pool (ModelService Nd) (ServingTask Nd) :=
  Runs.run (step c.service) idle actions

-- No task changes the registry, and only a swap the primary, the fallback and the loads.
theorem exec_registry (task : ServingTask Nd) (o : ServingOutcome Nd) (s : ModelService Nd) :
    (c.exec task o s).1.registry = s.registry := by
  cases task with
  | preload versions => cases versions <;> rfl
  | examine =>
    simp only [exec]
    split
    · rfl
    · split
      · rfl
      · split <;> rfl
  | checkProduction =>
    simp only [exec]
    split
    · rfl
    · rfl
    · split <;> rfl
  | readActive => rfl
  | swap => rfl
  | _ =>
    simp only [exec]
    split <;> rfl

theorem exec_frame (task : ServingTask Nd) (o : ServingOutcome Nd) (s : ModelService Nd)
    (other : ∀ started new, task ≠ .swap started new) :
    (c.exec task o s).1.server.primary = s.server.primary ∧ (c.exec task o s).1.server.fallback = s.server.fallback ∧
      (c.exec task o s).1.loads = s.loads := by
  cases task with
  | swap started new => exact absurd rfl (other started new)
  | preload versions =>
    cases versions with
    | nil => exact ⟨rfl,rfl,rfl⟩
    | cons version rest =>
      have frame := c.abModel_frame o.loader version s.registry.registry s.server
      exact ⟨frame.1,frame.2,rfl⟩
  | provide features userId size testName version tests =>
    have frame := c.abModel_frame o.loader version s.registry.registry s.server
    simp only [exec]
    split <;> rename_i provided <;> rw [provided] at frame <;> exact ⟨frame.1,frame.2,rfl⟩
  | examine =>
    simp only [exec]
    split
    · exact ⟨rfl,rfl,rfl⟩
    · split
      · exact ⟨rfl,rfl,rfl⟩
      · split <;> exact ⟨rfl,rfl,rfl⟩
  | checkProduction =>
    simp only [exec]
    split
    · exact ⟨rfl,rfl,rfl⟩
    · exact ⟨rfl,rfl,rfl⟩
    · split <;> exact ⟨rfl,rfl,rfl⟩
  | readActive => exact ⟨rfl,rfl,rfl⟩
  | _ =>
    simp only [exec]
    split <;> exact ⟨rfl,rfl,rfl⟩

-- Which task can come after which.
inductive Follows (s : ModelService Nd) : ServingTask Nd → ServingTask Nd → Prop where
  | check (started : Nat) : Follows s (.readActive started) (.checkProduction started s.server.activeVersion)
  | newer (production : c.registry.getProductionModel c.modelName s.registry.registry = .ok (some metadata)) :
      Follows s (.checkProduction started currentVersion) (.loadArtifact (some started) metadata)
  | production (production : c.registry.getProductionModel c.modelName s.registry.registry = .ok (some metadata)) :
      Follows s (.readProduction started) (.loadArtifact (some started) metadata)
  | version : Follows s (.readMetadata version) (.loadArtifact none metadata)
  | loaded : Follows s (.loadArtifact started metadata) (.swap started ⟨model,metadata⟩)
  | preloaded : Follows s (.preload (version :: rest)) (.preload rest)
  | unrouted : Follows s (.examine features userId size []) (.choose features)
  | active : Follows s (.examine features userId size (testName :: rest)) (.resolve features userId size testName rest)
  | inactive : Follows s (.examine features userId size (testName :: rest)) (.examine features userId size rest)
  | assigned : Follows s (.resolve features userId size testName rest) (.provide features userId size testName version rest)
  | provided : Follows s (.provide features userId size testName version rest) (.attempt features (.variant testName version model))
  | missing : Follows s (.provide features userId size testName version rest) (.examine features userId size rest)
  | primary : Follows s (.choose features) (.attempt features (.primary installed))
  | failed (raised : c.tryModel candidate.model features = .error e) :
      Follows s (.attempt features candidate) (.fallBack features candidate)

theorem exec_next (o : ServingOutcome Nd) (next : (c.exec task o s).2 = some tasks) :
    tasks = [] ∨ ∃ other, tasks = [other] ∧ Follows c s task other := by
  cases task with
  | readActive started =>
    cases next
    exact .inr ⟨_,rfl,.check started⟩
  | checkProduction started currentVersion =>
    simp only [exec] at next
    split at next
    · cases next
    · cases next
      exact .inl rfl
    · rename_i metadata production
      split at next
      · cases next
        exact .inl rfl
      · cases next
        exact .inr ⟨_,rfl,.newer production⟩
  | readProduction started =>
    simp only [exec] at next
    split at next
    · cases next
    · cases next
      exact .inl rfl
    · rename_i metadata production
      cases next
      exact .inr ⟨_,rfl,.production production⟩
  | readMetadata version =>
    simp only [exec] at next
    split at next
    · cases next
    · cases next
      exact .inr ⟨_,rfl,.version⟩
  | loadArtifact started metadata =>
    simp only [exec] at next
    split at next
    · cases next
      exact .inl rfl
    · cases next
      exact .inr ⟨_,rfl,.loaded⟩
  | swap started new =>
    cases next
    exact .inl rfl
  | preload versions =>
    cases versions with
    | nil =>
      cases next
      exact .inl rfl
    | cons version rest =>
      cases next
      exact .inr ⟨_,rfl,.preloaded⟩
  | examine features userId size tests =>
    simp only [exec] at next
    split at next
    · cases next
    · split at next
      · cases next
        exact .inr ⟨_,rfl,.unrouted⟩
      · split at next
        · cases next
          exact .inr ⟨_,rfl,.active⟩
        · cases next
          exact .inr ⟨_,rfl,.inactive⟩
  | resolve features userId size testName tests =>
    simp only [exec] at next
    split at next
    · cases next
    · cases next
      exact .inr ⟨_,rfl,.assigned⟩
  | provide features userId size testName version tests =>
    simp only [exec] at next
    split at next
    · cases next
      exact .inr ⟨_,rfl,.provided⟩
    · cases next
      exact .inr ⟨_,rfl,.missing⟩
  | choose features =>
    simp only [exec] at next
    split at next
    · cases next
    · cases next
      exact .inr ⟨_,rfl,.primary⟩
  | attempt features candidate =>
    simp only [exec] at next
    split at next
    · cases next
      exact .inl rfl
    · rename_i e raised
      cases next
      exact .inr ⟨_,rfl,.failed raised⟩
  | fallBack features candidate =>
    simp only [exec] at next
    split at next
    · cases next
    · cases next
      exact .inl rfl

-- A call begins with one task at most, which holds nothing yet.
theorem begin_next (e : ServingEvent Nd) (s : ModelService Nd) :
    (c.begin s e).2 = [] ∨ ∃ task, (c.begin s e).2 = [task] ∧
      (task = .readActive (changes s.registry.registry) ∨ task = .readProduction (changes s.registry.registry) ∨
        (∃ version, task = .readMetadata version) ∨ (∃ versions, task = .preload versions) ∨
        (∃ features, task = .choose features) ∨ ∃ features userId size tests, task = .examine features userId size tests) := by
  cases e with
  | registry action => exact .inl rfl
  | hotReload => exact .inr ⟨_,rfl,.inl rfl⟩
  | loadProductionModel => exact .inr ⟨_,rfl,.inr (.inl rfl)⟩
  | loadModelVersion version => exact .inr ⟨_,rfl,.inr (.inr (.inl ⟨version,rfl⟩))⟩
  | loadForAbTest testName =>
    simp only [begin]
    split
    · exact .inl rfl
    · exact .inr ⟨_,rfl,.inr (.inr (.inr (.inl ⟨_,rfl⟩)))⟩
  | predict features userId =>
    cases userId with
    | none => exact .inr ⟨_,rfl,.inr (.inr (.inr (.inr (.inl ⟨_,rfl⟩))))⟩
    | some userId =>
      simp only [begin]
      split
      · exact .inr ⟨_,rfl,.inr (.inr (.inr (.inr (.inl ⟨_,rfl⟩))))⟩
      · exact .inr ⟨_,rfl,.inr (.inr (.inr (.inr (.inr ⟨_,_,_,_,rfl⟩))))⟩

-- Only an operation of the registry changes anything when a call begins.
theorem begin_cases (e : ServingEvent Nd) (s : ModelService Nd) :
    (∃ action, e = .registry action) ∨ (c.begin s e).1 = s := by
  cases e with
  | registry action => exact .inl ⟨action,rfl⟩
  | loadForAbTest testName =>
    simp only [begin]
    split <;> exact .inr rfl
  | predict features userId =>
    cases userId with
    | none => exact .inr rfl
    | some userId =>
      simp only [begin]
      split <;> exact .inr rfl
  | _ => exact .inr rfl

section Uninterrupted
variable (loader : ModelLoader Nd) (draw : String → Rat)

def outcomes : ServingTask Nd → ServingOutcome Nd
  | .resolve _ _ _ testName _ => ⟨loader,draw testName⟩
  | _ => ⟨loader,0⟩

-- A call from start to end with nothing in between.
abbrev Whole (s : ModelService Nd) (call : List (ServingTask Nd)) (t : ModelService Nd) (finished : Bool) : Prop :=
  Uninterrupted c.service (outcomes loader draw) s call t finished

theorem whole_next {s : ModelService Nd} (o : ServingOutcome Nd) (own : outcomes loader draw task = o)
    (goes : c.exec task o s = (after,some [other])) (later : c.Whole loader draw after [other] t finished) :
    c.Whole loader draw s [task] t finished := by
  subst own
  have shared : (c.service.exec task (outcomes loader draw task) s).1 = after := congrArg Prod.fst goes
  refine .continued (congrArg Prod.snd goes) ?_
  rw [shared]
  exact later

theorem whole_end {s : ModelService Nd} (o : ServingOutcome Nd) (own : outcomes loader draw task = o)
    (goes : c.exec task o s = (after,some [])) : c.Whole loader draw s [task] after true := by
  subst own
  have shared : (c.service.exec task (outcomes loader draw task) s).1 = after := congrArg Prod.fst goes
  refine .continued (congrArg Prod.snd goes) ?_
  rw [shared]
  exact .ended

theorem whole_raised {s : ModelService Nd} (o : ServingOutcome Nd) (own : outcomes loader draw task = o)
    (stops : c.exec task o s = (after,none)) : c.Whole loader draw s [task] after false := by
  subst own
  have shared : (c.service.exec task (outcomes loader draw task) s).1 = after := congrArg Prod.fst stops
  rw [← shared]
  exact .raised (congrArg Prod.snd stops)

def Returned (s t : ModelService Nd) (finished : Bool) : Except ModelServerError (Candidate Nd × Nd) → Prop
  | .ok answer => finished = true ∧ t = {s with answers := answer :: s.answers}
  | .error _ => finished = false ∧ t = s

-- What predict does once the request is routed.
def answered (features : Nd) (candidate : Candidate Nd) (s : ModelServerState Nd) : Except ModelServerError (Candidate Nd × Nd) :=
  match c.tryModel candidate.model features with
  | .ok predictions => .ok (candidate,predictions)
  | .error _ => c.predictWithFallback features s

theorem answered_whole (features : Nd) (candidate : Candidate Nd) (s : ModelService Nd) :
    ∃ t finished, c.Whole loader draw s [.attempt features candidate] t finished ∧
      Returned s t finished (c.answered features candidate s.server) := by
  unfold answered
  cases tried : c.tryModel candidate.model features with
  | ok predictions =>
    exact ⟨_,true,c.whole_end loader draw ⟨loader,0⟩ rfl (by simp only [exec,tried]),rfl,rfl⟩
  | error e =>
    have falls : c.exec (.attempt features candidate) ⟨loader,0⟩ s = (s,some [.fallBack features candidate]) := by
      simp only [exec,tried]
    cases fallen : c.predictWithFallback features s.server with
    | ok answer =>
      refine ⟨_,true,c.whole_next loader draw ⟨loader,0⟩ rfl falls (c.whole_end loader draw ⟨loader,0⟩ rfl ?_),rfl,rfl⟩
      simp only [exec,fallen]
    | error e =>
      refine ⟨_,false,c.whole_next loader draw ⟨loader,0⟩ rfl falls (c.whole_raised loader draw ⟨loader,0⟩ rfl ?_),rfl,rfl⟩
      simp only [exec,fallen]

theorem answered_primary (features : Nd) (s : ModelService Nd) :
    ∃ t finished, c.Whole loader draw s [.choose features] t finished ∧
      match s.server.primary with
      | none => finished = false ∧ t = s
      | some installed => Returned s t finished (c.answered features (.primary installed) s.server) := by
  cases held : s.server.primary with
  | none => exact ⟨s,false,c.whole_raised loader draw ⟨loader,0⟩ rfl (by simp only [exec,held]),rfl,rfl⟩
  | some installed =>
    obtain ⟨t,finished,whole,returned⟩ := c.answered_whole loader draw features (.primary installed) s
    exact ⟨t,finished,c.whole_next loader draw ⟨loader,0⟩ rfl (by simp only [exec,held]) whole,returned⟩

-- From the routing of a request to its answer.
def afterRouting (features : Nd) :
    Except ModelRegistryError (Option (Candidate Nd)) × ModelServerState Nd → Except ModelServerError (Candidate Nd × Nd)
  | (.error e,_) => .error (.registry e)
  | (.ok (some candidate),s) => c.answered features candidate s
  | (.ok none,s) =>
    match s.primary with
    | none =>
      let modelName := c.modelName
      .error (.runtimeError s!"No model available for '{modelName}'. Load a model with load_production_model() first.")
    | some installed => c.answered features (.primary installed) s

theorem predict_routed (loader : ModelLoader Nd) (draw : String → Rat) (features : Nd) (userId : Option String) (r : Registry)
    (s : ModelServerState Nd) :
    c.predict loader draw features userId r s =
      (c.afterRouting features (c.routed loader draw userId r s),(c.routed loader draw userId r s).2) := by
  rw [predict,resolveModel]
  rcases c.routed loader draw userId r s with ⟨e | _ | candidate,t⟩
  · rfl
  · simp only [afterRouting]
    cases t.primary with
    | none => rfl
    | some installed =>
      simp only [Option.map_some,answered]
      cases c.tryModel (Candidate.primary installed).model features <;> rfl
  · simp only [afterRouting,answered]
    cases c.tryModel candidate.model features <;> rfl

theorem choose_whole (features : Nd) (s : ModelService Nd) :
    ∃ t finished, c.Whole loader draw s [.choose features] t finished ∧
      Returned s t finished (c.afterRouting features (.ok none,s.server)) := by
  obtain ⟨t,finished,whole,returned⟩ := c.answered_primary loader draw features s
  refine ⟨t,finished,whole,?_⟩
  simp only [afterRouting]
  cases held : s.server.primary with
  | none =>
    rw [held] at returned
    exact returned
  | some installed =>
    rw [held] at returned
    exact returned

-- The loop over the tests, by the tests that are left.
theorem examine_whole (features : Nd) (userId : String) (tests : List (String × ABTestConfig)) (s : ModelService Nd)
    (held : ∀ test ∈ tests, s.registry.registry.abTests.get? test.1 = some test.2) :
    ∃ t finished, c.Whole loader draw s
      [.examine features userId s.registry.registry.abTests.entries.length (tests.map Prod.fst)] t finished ∧
      Returned {s with server := (c.routeTests loader draw userId s.registry.registry tests s.server).2} t finished
        (c.afterRouting features (c.routeTests loader draw userId s.registry.registry tests s.server)) := by
  induction tests generalizing s with
  | nil =>
    obtain ⟨t,finished,whole,returned⟩ := c.choose_whole loader draw features s
    refine ⟨t,finished,c.whole_next loader draw ⟨loader,0⟩ rfl ?_ whole,returned⟩
    simp only [exec,ne_eq,not_true,if_false,List.map_nil]
  | cons test rest ih =>
    obtain ⟨testName,config⟩ := test
    have here := held (testName,config) List.mem_cons_self
    have later : ∀ test ∈ rest, s.registry.registry.abTests.get? test.1 = some test.2 :=
      fun test member => held test (List.mem_cons_of_mem _ member)
    rw [routeTests]
    cases active : config.isActive with
    | false =>
      obtain ⟨t,finished,whole,returned⟩ := ih s later
      refine ⟨t,finished,c.whole_next loader draw ⟨loader,0⟩ rfl ?_ whole,returned⟩
      simp only [exec,ne_eq,not_true,if_false,List.map_cons,here,Option.any_some,active,Bool.false_eq_true]
    | true =>
      simp only [Bool.not_true,Bool.false_eq_true,if_false]
      have resolves : c.exec (.examine features userId s.registry.registry.abTests.entries.length (testName :: rest.map Prod.fst))
          ⟨loader,0⟩ s = (s,some [.resolve features userId s.registry.registry.abTests.entries.length testName
            (rest.map Prod.fst)]) := by
        simp only [exec,ne_eq,not_true,if_false,here,Option.any_some,active,if_true]
      cases assigned : resolveAbAssignment c.sha256 testName userId (draw testName) s.registry.registry with
      | error e =>
        refine ⟨s,false,c.whole_next loader draw ⟨loader,0⟩ rfl resolves
          (c.whole_raised loader draw ⟨loader,draw testName⟩ rfl ?_),rfl,rfl⟩
        simp only [exec,assigned]
      | ok version =>
        have provides : c.exec (.resolve features userId s.registry.registry.abTests.entries.length testName (rest.map Prod.fst))
            ⟨loader,draw testName⟩ s = (s,some [.provide features userId s.registry.registry.abTests.entries.length testName version
              (rest.map Prod.fst)]) := by
          simp only [exec,assigned]
        have enters : ∀ {after next t finished},
            c.exec (.provide features userId s.registry.registry.abTests.entries.length testName version (rest.map Prod.fst))
              ⟨loader,0⟩ s = (after,some [next]) → c.Whole loader draw after [next] t finished →
            c.Whole loader draw s [.examine features userId s.registry.registry.abTests.entries.length
              (testName :: rest.map Prod.fst)] t finished := fun goes whole =>
          c.whole_next loader draw ⟨loader,0⟩ rfl resolves (c.whole_next loader draw ⟨loader,draw testName⟩ rfl provides
            (c.whole_next loader draw ⟨loader,0⟩ rfl goes whole))
        rcases provided : c.abModel loader version s.registry.registry s.server with ⟨_ | model,after⟩
        · obtain ⟨t,finished,whole,returned⟩ := ih {s with server := after} later
          refine ⟨t,finished,enters ?_ whole,?_⟩
          · simp only [exec,provided]
          · simp only [provided]
            exact returned
        · obtain ⟨t,finished,whole,returned⟩ :=
            c.answered_whole loader draw features (.variant testName version model) {s with server := after}
          refine ⟨t,finished,enters ?_ whole,?_⟩
          · simp only [exec,provided]
          · simp only [provided]
            exact returned

-- A call that nothing comes between is the function of the source.
theorem predict_whole (features : Nd) (userId : Option String) (s : ModelService Nd) :
    ∃ t finished, c.Whole loader draw s (c.begin s (.predict features userId)).2 t finished ∧
      Returned {s with server := (c.predict loader draw features userId s.registry.registry s.server).2} t finished
        (c.predict loader draw features userId s.registry.registry s.server).1 := by
  rw [predict_routed]
  cases userId with
  | none => exact c.choose_whole loader draw features s
  | some userId =>
    simp only [begin,routed]
    by_cases blank : userId = ""
    · simp only [blank,if_true]
      exact c.choose_whole loader draw features s
    · simp only [blank,if_false]
      exact c.examine_whole loader draw features userId s.registry.registry.abTests.entries s
        fun test member => (OrderedDict.get?_entry _ _ _).mp member

theorem load_whole (started : Option Nat) (metadata : ModelMetadata) (s : ModelService Nd) :
    ∃ t, c.Whole loader draw s [.loadArtifact started metadata] t true ∧ t.registry = s.registry ∧
      t.server = (loadVersionOf loader metadata s.server).2 := by
  unfold loadVersionOf
  cases loaded : safeLoadArtifact loader metadata.artifactPath with
  | none => exact ⟨s,c.whole_end loader draw ⟨loader,0⟩ rfl (by simp only [exec,loaded]),rfl,rfl⟩
  | some model =>
    have swaps : c.exec (.swap started ⟨model,metadata⟩) ⟨loader,0⟩ s =
        ({s with server := s.server.swapped ⟨model,metadata⟩, loads := started.toList ++ s.loads},some []) := rfl
    refine ⟨_,c.whole_next loader draw ⟨loader,0⟩ rfl ?_ (c.whole_end loader draw ⟨loader,0⟩ rfl swaps),rfl,rfl⟩
    simp only [exec,loaded]

theorem hotReload_whole (s : ModelService Nd) :
    ∃ t finished, c.Whole loader draw s (c.begin s .hotReload).2 t finished ∧ t.registry = s.registry ∧
      t.server = (c.hotReload loader s.registry.registry s.server).2 := by
  have reads : c.exec (.readActive (changes s.registry.registry)) ⟨loader,0⟩ s =
      (s,some [.checkProduction (changes s.registry.registry) s.server.activeVersion]) := rfl
  unfold hotReload
  simp only
  cases production : c.registry.getProductionModel c.modelName s.registry.registry with
  | error e =>
    refine ⟨s,false,c.whole_next loader draw ⟨loader,0⟩ rfl reads (c.whole_raised loader draw ⟨loader,0⟩ rfl ?_),rfl,rfl⟩
    simp only [exec,production]
  | ok found =>
    cases found with
    | none =>
      refine ⟨s,true,c.whole_next loader draw ⟨loader,0⟩ rfl reads (c.whole_end loader draw ⟨loader,0⟩ rfl ?_),rfl,rfl⟩
      simp only [exec,production]
    | some metadata =>
      by_cases same : metadata.version = s.server.activeVersion
      · refine ⟨s,true,c.whole_next loader draw ⟨loader,0⟩ rfl reads (c.whole_end loader draw ⟨loader,0⟩ rfl ?_),rfl,?_⟩
        · simp only [exec,production,same,if_true]
        · simp only [same,if_true]
      · obtain ⟨t,whole,registry,server⟩ := c.load_whole loader draw (some (changes s.registry.registry)) metadata s
        refine ⟨t,true,c.whole_next loader draw ⟨loader,0⟩ rfl reads (c.whole_next loader draw ⟨loader,0⟩ rfl ?_ whole),registry,?_⟩
        · simp only [exec,production,same,if_false]
        · rw [server,loadVersionOf]
          simp only [same,if_false]
          cases safeLoadArtifact loader metadata.artifactPath <;> rfl

theorem loadProductionModel_whole (s : ModelService Nd) :
    ∃ t finished, c.Whole loader draw s (c.begin s .loadProductionModel).2 t finished ∧ t.registry = s.registry ∧
      t.server = (c.loadProductionModel loader s.registry.registry s.server).2 := by
  unfold loadProductionModel
  cases production : c.registry.getProductionModel c.modelName s.registry.registry with
  | error e => exact ⟨s,false,c.whole_raised loader draw ⟨loader,0⟩ rfl (by simp only [exec,production]),rfl,rfl⟩
  | ok found =>
    cases found with
    | none => exact ⟨s,true,c.whole_end loader draw ⟨loader,0⟩ rfl (by simp only [exec,production]),rfl,rfl⟩
    | some metadata =>
      obtain ⟨t,whole,registry,server⟩ := c.load_whole loader draw (some (changes s.registry.registry)) metadata s
      exact ⟨t,true,c.whole_next loader draw ⟨loader,0⟩ rfl (by simp only [exec,production]) whole,registry,server⟩

end Uninterrupted

-- A server of text whose models answer with their paths, and calls of it.
def pathServer : ModelServer String := ⟨digits,"fraud",fun _ => 0,fun _ scores => .ok scores,.ok⟩

def operation (op : RegistryOperation) : Action (ServingOutcome String) (ServingEvent String) := .outside (.registry (saving op))

def registration (version : String) : RegistryOperation :=
  .registerModel ⟨"fraud",version,version,"xgboost",none,none,none,"",none,"",none⟩ ⟨.ok (),.ok ""⟩

def goOn (call : Nat) : Action (ServingOutcome String) (ServingEvent String) := .run call ⟨pathLoader,0⟩

end ModelServer
end RiskPulse
