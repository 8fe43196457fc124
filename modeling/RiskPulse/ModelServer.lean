import RiskPulse.ModelRegistry

namespace RiskPulse

-- The methods a loaded model has. To call a predict it lacks raises like one that fails.
structure LoadedModel (Nd : Type) where
  predictProba : Option (Nd → Except String Nd)
  decisionFunction : Option (Nd → Except String Nd)
  predict : Nd → Except String Nd

structure InstalledModel (Nd : Type) where
  model : LoadedModel Nd
  metadata : ModelMetadata

structure ModelServerState (Nd : Type) where
  primary : Option (InstalledModel Nd)
  fallback : Option (InstalledModel Nd)
  abModels : OrderedDict String (LoadedModel Nd)

inductive ModelServerError where
  | runtimeError (message : String)
  | registry (error : ModelRegistryError)
  deriving DecidableEq

-- The loader's answer for a path at the time it is called: it may raise, or return None.
abbrev ModelLoader (Nd : Type) := String → Except String (Option (LoadedModel Nd))

-- column takes predictions[:, i]; both functions are numpy's.
structure ModelServer (Nd : Type) where
  registry : ModelRegistry
  modelName : String
  sha256 : String → Nat
  column : Nat → Nd → Except String Nd
  asarray : Nd → Except String Nd

-- The model that a prediction is made with, and where the server had it from.
inductive Candidate (Nd : Type) where
  | variant (testName version : String) (model : LoadedModel Nd)
  | primary (installed : InstalledModel Nd)
  | fallback (installed : InstalledModel Nd)

def Candidate.model {Nd : Type} : Candidate Nd → LoadedModel Nd
  | .variant _ _ model => model
  | .primary installed => installed.model
  | .fallback installed => installed.model

namespace ModelServerState
variable {Nd : Type}

def empty : ModelServerState Nd := ⟨none,none,.empty⟩

def activeVersion (s : ModelServerState Nd) : String :=
  match s.primary with
  | some installed => installed.metadata.version
  | none => "none"

-- The swap under the lock.
def swapped (s : ModelServerState Nd) (new : InstalledModel Nd) : ModelServerState Nd where
  primary := some new
  fallback := s.primary
  abModels := s.abModels

end ModelServerState

namespace ModelServer
variable {Nd : Type} (c : ModelServer Nd)

def safeLoadArtifact (loader : ModelLoader Nd) (artifactPath : String) : Option (LoadedModel Nd) :=
  match loader artifactPath with
  | .ok model => model
  | .error _ => none

-- _load_model_version, which is given the metadata.
def loadVersionOf (loader : ModelLoader Nd) (metadata : ModelMetadata) (s : ModelServerState Nd) : Bool × ModelServerState Nd :=
  match safeLoadArtifact loader metadata.artifactPath with
  | none => (false,s)
  | some model => (true,s.swapped ⟨model,metadata⟩)

def loadProductionModel (loader : ModelLoader Nd) (r : Registry) (s : ModelServerState Nd) :
    Except ModelRegistryError Bool × ModelServerState Nd :=
  match c.registry.getProductionModel c.modelName r with
  | .error e => (.error e,s)
  | .ok none => (.ok false,s)
  | .ok (some metadata) => (.ok (loadVersionOf loader metadata s).1,(loadVersionOf loader metadata s).2)

def loadModelVersion (loader : ModelLoader Nd) (version : String) (r : Registry) (s : ModelServerState Nd) :
    Except ModelRegistryError Bool × ModelServerState Nd :=
  match ModelRegistry.getModelMetadata c.modelName version r with
  | .error e => (.error e,s)
  | .ok metadata => (.ok (loadVersionOf loader metadata s).1,(loadVersionOf loader metadata s).2)

def hotReload (loader : ModelLoader Nd) (r : Registry) (s : ModelServerState Nd) :
    Except ModelRegistryError Bool × ModelServerState Nd :=
  let currentVersion := s.activeVersion
  match c.registry.getProductionModel c.modelName r with
  | .error e => (.error e,s)
  | .ok none => (.ok false,s)
  | .ok (some productionMeta) =>
    if productionMeta.version = currentVersion then (.ok false,s)
    else
      match safeLoadArtifact loader productionMeta.artifactPath with
      | none => (.ok false,s)
      | some newModel => (.ok true,s.swapped ⟨newModel,productionMeta⟩)

def loadAbModel (loader : ModelLoader Nd) (version : String) (r : Registry) (s : ModelServerState Nd) :
    Option (LoadedModel Nd) × ModelServerState Nd :=
  match ModelRegistry.getModelMetadata c.modelName version r with
  | .error _ => (none,s)
  | .ok metadata =>
    match safeLoadArtifact loader metadata.artifactPath with
    | none => (none,s)
    | some model => (some model,{s with abModels := s.abModels.set version model})

def loadForAbTest (loader : ModelLoader Nd) (testName : String) (r : Registry) (s : ModelServerState Nd) :
    Bool × ModelServerState Nd :=
  match ModelRegistry.getAbTest testName r with
  | none => (false,s)
  | some config =>
    [config.modelAVersion,config.modelBVersion].foldl (fun (success,s) version =>
      if version ∈ s.abModels.keys then (success,s)
      else
        match c.loadAbModel loader version r s with
        | (none,t) => (false,t)
        | (some _,t) => (success,t)) (true,s)

-- The cached model of the version, or else one that is loaded now.
def abModel (loader : ModelLoader Nd) (version : String) (r : Registry) (s : ModelServerState Nd) :
    Option (LoadedModel Nd) × ModelServerState Nd :=
  match s.abModels.get? version with
  | some model => (some model,s)
  | none => c.loadAbModel loader version r s

-- The loop of _resolve_model over the tests of the registry, whatever model they are of.
-- draw is what the random numbers of the tests that are not sticky come to.
def routeTests (loader : ModelLoader Nd) (draw : String → Rat) (userId : String) (r : Registry) :
    List (String × ABTestConfig) → ModelServerState Nd →
      Except ModelRegistryError (Option (Candidate Nd)) × ModelServerState Nd
  | [],s => (.ok none,s)
  | (testName,config) :: rest,s =>
    if !config.isActive then routeTests loader draw userId r rest s
    else
      match ModelRegistry.resolveAbAssignment c.sha256 testName userId (draw testName) r with
      | .error e => (.error e,s)
      | .ok version =>
        match c.abModel loader version r s with
        | (some model,t) => (.ok (some (.variant testName version model)),t)
        | (none,t) => routeTests loader draw userId r rest t

def routed (loader : ModelLoader Nd) (draw : String → Rat) (userId : Option String) (r : Registry) (s : ModelServerState Nd) :
    Except ModelRegistryError (Option (Candidate Nd)) × ModelServerState Nd :=
  match userId with
  | none => (.ok none,s)
  | some userId => if userId = "" then (.ok none,s) else c.routeTests loader draw userId r r.abTests.entries s

def resolveModel (loader : ModelLoader Nd) (draw : String → Rat) (userId : Option String) (r : Registry)
    (s : ModelServerState Nd) : Except ModelRegistryError (Option (Candidate Nd)) × ModelServerState Nd :=
  match c.routed loader draw userId r s with
  | (.error e,t) => (.error e,t)
  | (.ok (some candidate),t) => (.ok (some candidate),t)
  | (.ok none,t) => (.ok (t.primary.map .primary),t)

def scores (model : LoadedModel Nd) (features : Nd) : Except String Nd :=
  match model.predictProba,model.decisionFunction with
  | some predictProba,_ => (predictProba features).bind (c.column 1)
  | none,some decisionFunction => decisionFunction features
  | none,none => model.predict features

-- The try block of predict.
def tryModel (model : LoadedModel Nd) (features : Nd) : Except String Nd := (c.scores model features).bind c.asarray

-- A prediction comes with the model it was made with, which the server does not return.
def predictWithFallback (features : Nd) (s : ModelServerState Nd) : Except ModelServerError (Candidate Nd × Nd) :=
  let modelName := c.modelName
  match s.fallback with
  | none => .error (.runtimeError s!"Primary model failed and no fallback available for '{modelName}'")
  | some fallback =>
    match c.scores fallback.model features with
    | .error exc => .error (.runtimeError s!"Both primary and fallback models failed for '{modelName}': {exc}")
    | .ok predictions => .ok (.fallback fallback,predictions)

def predict (loader : ModelLoader Nd) (draw : String → Rat) (features : Nd) (userId : Option String) (r : Registry)
    (s : ModelServerState Nd) : Except ModelServerError (Candidate Nd × Nd) × ModelServerState Nd :=
  let modelName := c.modelName
  match c.resolveModel loader draw userId r s with
  | (.error e,t) => (.error (.registry e),t)
  | (.ok none,t) =>
    (.error (.runtimeError s!"No model available for '{modelName}'. Load a model with load_production_model() first."),t)
  | (.ok (some candidate),t) =>
    match c.tryModel candidate.model features with
    | .ok predictions => (.ok (candidate,predictions),t)
    | .error _ => (c.predictWithFallback features t,t)

theorem abModel_none (none : (c.abModel loader version r s).1 = none) : (c.abModel loader version r s).2 = s := by
  unfold abModel loadAbModel at none ⊢
  cases cached : s.abModels.get? version with
  | some model => rfl
  | none =>
    simp only [cached] at none ⊢
    cases read : ModelRegistry.getModelMetadata c.modelName version r with
    | error e => rfl
    | ok metadata =>
      simp only [read] at none ⊢
      cases loaded : safeLoadArtifact loader metadata.artifactPath with
      | none => rfl
      | some model =>
        simp only [loaded] at none
        cases none

-- What an active test comes to for the user: the model of the version it assigns, where
-- the server has that model or can load it.
def offer (loader : ModelLoader Nd) (draw : String → Rat) (userId : String) (r : Registry) (s : ModelServerState Nd)
    (test : String × ABTestConfig) : Option (Candidate Nd) :=
  if test.2.isActive then
    match ModelRegistry.resolveAbAssignment c.sha256 test.1 userId (draw test.1) r with
    | .ok version => (c.abModel loader version r s).1.map (.variant test.1 version)
    | .error _ => none
  else none

-- The first test with an offer routes the user; without one nothing changes.
theorem routeTests_offered (tests : List (String × ABTestConfig))
    (done : c.routeTests loader draw userId r tests s = (.ok found,t)) :
    found = tests.findSome? (c.offer loader draw userId r s) ∧
      (found = none → t = s) ∧
      ∀ testName version model, found = some (.variant testName version model) →
        c.abModel loader version r s = (some model,t) := by
  induction tests with
  | nil =>
    cases done
    exact ⟨rfl,fun _ => rfl,(fun _ _ _ absurdity => by cases absurdity)⟩
  | cons test rest ih =>
    obtain ⟨testName,config⟩ := test
    rw [routeTests] at done
    rw [List.findSome?_cons,offer]
    cases active : config.isActive with
    | false =>
      simp only [active,Bool.not_false,if_true] at done
      simpa [active] using ih done
    | true =>
      simp only [active,Bool.not_true,Bool.false_eq_true,if_false] at done
      simp only [if_true]
      cases assigned : ModelRegistry.resolveAbAssignment c.sha256 testName userId (draw testName) r with
      | error e =>
        simp only [assigned] at done
        cases done
      | ok version =>
        simp only [assigned] at done ⊢
        rcases model : c.abModel loader version r s with ⟨_ | model,after⟩
        · have same : after = s := by
            have kept : (c.abModel loader version r s).1 = none → (c.abModel loader version r s).2 = s := c.abModel_none
            rw [model] at kept
            exact kept rfl
          subst same
          simp only [model] at done ⊢
          exact ih done
        · simp only [model] at done ⊢
          cases done
          refine ⟨rfl,(fun absurdity => by cases absurdity),?_⟩
          intro name other m same
          cases same
          exact model

theorem offer_cases (offered : c.offer loader draw userId r s test = some candidate) :
    test.2.isActive = true ∧ ∃ version model, candidate = .variant test.1 version model ∧
      ModelRegistry.resolveAbAssignment c.sha256 test.1 userId (draw test.1) r = .ok version ∧
      (c.abModel loader version r s).1 = some model := by
  rw [offer] at offered
  split at offered
  · rename_i active
    split at offered
    · rename_i version assigned
      obtain ⟨model,provided,same⟩ := Option.map_eq_some_iff.mp offered
      exact ⟨active,version,model,same.symm,assigned,provided⟩
    · cases offered
  · cases offered

-- Routing changes nothing but the cache.
theorem abModel_frame (loader : ModelLoader Nd) (version : String) (r : Registry) (s : ModelServerState Nd) :
    (c.abModel loader version r s).2.primary = s.primary ∧ (c.abModel loader version r s).2.fallback = s.fallback := by
  unfold abModel loadAbModel
  split
  · exact ⟨rfl,rfl⟩
  · split
    · exact ⟨rfl,rfl⟩
    · split <;> exact ⟨rfl,rfl⟩

theorem routeTests_frame (loader : ModelLoader Nd) (draw : String → Rat) (userId : String) (r : Registry)
    (tests : List (String × ABTestConfig)) (s : ModelServerState Nd) :
    (c.routeTests loader draw userId r tests s).2.primary = s.primary ∧
      (c.routeTests loader draw userId r tests s).2.fallback = s.fallback := by
  induction tests generalizing s with
  | nil => exact ⟨rfl,rfl⟩
  | cons test rest ih =>
    rw [routeTests]
    split
    · exact ih s
    · split
      · exact ⟨rfl,rfl⟩
      · rename_i version assigned
        have frame := c.abModel_frame loader version r s
        split
        · rename_i model t provided
          rw [provided] at frame
          exact frame
        · rename_i t provided
          rw [provided] at frame
          exact ⟨(ih t).1.trans frame.1,(ih t).2.trans frame.2⟩

theorem resolveModel_frame (loader : ModelLoader Nd) (draw : String → Rat) (userId : Option String) (r : Registry)
    (s : ModelServerState Nd) :
    (c.resolveModel loader draw userId r s).2.primary = s.primary ∧
      (c.resolveModel loader draw userId r s).2.fallback = s.fallback := by
  have frame : (c.routed loader draw userId r s).2.primary = s.primary ∧
      (c.routed loader draw userId r s).2.fallback = s.fallback := by
    cases userId with
    | none => exact ⟨rfl,rfl⟩
    | some userId =>
      rw [routed]
      split
      · exact ⟨rfl,rfl⟩
      · exact c.routeTests_frame loader draw userId r _ s
  rw [resolveModel]
  split <;> rename_i found <;> rw [found] at frame <;> exact frame

-- A request is routed by the first test with an offer, and else to the primary.
theorem resolveModel_cases (resolved : (c.resolveModel loader draw userId r s).1 = .ok found) :
    (∃ user test candidate, userId = some user ∧ user ≠ "" ∧
      r.abTests.entries.find? (fun test => (c.offer loader draw user r s test).isSome) = some test ∧
      c.offer loader draw user r s test = some candidate ∧ found = some candidate) ∨
    ((∀ user, userId = some user → user ≠ "" → ∀ test ∈ r.abTests.entries, c.offer loader draw user r s test = none) ∧
      found = s.primary.map .primary) := by
  rw [resolveModel] at resolved
  cases userId with
  | none =>
    cases resolved
    exact .inr ⟨(fun _ absurdity => by cases absurdity),rfl⟩
  | some user =>
    rw [routed] at resolved
    by_cases blank : user = ""
    · simp only [blank,if_true] at resolved
      cases resolved
      exact .inr ⟨(fun _ same named => by cases same; exact absurd blank named),rfl⟩
    · simp only [blank,if_false] at resolved
      have frame := c.routeTests_frame loader draw user r r.abTests.entries s
      rcases routing : c.routeTests loader draw user r r.abTests.entries s with ⟨e | _ | candidate,after⟩
      · rw [routing] at resolved
        cases resolved
      · obtain ⟨none,_,_⟩ := c.routeTests_offered _ routing
        rw [routing] at resolved frame
        cases resolved
        refine .inr ⟨?_,by rw [frame.1]⟩
        intro other same _
        cases same
        exact List.findSome?_eq_none_iff.mp none.symm
      · obtain ⟨offered,_,_⟩ := c.routeTests_offered _ routing
        rw [routing] at resolved
        cases resolved
        obtain ⟨before,test,later,split,here,earlier⟩ := List.findSome?_eq_some_iff.mp offered.symm
        refine .inl ⟨user,test,candidate,rfl,blank,?_,here,rfl⟩
        rw [List.find?_eq_some_iff_append]
        refine ⟨by rw [here]; rfl,before,later,split,?_⟩
        intro other member
        rw [earlier other member]
        rfl

theorem predictWithFallback_cases (made : c.predictWithFallback features s = .ok (candidate,predictions)) :
    ∃ installed, s.fallback = some installed ∧ candidate = .fallback installed ∧
      c.scores installed.model features = .ok predictions := by
  rw [predictWithFallback] at made
  cases held : s.fallback with
  | none =>
    simp only [held] at made
    cases made
  | some installed =>
    simp only [held] at made
    cases scored : c.scores installed.model features with
    | error exc =>
      simp only [scored] at made
      cases made
    | ok scores =>
      simp only [scored,Except.ok.injEq,Prod.mk.injEq] at made
      exact ⟨installed,rfl,made.1.symm,by rw [← made.2,scored]⟩

-- A prediction is made by the model the request is routed to, or by the fallback after
-- that model failed.
theorem predict_candidate (made : (c.predict loader draw features userId r s).1 = .ok (candidate,predictions)) :
    ∃ selected, (c.resolveModel loader draw userId r s).1 = .ok (some selected) ∧
      ((candidate = selected ∧ c.tryModel selected.model features = .ok predictions) ∨
        (∃ e, c.tryModel selected.model features = .error e) ∧
          ∃ installed, s.fallback = some installed ∧ candidate = .fallback installed) := by
  have frame := c.resolveModel_frame loader draw userId r s
  rw [predict] at made
  rcases resolved : c.resolveModel loader draw userId r s with ⟨e | _ | selected,after⟩
  · rw [resolved] at made
    cases made
  · rw [resolved] at made
    cases made
  · rw [resolved] at made frame
    refine ⟨selected,rfl,?_⟩
    simp only at made
    cases tried : c.tryModel selected.model features with
    | ok scores =>
      simp only [tried,Except.ok.injEq,Prod.mk.injEq] at made
      exact .inl ⟨made.1.symm,by rw [made.2]⟩
    | error e =>
      simp only [tried] at made
      obtain ⟨installed,held,same,_⟩ := c.predictWithFallback_cases made
      exact .inr ⟨⟨e,rfl⟩,installed,frame.2.symm.trans held,same⟩

theorem predict_frame (loader : ModelLoader Nd) (draw : String → Rat) (features : Nd) (userId : Option String) (r : Registry)
    (s : ModelServerState Nd) :
    (c.predict loader draw features userId r s).2.primary = s.primary ∧
      (c.predict loader draw features userId r s).2.fallback = s.fallback := by
  have frame := c.resolveModel_frame loader draw userId r s
  rw [predict]
  split <;> rename_i resolved <;> rw [resolved] at frame
  · exact frame
  · exact frame
  · split <;> exact frame

-- Models over text that answer with the path they were loaded from.
def pathModel (path : String) : LoadedModel String := ⟨none,none,fun _ => .ok path⟩

def pathLoader : ModelLoader String := fun path => .ok (some (pathModel path))

end ModelServer
end RiskPulse
