import RiskPulse.Library.Runs
import RiskPulse.ModelServer
import RiskPulse.RegistrySteps

namespace RiskPulse

open ModelRegistry

inductive ServingCall (Nd : Type) where
  | loadProductionModel (loader : ModelLoader Nd)
  | loadModelVersion (loader : ModelLoader Nd) (version : String)
  | hotReload (loader : ModelLoader Nd)
  | loadForAbTest (loader : ModelLoader Nd) (testName : String)
  | predict (loader : ModelLoader Nd) (draw : String → Rat) (features : Nd) (userId : Option String)

inductive ServingAction (Nd : Type) where
  | registry (action : RegistryAction)
  | serve (call : ServingCall Nd)

inductive ServingAnswer (Nd : Type) where
  | loaded (result : Except ModelRegistryError Bool)
  | preloaded (success : Bool)
  | predicted (result : Except ModelServerError Nd)
  deriving DecidableEq

-- A registry and a server of one of its models. The owners are not in the code: they
-- are the models that the tests of the registry were created for.
structure Serving (Nd : Type) where
  registry : RegistryState
  server : ModelServerState Nd
  owners : OrderedDict String String

namespace ModelServer
variable {Nd : Type} (c : ModelServer Nd)

def answer (call : ServingCall Nd) (r : Registry) (s : ModelServerState Nd) : ModelServerState Nd × ServingAnswer Nd :=
  match call with
  | .loadProductionModel loader => ((c.loadProductionModel loader r s).2,.loaded (c.loadProductionModel loader r s).1)
  | .loadModelVersion loader version =>
    ((c.loadModelVersion loader version r s).2,.loaded (c.loadModelVersion loader version r s).1)
  | .hotReload loader => ((c.hotReload loader r s).2,.loaded (c.hotReload loader r s).1)
  | .loadForAbTest loader testName =>
    ((c.loadForAbTest loader testName r s).2,.preloaded (c.loadForAbTest loader testName r s).1)
  | .predict loader draw features userId =>
    ((c.predict loader draw features userId r s).2,
      .predicted ((c.predict loader draw features userId r s).1.map Prod.snd))

def ownersAfter (s : Serving Nd) (action : RegistryAction) : OrderedDict String String :=
  match action.operation with
  | .createAbTest testName modelName _ _ _ _ =>
    if (c.registry.attempt action.now s.registry.registry action.operation).accepted then s.owners.set testName modelName
    else s.owners
  | _ => s.owners

def serving (s : Serving Nd) : ServingAction Nd → Serving Nd × List (ServingAnswer Nd)
  | .registry action => (⟨c.registry.step s.registry action,s.server,c.ownersAfter s action⟩,[])
  | .serve call =>
    (⟨s.registry,(c.answer call s.registry.registry s.server).1,s.owners⟩,[(c.answer call s.registry.registry s.server).2])

def unserved : Serving Nd := ⟨ModelRegistry.opened,.empty,.empty⟩

def reached (actions : List (ServingAction Nd)) : Serving Nd := Runs.run (Purging.next c.serving) unserved actions

def own (owners : OrderedDict String String) (testName : String) : Bool := decide (owners.get? testName = some c.modelName)

-- The actions on the tests of other models.
def foreign (s : Serving Nd) : ServingAction Nd → Bool
  | .registry action =>
    match action.operation with
    | .createAbTest _ modelName _ _ _ _ => decide (modelName ≠ c.modelName)
    | .endAbTest testName => !c.own s.owners testName
    | _ => false
  | .serve _ => false

-- No test takes the name of a test of another model where one of the two is the
-- server's; no test of another model is loaded for; and a user of the server is not
-- routed by a test of another model.
def Isolated (s : Serving Nd) : ServingAction Nd → Prop
  | .registry action =>
    match action.operation with
    | .createAbTest testName modelName _ _ _ _ =>
      (c.registry.attempt action.now s.registry.registry action.operation).accepted = true →
        ∀ owner, s.owners.get? testName = some owner → (owner = c.modelName ↔ modelName = c.modelName)
    | _ => True
  | .serve (.loadForAbTest _ testName) => ∀ owner, s.owners.get? testName = some owner → owner = c.modelName
  | .serve (.predict loader draw _ (some userId)) =>
    userId ≠ "" → ∀ test, s.registry.registry.abTests.entries.find? (fun test =>
      (c.offer loader draw userId s.registry.registry s.server test).isSome) = some test → c.own s.owners test.1 = true
  | .serve _ => True

structure Held (s : Serving Nd) : Prop where
  numbers : NumericSplits s.registry.registry
  owned : ∀ name ∈ s.registry.registry.abTests.keys, ∃ owner, s.owners.get? name = some owner

def ownTests (s : Serving Nd) : OrderedDict String ABTestConfig := s.registry.registry.abTests.restrict (c.own s.owners)

-- The other run has the tests of the server's own model, and everything else as well.
structure Alike (s t : Serving Nd) : Prop where
  held : Held s
  server : t.server = s.server
  registry : t.registry.registry = s.registry.registry.withTests (c.ownTests s)

theorem unserved_alike : c.Alike unserved unserved where
  held := ⟨(fun _ _ found => by cases found),(fun _ found => by cases found)⟩
  server := rfl
  registry := rfl

theorem step_withTests (action : RegistryAction) (other : ofTests action.operation = false) (s : RegistryState)
    (r : Registry) (same : s.registry = r) : (c.registry.step s action).registry.abTests = r.abTests := by
  rw [step_registry,same]
  have kept := congrArg Registry.abTests (attempt_withTests c.registry action.now r r.abTests action.operation other)
  exact kept

-- Operations that are not about tests.
theorem other_alike (alike : c.Alike s t) (action : RegistryAction) (other : ofTests action.operation = false) :
    c.Alike (c.serving s (.registry action)).1 (c.serving t (.registry action)).1 := by
  obtain ⟨held,server,registry⟩ := alike
  have owners : c.ownersAfter s action = s.owners := by
    unfold ownersAfter
    cases operation : action.operation <;> first | rfl | (rw [operation] at other; cases other)
  have tests := c.step_withTests action other s.registry _ rfl
  refine ⟨⟨?_,?_⟩,server,?_⟩
  · change NumericSplits (c.registry.step s.registry action).registry
    rw [step_registry]
    exact attempt_numericSplits c.registry action.now action.operation held.numbers
  · intro name member
    change name ∈ (c.registry.step s.registry action).registry.abTests.keys at member
    rw [tests] at member
    change ∃ owner, (c.ownersAfter s action).get? name = some owner
    rw [owners]
    exact held.owned name member
  · change (c.registry.step t.registry action).registry = _
    change _ = (c.registry.step s.registry action).registry.withTests
      ((c.registry.step s.registry action).registry.abTests.restrict (c.own (c.ownersAfter s action)))
    rw [owners,tests,step_registry,step_registry,registry,attempt_withTests c.registry action.now _ _ _ other]
    rfl

theorem same_alike (alike : c.Alike s t) (here : next.registry.registry = s.registry.registry) (owners : next.owners = s.owners)
    (server : next.server = s.server) (there : other.registry.registry = t.registry.registry) (same : other.server = t.server) :
    c.Alike next other := by
  obtain ⟨⟨numbers,owned⟩,servers,registry⟩ := alike
  refine ⟨⟨?_,?_⟩,?_,?_⟩
  · rw [here]
    exact numbers
  · rw [here,owners]
    exact owned
  · rw [same,server]
    exact servers
  · rw [there,here,registry,ownTests,ownTests,here,owners]

theorem own_set (owners : OrderedDict String String) (testName modelName name : String) :
    c.own (owners.set testName modelName) name = if name = testName then decide (modelName = c.modelName) else c.own owners name := by
  simp only [own,OrderedDict.get?_set]
  split
  · simp only [Option.some.injEq]
  · rfl

section Creation
variable {action : RegistryAction} {testName modelName versionA versionB : String} {trafficSplit : JsonValue} {sticky : Bool}

-- A creation is refused in both runs, or accepted in both with one configuration.
theorem creation_cases (operation : action.operation = .createAbTest testName modelName versionA versionB trafficSplit sticky)
    (alike : c.Alike s t) :
    ((c.registry.attempt action.now s.registry.registry action.operation).accepted = false ∧
      (c.registry.step s.registry action).registry = s.registry.registry ∧
      (c.registry.step t.registry action).registry = t.registry.registry ∧ c.ownersAfter s action = s.owners) ∨
    (∃ config split, number config.trafficSplit.val = some split ∧
      (c.registry.attempt action.now s.registry.registry action.operation).accepted = true ∧
      (c.registry.step s.registry action).registry =
        s.registry.registry.withTests (s.registry.registry.abTests.set testName config) ∧
      (c.registry.step t.registry action).registry = s.registry.registry.withTests ((c.ownTests s).set testName config) ∧
      c.ownersAfter s action = s.owners.set testName modelName) := by
  have self : s.registry.registry.withTests s.registry.registry.abTests = s.registry.registry := rfl
  rcases createAbTest_cases testName modelName versionA versionB trafficSplit sticky action.now s.registry.registry with
    ⟨e,refused⟩ | ⟨config,split,numeric,created⟩
  · have here := refused s.registry.registry.abTests
    have there := refused (c.ownTests s)
    rw [self] at here
    have rejected : (c.registry.attempt action.now s.registry.registry action.operation).accepted = false := by
      rw [operation,attempt,Attempt.forget_accepted,here]
      rfl
    refine .inl ⟨rejected,?_,?_,?_⟩
    · rw [step_registry,operation,attempt,forget_registry,here]
      rfl
    · rw [step_registry,alike.registry,operation,attempt,forget_registry,there]
      rfl
    · rw [ownersAfter,operation]
      rw [operation] at rejected
      simp only [rejected,Bool.false_eq_true,if_false]
  · have here := created s.registry.registry.abTests
    have there := created (c.ownTests s)
    rw [self] at here
    have accepted : (c.registry.attempt action.now s.registry.registry action.operation).accepted = true := by
      rw [operation,attempt,Attempt.forget_accepted,here]
      rfl
    refine .inr ⟨config,split,numeric,accepted,?_,?_,?_⟩
    · rw [step_registry,operation,attempt,forget_registry,here]
      rfl
    · rw [step_registry,alike.registry,operation,attempt,forget_registry,there]
      rfl
    · rw [ownersAfter,operation]
      rw [operation] at accepted
      simp only [accepted,if_true]

theorem held_created (held : Held s) (numeric : number config.trafficSplit.val = some split)
    (becomes : after.registry.registry = s.registry.registry.withTests (s.registry.registry.abTests.set testName config))
    (owners : after.owners = s.owners.set testName modelName) : Held after := by
  refine ⟨?_,?_⟩
  · rw [becomes]
    exact numericSplits_set held.numbers numeric
  · intro name member
    rw [becomes] at member
    rw [owners,OrderedDict.get?_set]
    split
    · exact ⟨_,rfl⟩
    · rename_i different
      rcases (OrderedDict.mem_keys_set _ _ _ _).mp member with same | kept
      · exact absurd same different
      · exact held.owned name kept

-- Whether a test is the server's own changes for the name of the creation only, and by
-- the condition not even there where a test of that name exists.
theorem own_kept (held : Held s) (compatible : ∀ owner, s.owners.get? testName = some owner → (owner = c.modelName ↔ modelName = c.modelName)) :
    ∀ name ∈ s.registry.registry.abTests.keys, c.own (s.owners.set testName modelName) name = c.own s.owners name := by
  intro name member
  rw [own_set]
  split
  · rename_i same
    obtain ⟨owner,found⟩ := held.owned name member
    rw [same] at found
    simp only [own,same,found,Option.some.injEq]
    exact decide_eq_decide.mpr (compatible owner found).symm
  · rfl

theorem foreign_created (alike : c.Alike s t)
    (operation : action.operation = .createAbTest testName modelName versionA versionB trafficSplit sticky)
    (foreign : modelName ≠ c.modelName) (isolated : c.Isolated s (.registry action)) :
    c.Alike (c.serving s (.registry action)).1 t := by
  rw [Isolated,operation] at isolated
  simp only at isolated
  have cases := c.creation_cases operation alike
  rw [operation] at cases
  rcases cases with ⟨_,same,_,owners⟩ | ⟨config,split,numeric,accepted,becomes,_,owners⟩
  · exact c.same_alike alike same owners rfl rfl rfl
  · refine ⟨held_created alike.held numeric becomes owners,alike.server,?_⟩
    change t.registry.registry = (c.registry.step s.registry action).registry.withTests
      ((c.registry.step s.registry action).registry.abTests.restrict (c.own (c.ownersAfter s action)))
    have outside : c.own (s.owners.set testName modelName) testName = false := by
      rw [own_set,if_pos rfl]
      exact decide_eq_false foreign
    have tests : (s.registry.registry.abTests.set testName config).restrict (c.own (s.owners.set testName modelName)) =
        c.ownTests s := by
      rw [OrderedDict.restrict_set_out _ outside,OrderedDict.restrict_congr _ (c.own_kept alike.held (isolated accepted))]
      rfl
    rw [becomes,owners,alike.registry]
    exact congrArg (s.registry.registry.withTests) tests.symm

theorem own_created (alike : c.Alike s t)
    (operation : action.operation = .createAbTest testName modelName versionA versionB trafficSplit sticky)
    (mine : modelName = c.modelName) (isolated : c.Isolated s (.registry action)) :
    c.Alike (c.serving s (.registry action)).1 (c.serving t (.registry action)).1 := by
  rw [Isolated,operation] at isolated
  simp only at isolated
  have cases := c.creation_cases operation alike
  rw [operation] at cases
  rcases cases with ⟨_,same,there,owners⟩ | ⟨config,split,numeric,accepted,becomes,there,owners⟩
  · exact c.same_alike alike same owners rfl there rfl
  · refine ⟨held_created alike.held numeric becomes owners,alike.server,?_⟩
    change (c.registry.step t.registry action).registry = (c.registry.step s.registry action).registry.withTests
      ((c.registry.step s.registry action).registry.abTests.restrict (c.own (c.ownersAfter s action)))
    have inside : c.own (s.owners.set testName modelName) testName = true := by
      rw [own_set,if_pos rfl]
      exact decide_eq_true mine
    have tests : (s.registry.registry.abTests.set testName config).restrict (c.own (s.owners.set testName modelName)) =
        (c.ownTests s).set testName config := by
      rw [OrderedDict.restrict_set_in _ inside,OrderedDict.restrict_congr _ (c.own_kept alike.held (isolated accepted))]
      rfl
    rw [there,becomes,owners]
    exact congrArg (s.registry.registry.withTests) tests.symm

end Creation

theorem held_ended (held : Held s) (found : s.registry.registry.abTests.get? testName = some config)
    (kept : ended.trafficSplit = config.trafficSplit)
    (becomes : after.registry.registry = s.registry.registry.withTests (s.registry.registry.abTests.set testName ended))
    (owners : after.owners = s.owners) : Held after := by
  obtain ⟨split,numeric⟩ := held.numbers testName config found
  rw [← kept] at numeric
  refine ⟨?_,?_⟩
  · rw [becomes]
    exact numericSplits_set held.numbers numeric
  · intro name member
    rw [becomes] at member
    rw [owners]
    rcases (OrderedDict.mem_keys_set _ _ _ _).mp member with rfl | old
    · exact held.owned name ((OrderedDict.mem_keys _ _).mpr ⟨config,found⟩)
    · exact held.owned name old

-- What becomes of the tests when one is ended.
theorem ended_registry (operation : action.operation = .endAbTest testName) (s : RegistryState) :
    (s.registry.abTests.get? testName = none ∧ (c.registry.step s action).registry = s.registry) ∨
    (∃ config ended, s.registry.abTests.get? testName = some config ∧
      ended = {config with isActive := false, endTime := some (action.now 0)} ∧
      (c.registry.step s action).registry = s.registry.withTests (s.registry.abTests.set testName ended)) := by
  rw [step_registry,operation,attempt,forget_registry]
  rcases endAbTest_cases testName action.now s.registry with ⟨absent,result⟩ | ⟨config,ended,found,made,result⟩
  · exact .inl ⟨absent,by rw [result]; rfl⟩
  · exact .inr ⟨config,ended,found,made,by rw [result]; rfl⟩

theorem ended_owners (operation : action.operation = .endAbTest testName) (s : Serving Nd) : c.ownersAfter s action = s.owners := by
  rw [ownersAfter,operation]

theorem foreign_ended (alike : c.Alike s t) (operation : action.operation = .endAbTest testName)
    (foreign : c.own s.owners testName = false) : c.Alike (c.serving s (.registry action)).1 t := by
  have owners := c.ended_owners operation s
  rcases c.ended_registry operation s.registry with ⟨_,same⟩ | ⟨config,ended,found,made,becomes⟩
  · exact c.same_alike alike same owners rfl rfl rfl
  · refine ⟨held_ended alike.held found (by rw [made]) becomes owners,alike.server,?_⟩
    change t.registry.registry = (c.registry.step s.registry action).registry.withTests
      ((c.registry.step s.registry action).registry.abTests.restrict (c.own (c.ownersAfter s action)))
    have tests : (s.registry.registry.abTests.set testName ended).restrict (c.own s.owners) = c.ownTests s :=
      OrderedDict.restrict_set_out _ foreign _
    rw [becomes,owners,alike.registry]
    exact congrArg (s.registry.registry.withTests) tests.symm

theorem own_ended (alike : c.Alike s t) (operation : action.operation = .endAbTest testName)
    (mine : c.own s.owners testName = true) : c.Alike (c.serving s (.registry action)).1 (c.serving t (.registry action)).1 := by
  have owners := c.ended_owners operation s
  have lookup : t.registry.registry.abTests.get? testName = s.registry.registry.abTests.get? testName := by
    rw [alike.registry]
    exact (OrderedDict.get?_restrict _ _ _).trans (if_pos mine)
  have there := c.ended_registry operation t.registry
  rw [lookup] at there
  rcases c.ended_registry operation s.registry with ⟨absent,same⟩ | ⟨config,ended,found,made,becomes⟩
  · rcases there with ⟨_,other⟩ | ⟨config,_,present,_⟩
    · exact c.same_alike alike same owners rfl other rfl
    · rw [absent] at present
      cases present
  · refine ⟨held_ended alike.held found (by rw [made]) becomes owners,alike.server,?_⟩
    change (c.registry.step t.registry action).registry = (c.registry.step s.registry action).registry.withTests
      ((c.registry.step s.registry action).registry.abTests.restrict (c.own (c.ownersAfter s action)))
    rcases there with ⟨absent,_⟩ | ⟨config',ended',found',made',becomes'⟩
    · rw [found] at absent
      cases absent
    · rw [found] at found'
      cases found'
      have one : ended' = ended := by rw [made,made']
      have tests : (s.registry.registry.abTests.set testName ended).restrict (c.own s.owners) =
          (c.ownTests s).set testName ended := OrderedDict.restrict_set_in _ mine _
      rw [becomes',becomes,owners,one,alike.registry]
      exact congrArg (s.registry.registry.withTests) tests.symm

section Routing
variable {r : Registry} {mine : String → Bool}

theorem resolve_restricted (inside : mine testName = true) :
    resolveAbAssignment c.sha256 testName userId draw (r.withTests (r.abTests.restrict mine)) =
      resolveAbAssignment c.sha256 testName userId draw r := by
  have lookup : getAbTest testName (r.withTests (r.abTests.restrict mine)) = getAbTest testName r :=
    (OrderedDict.get?_restrict _ _ _).trans (if_pos inside)
  rw [resolveAbAssignment,resolveAbAssignment,lookup]

theorem abModel_withTests (tests : OrderedDict String ABTestConfig) :
    c.abModel loader version (r.withTests tests) s = c.abModel loader version r s := rfl

theorem resolve_active (found : r.abTests.get? testName = some config) (active : config.isActive = true)
    (numeric : number config.trafficSplit.val = some split) :
    ∃ version, resolveAbAssignment c.sha256 testName userId draw r = .ok version := by
  rw [resolveAbAssignment,getAbTest,found]
  simp only [active,Bool.not_true,Bool.false_eq_true,if_false,numeric]
  exact ⟨_,rfl⟩

-- Where the first test with an offer is an own one, the others are passed over.
theorem routeTests_restricted
    (numbers : NumericSplits r) (tests : List (String × ABTestConfig)) (held : ∀ test ∈ tests, r.abTests.get? test.1 = some test.2)
    (first : ∀ test, tests.find? (fun test => (c.offer loader draw userId r s test).isSome) = some test → mine test.1 = true) :
    c.routeTests loader draw userId (r.withTests (r.abTests.restrict mine)) (tests.filter fun test => mine test.1) s =
      c.routeTests loader draw userId r tests s := by
  induction tests with
  | nil => rfl
  | cons test rest ih =>
    have later := fun test member => held test (List.mem_cons_of_mem _ member)
    have here := held test List.mem_cons_self
    obtain ⟨testName,config⟩ := test
    rw [List.find?_cons] at first
    rw [List.filter_cons,routeTests]
    cases active : config.isActive with
    | false =>
      have nothing : c.offer loader draw userId r s (testName,config) = none := by
        rw [offer]
        simp only [active,Bool.false_eq_true,if_false]
      rw [nothing] at first
      have same := ih later first
      cases inside : mine testName with
      | false => simpa only [inside,Bool.false_eq_true,if_false,Bool.not_false,if_true] using same
      | true =>
        simp only [if_true,Bool.not_false,routeTests,active]
        exact same
    | true =>
      obtain ⟨split,numeric⟩ := numbers testName config here
      obtain ⟨version,assigned⟩ : ∃ version, resolveAbAssignment c.sha256 testName userId (draw testName) r = .ok version :=
        c.resolve_active here active numeric
      simp only [Bool.not_true,Bool.false_eq_true,if_false,assigned]
      rcases provided : c.abModel loader version r s with ⟨_ | model,after⟩
      · have nothing : c.offer loader draw userId r s (testName,config) = none := by
          rw [offer]
          simp only [active,if_true,assigned,provided,Option.map_none]
        rw [nothing] at first
        have same := ih later first
        have kept : after = s := by
          have unchanged : (c.abModel loader version r s).1 = none → (c.abModel loader version r s).2 = s := c.abModel_none
          rw [provided] at unchanged
          exact unchanged rfl
        subst kept
        cases inside : mine testName with
        | false => exact same
        | true =>
          simp only [if_true,routeTests,active,Bool.not_true,Bool.false_eq_true,if_false,c.resolve_restricted inside,assigned]
          rw [c.abModel_withTests,provided]
          exact same
      · have offered : c.offer loader draw userId r s (testName,config) = some (.variant testName version model) := by
          rw [offer]
          simp only [active,if_true,assigned,provided,Option.map_some]
        rw [offered] at first
        have inside : mine testName = true := first (testName,config) rfl
        simp only [inside,if_true,routeTests,active,Bool.not_true,Bool.false_eq_true,if_false,c.resolve_restricted inside,assigned]
        rw [c.abModel_withTests,provided]

end Routing

theorem routed_alike (alike : c.Alike s t) (isolated : c.Isolated s (.serve (.predict loader draw features userId))) :
    c.routed loader draw userId t.registry.registry t.server = c.routed loader draw userId s.registry.registry s.server := by
  rw [alike.registry,alike.server]
  cases userId with
  | none => rfl
  | some userId =>
    rw [routed,routed]
    by_cases blank : userId = ""
    · simp only [blank,if_true]
    · simp only [blank,if_false]
      exact c.routeTests_restricted alike.held.numbers s.registry.registry.abTests.entries
        (fun test member => (OrderedDict.get?_entry _ _ _).mp member) (isolated blank)

theorem lookup_alike (alike : c.Alike s t) (mine : ∀ owner, s.owners.get? testName = some owner → owner = c.modelName) :
    getAbTest testName t.registry.registry = getAbTest testName s.registry.registry := by
  rw [alike.registry]
  refine (OrderedDict.get?_restrict _ _ _).trans ?_
  by_cases held : testName ∈ s.registry.registry.abTests.keys
  · obtain ⟨owner,found⟩ := alike.held.owned testName held
    have inside : c.own s.owners testName = true := by
      rw [own,found,mine owner found]
      exact decide_eq_true rfl
    rw [if_pos inside]
    rfl
  · have absent := (OrderedDict.get?_eq_none _ _).mpr held
    rw [getAbTest,absent]
    split <;> rfl

-- A call that is isolated is answered alike in both runs.
theorem answer_alike (alike : c.Alike s t) (isolated : c.Isolated s (.serve call)) :
    c.answer call t.registry.registry t.server = c.answer call s.registry.registry s.server := by
  cases call with
  | loadProductionModel loader =>
    rw [alike.registry,alike.server]
    rfl
  | loadModelVersion loader version =>
    rw [alike.registry,alike.server]
    rfl
  | hotReload loader =>
    rw [alike.registry,alike.server]
    rfl
  | loadForAbTest loader testName =>
    have lookup := c.lookup_alike alike isolated
    have same : c.loadForAbTest loader testName t.registry.registry t.server =
        c.loadForAbTest loader testName s.registry.registry s.server := by
      rw [loadForAbTest,loadForAbTest,lookup,alike.registry,alike.server]
      rfl
    rw [answer,answer,same]
  | predict loader draw features userId =>
    have route := c.routed_alike alike isolated
    have same : c.predict loader draw features userId t.registry.registry t.server =
        c.predict loader draw features userId s.registry.registry s.server := by
      rw [predict,predict,resolveModel,resolveModel,route]
    rw [answer,answer,same]

theorem foreign_step (alike : c.Alike s t) (isolated : c.Isolated s action) (foreign : c.foreign s action = true) :
    c.Alike (c.serving s action).1 t ∧ (c.serving s action).2 = [] := by
  cases action with
  | serve call => cases foreign
  | registry action =>
    refine ⟨?_,rfl⟩
    have hidden := foreign
    rw [ModelServer.foreign] at hidden
    cases operation : action.operation with
    | createAbTest testName modelName versionA versionB trafficSplit sticky =>
      rw [operation] at hidden
      exact c.foreign_created alike operation (of_decide_eq_true hidden) isolated
    | endAbTest testName =>
      rw [operation] at hidden
      exact c.foreign_ended alike operation (Bool.not_eq_true' _ ▸ hidden)
    | registerModel args artifact =>
      rw [operation] at hidden
      cases hidden
    | promoteModel name version target promotedBy =>
      rw [operation] at hidden
      cases hidden
    | rollbackModel name promotedBy =>
      rw [operation] at hidden
      cases hidden

theorem common_step (alike : c.Alike s t) (isolated : c.Isolated s action) (common : c.foreign s action = false) :
    c.Alike (c.serving s action).1 (c.serving t action).1 ∧ (c.serving s action).2 = (c.serving t action).2 := by
  cases action with
  | serve call =>
    have same := c.answer_alike alike isolated
    refine ⟨⟨⟨alike.held.numbers,alike.held.owned⟩,?_,alike.registry⟩,?_⟩
    · exact congrArg Prod.fst same
    · exact congrArg (fun answer => [answer.2]) same.symm
  | registry action =>
    refine ⟨?_,rfl⟩
    rw [ModelServer.foreign] at common
    cases operation : action.operation with
    | createAbTest testName modelName versionA versionB trafficSplit sticky =>
      rw [operation] at common
      exact c.own_created alike operation (not_not.mp (of_decide_eq_false common)) isolated
    | endAbTest testName =>
      rw [operation] at common
      exact c.own_ended alike operation (Bool.not_eq_false' _ ▸ common)
    | registerModel args artifact => exact c.other_alike alike action (by rw [operation]; rfl)
    | promoteModel name version target promotedBy => exact c.other_alike alike action (by rw [operation]; rfl)
    | rollbackModel name promotedBy => exact c.other_alike alike action (by rw [operation]; rfl)

theorem isolated_sim (isolated : Runs.Along (Purging.next c.serving) c.Isolated unserved actions) :
    Purging.outputs c.serving unserved actions =
        Purging.outputs c.serving unserved (Purging.purged c.serving c.foreign unserved actions) ∧
      c.Alike (c.reached actions) (c.reached (Purging.purged c.serving c.foreign unserved actions)) := by
  have locally : ∀ s t action, c.Alike s t → c.Isolated s action → c.foreign s action = true →
      c.Alike (c.serving s action).1 t ∧ (c.serving s action).2 = [] :=
    fun _ _ _ alike here foreign => c.foreign_step alike here foreign
  have both : ∀ s t action, c.Alike s t → c.Isolated s action → c.foreign s action = false →
      c.Alike (c.serving s action).1 (c.serving t action).1 ∧ (c.serving s action).2 = (c.serving t action).2 :=
    fun _ _ _ alike here common => c.common_step alike here common
  exact Purging.purged_sim locally both c.unserved_alike isolated

-- The model that a request is routed to: the primary, or the server's model of a version
-- that an active test of the server's own model assigns to the user.
def Routed (s : Serving Nd) (loader : ModelLoader Nd) (draw : String → Rat) (userId : Option String) : Candidate Nd → Prop
  | .variant testName version model =>
    s.owners.get? testName = some c.modelName ∧
      ∃ user config, userId = some user ∧ s.registry.registry.abTests.get? testName = some config ∧ config.isActive = true ∧
        resolveAbAssignment c.sha256 testName user (draw testName) s.registry.registry = .ok version ∧
        (c.abModel loader version s.registry.registry s.server).1 = some model
  | .primary installed => s.server.primary = some installed
  | .fallback _ => False

-- A prediction is made by the model the request is routed to, or by the fallback after
-- that model failed.
def PrimaryUnlessOwn (s : Serving Nd) (loader : ModelLoader Nd) (draw : String → Rat) (features : Nd) (userId : Option String) :
    Prop :=
  ∀ candidate predictions, (c.predict loader draw features userId s.registry.registry s.server).1 = .ok (candidate,predictions) →
    ∃ selected, c.Routed s loader draw userId selected ∧
      (candidate = selected ∨
        (∃ installed, candidate = .fallback installed) ∧ ∃ e, c.tryModel selected.model features = .error e)

theorem routed_own (isolated : c.Isolated s (.serve (.predict loader draw features userId)))
    (resolved : (c.resolveModel loader draw userId s.registry.registry s.server).1 = .ok (some selected)) :
    c.Routed s loader draw userId selected := by
  rcases c.resolveModel_cases resolved with ⟨user,test,candidate,rfl,named,first,offered,same⟩ | ⟨_,same⟩
  · cases same
    have mine := of_decide_eq_true (isolated named test first)
    obtain ⟨active,version,model,rfl,assigned,provided⟩ := c.offer_cases offered
    have held := (OrderedDict.get?_entry _ _ _).mp (List.mem_of_find?_eq_some first)
    exact ⟨mine,user,test.2,rfl,held,active,assigned,provided⟩
  · obtain ⟨installed,primary,rfl⟩ := Option.map_eq_some_iff.mp same.symm
    exact primary

-- In every run whose steps are isolated, a prediction of the server is made by its
-- primary model unless an active test of its own model assigned the user to another,
-- and the server answers as if no test of another model had ever been made or ended.
theorem ab_tests_isolated (c : ModelServer Nd) (actions : List (ServingAction Nd))
    (isolated : Runs.Along (Purging.next c.serving) c.Isolated unserved actions) :
    (∀ earlier loader draw features userId later, actions = earlier ++ .serve (.predict loader draw features userId) :: later →
      c.PrimaryUnlessOwn (c.reached earlier) loader draw features userId) ∧
    Purging.outputs c.serving unserved actions =
      Purging.outputs c.serving unserved (Purging.purged c.serving c.foreign unserved actions) := by
  refine ⟨?_,(c.isolated_sim isolated).1⟩
  intro earlier loader draw features userId later split candidate predictions made
  rw [split] at isolated
  have here : c.Isolated (c.reached earlier) (.serve (.predict loader draw features userId)) := Runs.along_at isolated
  obtain ⟨selected,resolved,⟨same,_⟩ | ⟨failed,installed,_,same⟩⟩ := c.predict_candidate made
  · exact ⟨selected,c.routed_own here resolved,.inl same⟩
  · exact ⟨selected,c.routed_own here resolved,.inr ⟨⟨installed,same⟩,failed⟩⟩

-- A server of the model "fraud" over text.
def fraudServer : ModelServer String where
  registry := digits
  modelName := "fraud"
  sha256 text :=
    if text = "churn-trial:u1" then 21033335283762398614823876024806433525892210442094506606398003479011667192280
    else 109446491631498527449299427817666586927658751088265324983925199403932363043213
  column _ scores := .ok scores
  asarray scores := .ok scores

def stored (name version : String) : ServingAction String :=
  .registry (saving (.registerModel ⟨name,version,name ++ "/" ++ version,"xgboost",none,none,none,"",none,"",none⟩ ⟨.ok (),.ok ""⟩))

def tried (testName modelName version : String) : ServingAction String :=
  .registry (saving (.createAbTest testName modelName version version allTraffic true))

def scored : List (ServingAction String) :=
  [.registry (saving (.promoteModel "fraud" "1.0.0" .production "system")),
    .serve (.loadProductionModel pathLoader),.serve (.predict pathLoader (fun _ => 0) "" (some "u1"))]

def bothTried : List (ServingAction String) :=
  [stored "fraud" "1.0.0",stored "fraud" "2.0.0",stored "churn" "9.0.0",
    tried "churn-trial" "churn" "9.0.0",tried "fraud-trial" "fraud" "2.0.0"] ++ scored

def churnTried : List (ServingAction String) :=
  [stored "fraud" "1.0.0",stored "fraud" "2.0.0",stored "churn" "2.0.0",tried "churn-trial" "churn" "2.0.0"] ++ scored

theorem bothTried_isolated : Runs.Along (Purging.next fraudServer.serving) fraudServer.Isolated unserved bothTried := by
  refine ⟨trivial,trivial,trivial,?_,?_,trivial,trivial,?_,trivial⟩
  · intro _ owner found
    cases found
  · intro _ owner found
    have fresh : (fraudServer.reached (bothTried.take 4)).owners.get? "fraud-trial" = none := by decide +kernel
    exact absurd (fresh.symm.trans found) (by simp)
  · intro _ test first
    have name : ((fraudServer.reached (bothTried.take 7)).registry.registry.abTests.entries.find? (fun test =>
        (fraudServer.offer pathLoader (fun _ => 0) "u1" (fraudServer.reached (bothTried.take 7)).registry.registry
          (fraudServer.reached (bothTried.take 7)).server test).isSome)).map Prod.fst = some "fraud-trial" := by decide +kernel
    have same : (some test).map Prod.fst = some "fraud-trial" := (congrArg (Option.map Prod.fst) first).symm.trans name
    rw [Option.map_some,Option.some.injEq] at same
    rw [same]
    decide +kernel

theorem ab_tests_isolated_both :
    fraudServer.PrimaryUnlessOwn (fraudServer.reached (bothTried.take 7)) pathLoader (fun _ => 0) "" (some "u1") ∧
      Purging.outputs fraudServer.serving unserved bothTried =
        Purging.outputs fraudServer.serving unserved (Purging.purged fraudServer.serving fraudServer.foreign unserved bothTried) :=
  ⟨(ab_tests_isolated fraudServer bothTried bothTried_isolated).1 (bothTried.take 7) _ _ _ _ [] rfl,
    (ab_tests_isolated fraudServer bothTried bothTried_isolated).2⟩

-- A test made for "churn" sends a user of "fraud" to a version of "fraud" that was never
-- promoted.
theorem foreign_test_reroutes :
    ¬fraudServer.PrimaryUnlessOwn (fraudServer.reached (churnTried.take 6)) pathLoader (fun _ => 0) "" (some "u1") ∧
      Purging.outputs fraudServer.serving unserved churnTried = [.loaded (.ok true),.predicted (.ok "fraud/2.0.0")] ∧
      Purging.outputs fraudServer.serving unserved (Purging.purged fraudServer.serving fraudServer.foreign unserved churnTried) =
        [.loaded (.ok true),.predicted (.ok "fraud/1.0.0")] := by
  refine ⟨?_,by decide +kernel,by decide +kernel⟩
  intro claimed
  have owner : (fraudServer.reached (churnTried.take 6)).owners.get? "churn-trial" = some "churn" := by decide +kernel
  have made : (fraudServer.predict pathLoader (fun _ => 0) "" (some "u1") (fraudServer.reached (churnTried.take 6)).registry.registry
      (fraudServer.reached (churnTried.take 6)).server).1 =
      .ok (.variant "churn-trial" "2.0.0" (pathModel "fraud/2.0.0"),"fraud/2.0.0") := by with_unfolding_all rfl
  obtain ⟨selected,routed,rfl | ⟨⟨_,absurdity⟩,_⟩⟩ := claimed _ _ made
  · exact absurd (owner.symm.trans routed.1) (by decide)
  · cases absurdity

end ModelServer
end RiskPulse
