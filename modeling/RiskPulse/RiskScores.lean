import RiskPulse.ModelServer
import RiskPulse.RegistryStages

namespace RiskPulse

-- customer_id has at least one character, which the request's schema checks.
structure RiskScoreRequest where
  transactionId : String
  customerId : String
  identified : customerId ≠ ""

structure RiskScoreResponse where
  transactionId : String
  riskScore : Rat
  riskLevel : String
  confidence : Rat
  modelVersion : String
  abTestVariant : Option String

inductive RiskScoreError where
  | serviceUnavailable (detail : String)
  | internal (message : String)

-- score is float(predictions[0]), or float(predictions) of an array without dimensions.
structure RiskScores (Nd : Type) where
  server : ModelServer Nd
  score : Nd → Except String Rat
  round : Rat → Nat → Rat

namespace RiskScores
variable {Nd : Type} (c : RiskScores Nd)

def classifyRisk (score : Rat) : String :=
  if 0.95 ≤ score then "critical"
  else if 0.8 ≤ score then "high"
  else if 0.5 ≤ score then "medium"
  else if 0.3 ≤ score then "low"
  else "minimal"

def computeConfidence (score : Rat) : Rat := c.round (2 * |score - 0.5|) 4

def getActiveAbTests (registry : Option Registry) : List String :=
  match registry with
  | none => []
  | some r => (r.abTests.entries.filter fun test => test.2.isActive).map Prod.fst

-- The first active test of the application's registry, if there is one.
def abVariant (draw : Rat) (userId : String) (registry : Option Registry) : Except ModelRegistryError (Option String) :=
  match registry with
  | none => .ok none
  | some r =>
    match getActiveAbTests registry with
    | [] => .ok none
    | testName :: _ => (ModelRegistry.resolveAbAssignment c.server.sha256 testName userId draw r).map some

def respond (request : RiskScoreRequest) (score : Rat) (modelVersion : String) (abTestVariant : Option String) :
    Except RiskScoreError RiskScoreResponse :=
  let riskScore := c.round score 6
  let confidence := c.computeConfidence score
  if 0 ≤ riskScore ∧ riskScore ≤ 1 ∧ 0 ≤ confidence ∧ confidence ≤ 1 then
    .ok ⟨request.transactionId,riskScore,classifyRisk score,confidence,modelVersion,abTestVariant⟩
  else .error (.internal "1 validation error for RiskScoreResponse")

-- r is the server's registry, and registry that of the application. A response comes with
-- the model that the score was computed with, which it does not hold. The random numbers
-- that the two resolutions draw are not the same.
def predictRiskScore (loader : ModelLoader Nd) (drawHere : Rat) (draw : String → Rat) (features : Nd) (request : RiskScoreRequest)
    (registry : Option Registry) (r : Registry) (s : ModelServerState Nd) :
    Except RiskScoreError (RiskScoreResponse × Candidate Nd) :=
  match c.abVariant drawHere request.customerId registry with
  | .error _ => .error (.internal "resolve_ab_assignment")
  | .ok variant =>
    match c.server.predict loader draw features (some request.customerId) r s with
    | (.error (.runtimeError detail),_) => .error (.serviceUnavailable detail)
    | (.error (.registry _),_) => .error (.internal "resolve_ab_assignment")
    | (.ok (candidate,predictions),t) =>
      match c.score predictions with
      | .error message => .error (.internal message)
      | .ok score => (c.respond request score t.activeVersion variant).map fun response => (response,candidate)

theorem respond_cases (responded : c.respond request given modelVersion variant = .ok response) :
    response.modelVersion = modelVersion ∧ response.abTestVariant = variant := by
  unfold respond at responded
  simp only at responded
  split at responded
  · cases responded
    exact ⟨rfl,rfl⟩
  · cases responded

theorem predictRiskScore_cases
    (returned : c.predictRiskScore loader drawHere draw features request registry r s = .ok (response,candidate)) :
    ∃ variant predictions, c.abVariant drawHere request.customerId registry = .ok variant ∧
      (c.server.predict loader draw features (some request.customerId) r s).1 = .ok (candidate,predictions) ∧
      response.abTestVariant = variant ∧ response.modelVersion = s.activeVersion := by
  rw [predictRiskScore] at returned
  cases variant : c.abVariant drawHere request.customerId registry with
  | error e =>
    rw [variant] at returned
    cases returned
  | ok assigned =>
    rw [variant] at returned
    simp only at returned
    have frame := c.server.predict_frame loader draw features (some request.customerId) r s
    rcases made : c.server.predict loader draw features (some request.customerId) r s with ⟨(detail | e) | ⟨other,predictions⟩,t⟩
    · rw [made] at returned
      cases returned
    · rw [made] at returned
      cases returned
    · rw [made] at returned frame
      simp only at returned
      cases scored : c.score predictions with
      | error message =>
        rw [scored] at returned
        cases returned
      | ok score =>
        rw [scored] at returned
        simp only at returned
        cases responded : c.respond request score t.activeVersion assigned with
        | error e =>
          rw [responded] at returned
          cases returned
        | ok made =>
          rw [responded] at returned
          cases returned
          obtain ⟨version,reported⟩ := c.respond_cases responded
          refine ⟨assigned,predictions,rfl,rfl,reported,version.trans ?_⟩
          rw [ModelServerState.activeVersion,ModelServerState.activeVersion,frame.1]

-- What the response says of the model: that it is an A/B variant and of which version,
-- or that it is none and the version of the primary or of the fallback.
def Identifies (response : RiskScoreResponse) : Candidate Nd → Prop
  | .variant _ version _ => response.abTestVariant = some version
  | .primary installed => response.abTestVariant = none ∧ response.modelVersion = installed.metadata.version
  | .fallback installed => response.abTestVariant = none ∧ response.modelVersion = installed.metadata.version

def Answers (model : LoadedModel Nd) (features : Nd) : Prop := ∃ predictions, c.server.tryModel model features = .ok predictions

-- The first active test of the application's registry assigns the version.
def Assigns (drawHere : Rat) (userId : String) (registry : Option Registry) (version : String) : Prop :=
  ∃ app testName rest, registry = some app ∧ getActiveAbTests registry = testName :: rest ∧
    ModelRegistry.resolveAbAssignment c.server.sha256 testName userId drawHere app = .ok version

-- The server's first test with a model for the user assigns what the application's first
-- test assigns, and that model does not fail; or no test has a model for the user, none
-- is active in the application, and the primary does not fail. Where a model fails, the
-- fallback happens to be of the version that the server calls active.
def Agreed (loader : ModelLoader Nd) (drawHere : Rat) (draw : String → Rat) (features : Nd) (userId : String)
    (registry : Option Registry) (r : Registry) (s : ModelServerState Nd) : Prop :=
  let fallbackNamed := ∀ fallback, s.fallback = some fallback → fallback.metadata.version = s.activeVersion
  match r.abTests.entries.find? fun test => (c.server.offer loader draw userId r s test).isSome with
  | some test => ∃ version model,
    ModelRegistry.resolveAbAssignment c.server.sha256 test.1 userId (draw test.1) r = .ok version ∧
      (c.server.abModel loader version r s).1 = some model ∧
      (c.Answers model features → c.Assigns drawHere userId registry version) ∧
      (¬c.Answers model features → getActiveAbTests registry = [] ∧ fallbackNamed)
  | none => getActiveAbTests registry = [] ∧
    ∀ installed, s.primary = some installed → ¬c.Answers installed.model features → fallbackNamed

-- What the endpoint says of the variant.
theorem abVariant_cases (variant : c.abVariant drawHere userId registry = .ok found) :
    (found = none ∧ getActiveAbTests registry = []) ∨
      ∃ app testName rest version, registry = some app ∧ getActiveAbTests registry = testName :: rest ∧
        ModelRegistry.resolveAbAssignment c.server.sha256 testName userId drawHere app = .ok version ∧ found = some version := by
  cases registry with
  | none =>
    cases variant
    exact .inl ⟨rfl,rfl⟩
  | some app =>
    rw [abVariant] at variant
    cases active : getActiveAbTests (some app) with
    | nil =>
      rw [active] at variant
      cases variant
      exact .inl ⟨rfl,rfl⟩
    | cons testName rest =>
      rw [active] at variant
      simp only at variant
      cases assigned : ModelRegistry.resolveAbAssignment c.server.sha256 testName userId drawHere app with
      | error e =>
        rw [assigned] at variant
        cases variant
      | ok version =>
        rw [assigned] at variant
        cases variant
        exact .inr ⟨app,testName,rest,version,rfl,rfl,assigned,rfl⟩

theorem variant_none (variant : c.abVariant drawHere userId registry = .ok found) :
    found = none ↔ getActiveAbTests registry = [] := by
  rcases c.abVariant_cases variant with ⟨rfl,none⟩ | ⟨app,testName,rest,version,_,active,_,rfl⟩
  · exact ⟨fun _ => none,fun _ => rfl⟩
  · refine ⟨(fun absurdity => by cases absurdity),?_⟩
    intro none
    rw [none] at active
    cases active

theorem variant_some (variant : c.abVariant drawHere userId registry = .ok found) (version : String) :
    found = some version ↔ c.Assigns drawHere userId registry version := by
  rcases c.abVariant_cases variant with ⟨rfl,none⟩ | ⟨app,testName,rest,assigned,same,active,resolved,rfl⟩
  · refine ⟨(fun absurdity => by cases absurdity),?_⟩
    intro given
    obtain ⟨_,_,_,_,active,_⟩ := given
    rw [none] at active
    cases active
  · constructor
    · intro equal
      cases equal
      exact ⟨app,testName,rest,same,active,resolved⟩
    · intro given
      obtain ⟨other,name,others,equal,first,given⟩ := given
      rw [same] at equal
      cases equal
      rw [active] at first
      cases first
      rw [resolved] at given
      cases given
      rfl

theorem not_answers (failed : ∃ e, c.server.tryModel model features = .error e) : ¬c.Answers model features := by
  intro given
  obtain ⟨predictions,made⟩ := given
  obtain ⟨e,failed⟩ := failed
  rw [made] at failed
  cases failed

theorem fallback_identified {response : RiskScoreResponse} {s : ModelServerState Nd}
    (absent : response.abTestVariant = none ↔ getActiveAbTests registry = [])
    (active : response.modelVersion = s.activeVersion) (held : s.fallback = some installed) :
    Identifies response (.fallback installed : Candidate Nd) ↔
      getActiveAbTests registry = [] ∧ ∀ fallback, s.fallback = some fallback → fallback.metadata.version = s.activeVersion := by
  constructor
  · intro given
    obtain ⟨unreported,version⟩ := given
    refine ⟨absent.mp unreported,?_⟩
    intro fallback other
    rw [held] at other
    cases other
    exact version.symm.trans active
  · intro given
    obtain ⟨none,named⟩ := given
    exact ⟨absent.mpr none,active.trans (named installed held).symm⟩

-- Whenever the endpoint returns a score, the response identifies the model that computed
-- it exactly when the two resolutions agree and the model they are about does not fail.
theorem reported_identity (c : RiskScores Nd)
    (returned : c.predictRiskScore loader drawHere draw features request registry r s = .ok (response,candidate)) :
    Identifies response candidate ↔ c.Agreed loader drawHere draw features request.customerId registry r s := by
  obtain ⟨variant,predictions,reported,made,same,active⟩ := c.predictRiskScore_cases returned
  have absent := c.variant_none reported
  have assigns := c.variant_some reported
  rw [← same] at absent assigns
  obtain ⟨selected,resolved,answered⟩ := c.server.predict_candidate made
  unfold Agreed
  simp only
  rcases c.server.resolveModel_cases resolved with ⟨user,test,found,own,_,first,offered,equal⟩ | ⟨nothing,equal⟩
  · cases own
    cases equal
    obtain ⟨_,version,model,rfl,assigned,provided⟩ := c.server.offer_cases offered
    rw [first]
    rcases answered with ⟨rfl,tried⟩ | ⟨failed,installed,held,rfl⟩
    · constructor
      · intro identified
        exact ⟨version,model,assigned,provided,fun _ => (assigns version).mp identified,
          fun fails => absurd ⟨predictions,tried⟩ fails⟩
      · intro given
        obtain ⟨v,m,assignedHere,providedHere,agrees,_⟩ := given
        rw [assigned] at assignedHere
        cases assignedHere
        rw [provided] at providedHere
        cases providedHere
        exact (assigns version).mpr (agrees ⟨predictions,tried⟩)
    · rw [fallback_identified absent active held]
      have fails := c.not_answers failed
      constructor
      · intro named
        exact ⟨version,model,assigned,provided,fun answers => absurd answers fails,fun _ => named⟩
      · intro given
        obtain ⟨v,m,assignedHere,providedHere,_,named⟩ := given
        rw [assigned] at assignedHere
        cases assignedHere
        rw [provided] at providedHere
        cases providedHere
        exact named fails
  · obtain ⟨primary,held,rfl⟩ := Option.map_eq_some_iff.mp equal.symm
    have nowhere : r.abTests.entries.find? (fun test => (c.server.offer loader draw request.customerId r s test).isSome) = none := by
      rw [List.find?_eq_none]
      intro test member
      rw [nothing request.customerId rfl request.identified test member]
      simp
    rw [nowhere]
    rcases answered with ⟨rfl,tried⟩ | ⟨failed,installed,loaded,rfl⟩
    · constructor
      · intro given
        obtain ⟨unreported,_⟩ := given
        refine ⟨absent.mp unreported,?_⟩
        intro installed other fails
        rw [held] at other
        cases other
        exact absurd ⟨predictions,tried⟩ fails
      · intro given
        obtain ⟨none,_⟩ := given
        refine ⟨absent.mpr none,?_⟩
        rw [active,ModelServerState.activeVersion,held]
    · rw [fallback_identified absent active loaded]
      constructor
      · intro given
        obtain ⟨none,named⟩ := given
        exact ⟨none,fun _ _ _ => named⟩
      · intro given
        obtain ⟨none,named⟩ := given
        exact ⟨none,named primary held (c.not_answers failed)⟩

-- Version 1.0.0 is in production and a test assigns every user to 2.0.0.
def trialRegistry : Registry := (ModelRegistry.digits.reached ([
  .registerModel ⟨"fraud","1.0.0","models/1","xgboost",none,none,none,"",none,"",none⟩ ⟨.ok (),.ok ""⟩,
  .registerModel ⟨"fraud","2.0.0","models/2","xgboost",none,none,none,"",none,"",none⟩ ⟨.ok (),.ok ""⟩,
  .promoteModel "fraud" "1.0.0" .production "system",
  .createAbTest "trial" "fraud" "2.0.0" "2.0.0" ModelRegistry.allTraffic true].map ModelRegistry.saving)).registry

def quarter : LoadedModel Rat := ⟨none,none,fun _ => .ok (1 / 4)⟩

def bothLoad : ModelLoader Rat := fun _ => .ok (some quarter)

def oneLoads : ModelLoader Rat := fun path => if path = "models/1" then .ok (some quarter) else .error "Model file not found"

def fraudScores : RiskScores Rat where
  server := {
    registry := ModelRegistry.digits
    modelName := "fraud"
    sha256 _ := 91815123859601419896697055189116436967334032483442969127627423662226343823572
    column _ scores := .ok scores
    asarray scores := .ok scores }
  score predictions := .ok predictions
  round score _ := score

def scoredRequest : RiskScoreRequest := ⟨"t1","c1",by decide⟩

def scoredBy (loader : ModelLoader Rat) : Except RiskScoreError (RiskScoreResponse × Candidate Rat) :=
  fraudScores.predictRiskScore loader 0 (fun _ => 0) 0 scoredRequest (some trialRegistry) trialRegistry
    (fraudScores.server.loadProductionModel bothLoad trialRegistry .empty).2

theorem reported_identity_loaded : ∃ response candidate, scoredBy bothLoad = .ok (response,candidate) ∧
    (Identifies response candidate ↔ fraudScores.Agreed bothLoad 0 (fun _ => 0) 0 scoredRequest.customerId (some trialRegistry) trialRegistry
      (fraudScores.server.loadProductionModel bothLoad trialRegistry .empty).2) := by
  have found : (scoredBy bothLoad).toOption.isSome = true := by decide +kernel
  cases made : scoredBy bothLoad with
  | error e =>
    rw [made] at found
    cases found
  | ok result =>
    obtain ⟨response,candidate⟩ := result
    have identity := reported_identity fraudScores made
    exact ⟨response,candidate,rfl,identity⟩

def primaryVersion : Candidate Rat → Option String
  | .primary installed => some installed.metadata.version
  | _ => none

-- The artifact of 2.0.0 cannot be loaded: the primary computes the score, and the
-- response says that the variant 2.0.0 did.
theorem unloaded_variant_reported : ∃ response candidate, scoredBy oneLoads = .ok (response,candidate) ∧
    (∃ installed, candidate = .primary installed ∧ installed.metadata.version = "1.0.0") ∧
      response.abTestVariant = some "2.0.0" ∧ ¬Identifies response candidate := by
  have found : (scoredBy oneLoads).toOption.map (fun found => (found.1.abTestVariant,primaryVersion found.2)) =
      some (some "2.0.0",some "1.0.0") := by decide +kernel
  cases made : scoredBy oneLoads with
  | error e =>
    rw [made] at found
    cases found
  | ok result =>
    obtain ⟨response,candidate⟩ := result
    rw [made] at found
    obtain ⟨reported,version⟩ := Prod.mk.inj (Option.some.inj found)
    cases candidate with
    | variant => cases version
    | fallback => cases version
    | primary installed =>
      refine ⟨response,_,rfl,⟨installed,rfl,Option.some.inj version⟩,reported,?_⟩
      intro given
      obtain ⟨unreported,_⟩ := given
      exact absurd (reported.symm.trans unreported) (by simp)

end RiskScores
end RiskPulse
