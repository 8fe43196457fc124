import RiskPulse.BatchScoring
import RiskPulse.Library.Runs

namespace RiskPulse

def ModelDirectory.empty : ModelDirectory := ⟨none,none,none,none⟩

namespace RiskScorer

-- Saves into one directory, each by a scorer of its own.
def savedBy (directory : ModelDirectory) (save : RiskScorer × SaveModel) : ModelDirectory := save.1.saveModel directory save.2

def saved (saves : List (RiskScorer × SaveModel)) : ModelDirectory := Runs.run savedBy .empty saves

def namesOf (call : SaveModel) : List String := call.featureNames.getD featureCatalog

-- The three bounds that a score is compared with.
def SameBounds (first second : RiskScorer) : Prop :=
  first.thresholds.getD "critical" (.finite (95 / 100)) = second.thresholds.getD "critical" (.finite (95 / 100)) ∧
    first.thresholds.getD "high" (.finite (8 / 10)) = second.thresholds.getD "high" (.finite (8 / 10)) ∧
    first.thresholds.getD "medium" (.finite (1 / 2)) = second.thresholds.getD "medium" (.finite (1 / 2))

-- A scorer that uses what the save was given.
def withSave (loader saver : RiskScorer) (call : SaveModel) : RiskScorer :=
  {loader with
    thresholds := saver.thresholds
    artifact := some {
      model := call.model
      scaler := call.scaler
      calibrator := call.calibrator
      featureNames := namesOf call
      modelVersion := call.modelVersion.getD (saver.computeVersion call.model)
      modelType := call.modelType
      thresholds := saver.thresholds } }

structure Restored (loaded saver : RiskScorer) (call : SaveModel) : Prop where
  artifact : ∃ a, loaded.artifact = some a ∧ a.model = call.model ∧ a.scaler = call.scaler ∧ a.calibrator = call.calibrator ∧
    a.featureNames = namesOf call
  bounds : SameBounds loaded saver

-- The last save leaves no file of an earlier one in place, its feature names are stored as
-- given, and the loader has its thresholds.
structure Restorable (loader : RiskScorer) (earlier : List (RiskScorer × SaveModel)) (saver : RiskScorer) (call : SaveModel) : Prop where
  scaler : call.scaler = none → ∀ save ∈ earlier, save.2.scaler = none
  calibrator : call.calibrator = none → ∀ save ∈ earlier, save.2.calibrator = none
  names : call.extraMetadata.featureNames = none → call.featureNames ≠ some []
  extra : ∀ names, call.extraMetadata.featureNames = some names → names = namesOf call
  bounds : SameBounds loader saver

theorem orElse_none (first second : Option α) : (first <|> second) = first ↔ (first = none → second = none) := by
  cases first with
  | none => simp
  | some a => simp

-- A file that no save writes is not there, and one that a save wrote stays.
theorem saved_file {file : ModelDirectory → Option α} {given : SaveModel → Option α} (start : file .empty = none)
    (written : ∀ directory save, file (savedBy directory save) = (given save.2 <|> file directory)) (saves : List (RiskScorer × SaveModel)) :
    file (saved saves) = none ↔ ∀ save ∈ saves, given save.2 = none := by
  induction saves using List.reverseRecOn with
  | nil => exact ⟨fun _ => List.forall_mem_nil _,fun _ => start⟩
  | append_singleton earlier save ih =>
    unfold saved at ih ⊢
    have last : file (Runs.run savedBy .empty (earlier ++ [save])) = (given save.2 <|> file (Runs.run savedBy .empty earlier)) := by
      rw [Runs.run_append]
      exact written _ save
    rw [last,List.forall_mem_append,List.forall_mem_singleton,← ih,and_comm]
    exact Option.orElse_eq_none ..

theorem same_level {first second : RiskScorer} (bounds : SameBounds first second) (score : PyFloat) :
    first.classifyRisk score = second.classifyRisk score := by
  unfold classifyRisk
  rw [bounds.1,bounds.2.1,bounds.2.2]

def scored (r : RiskScore) : PyFloat × String := (r.riskScore,r.riskLevel)

theorem same_scores {s t : RiskScorer} {a b : ModelArtifact} (held : s.artifact = some a) (other : t.artifact = some b)
    (store : s.featureStore = t.featureStore) (explain : s.explainPrediction = t.explainPrediction)
    (names : a.featureNames = b.featureNames) (scale : a.scale = b.scale) (model : a.model = b.model)
    (calibrate : a.calibrateScore = b.calibrateScore) (bounds : SameBounds s t) (txn : Record) :
    (s.predict txn).map scored = (t.predict txn).map scored := by
  unfold predict requireArtifact
  rw [held,other]
  simp only [bind,Except.bind,store,explain,names,scale,model,calibrate]
  cases t.featureStore.getFeatures (txn.getD "transaction_id" (txn.getD "external_transaction_id" (.str "unknown")))
      (txn.getD "customer_id" (.str "unknown")) txn with
  | error e => rfl
  | ok fv =>
    simp only
    cases b.scale (fv.toArray b.featureNames) with
    | error e => rfl
    | ok x =>
      simp only
      cases b.model.getRawScore x with
      | error e => rfl
      | ok raw =>
        simp only
        cases t.explainPrediction x fv with
        | error e => rfl
        | ok top =>
          simp only [Except.map,pure,Except.pure,scored]
          rw [same_level bounds]

variable {loader saver : RiskScorer} {call : SaveModel}

-- A scorer restored from the save scores as one that uses what the save was given.
theorem restored_scores {a : ModelArtifact} (restored : Restored {loader with artifact := some a} saver call) (txn : Record) :
    ({loader with artifact := some a}.predict txn).map scored = ((loader.withSave saver call).predict txn).map scored := by
  obtain ⟨b,held,model,scaler,calibrator,names⟩ := restored.artifact
  cases held
  let restoredScorer : RiskScorer := {loader with artifact := some a}
  refine same_scores (s := restoredScorer) (t := loader.withSave saver call) rfl rfl rfl rfl names ?_ model ?_ restored.bounds txn
  · funext x
    unfold ModelArtifact.scale
    rw [scaler]
  · funext raw x
    unfold ModelArtifact.calibrateScore
    rw [calibrator]

-- The feature names in the metadata of a save.
theorem restored_names (call : SaveModel) :
    (call.extraMetadata.featureNames <|> some ((call.featureNames.filter fun names => names ≠ []).getD featureCatalog)).getD featureCatalog =
        namesOf call ↔
      (call.extraMetadata.featureNames = none → call.featureNames ≠ some []) ∧
        ∀ names, call.extraMetadata.featureNames = some names → names = namesOf call := by
  cases call.extraMetadata.featureNames with
  | some names => simp
  | none =>
    unfold namesOf
    cases call.featureNames with
    | none => simp
    | some names =>
      cases names with
      | nil => simp [Option.filter,featureCatalog]
      | cons name rest => simp [Option.filter]

theorem save_load (loader saver : RiskScorer) (earlier : List (RiskScorer × SaveModel)) (call : SaveModel) :
    ∃ loaded, loader.loadModel (some (saved (earlier ++ [(saver,call)]))) = .ok loaded ∧
      (Restored loaded saver call ↔ Restorable loader earlier saver call) ∧
      (Restorable loader earlier saver call → ∀ txn,
        (loaded.predict txn).map scored = ((loader.withSave saver call).predict txn).map scored) := by
  have last : saved (earlier ++ [(saver,call)]) = saver.saveModel (saved earlier) call := Runs.run_append ..
  have scaler : (call.scaler <|> (saved earlier).scaler) = call.scaler ↔ (call.scaler = none → ∀ save ∈ earlier, save.2.scaler = none) := by
    rw [orElse_none,saved_file rfl fun _ _ => rfl]
  have calibrator : (call.calibrator <|> (saved earlier).calibrator) = call.calibrator ↔
      (call.calibrator = none → ∀ save ∈ earlier, save.2.calibrator = none) := by
    rw [orElse_none,saved_file rfl fun _ _ => rfl]
  rw [last]
  refine ⟨_,rfl,?_,?_⟩
  · constructor
    · intro restored
      obtain ⟨a,held,_,first,second,names⟩ := restored.artifact
      cases held
      have kept := (restored_names call).mp names
      exact ⟨scaler.mp first,calibrator.mp second,kept.1,kept.2,restored.bounds⟩
    · intro given
      exact ⟨⟨_,rfl,rfl,scaler.mpr given.scaler,calibrator.mpr given.calibrator,(restored_names call).mpr ⟨given.names,given.extra⟩⟩,given.bounds⟩
  · intro given txn
    apply restored_scores
    exact ⟨⟨_,rfl,rfl,scaler.mpr given.scaler,calibrator.mpr given.calibrator,(restored_names call).mpr ⟨given.names,given.extra⟩⟩,given.bounds⟩

def exampleSave (model : Row → PyFloat) (scaler : Option Scaler) : SaveModel where
  model := .predict fun x => .ok (model x)
  scaler
  calibrator := none
  featureNames := some ["transaction_amount"]
  modelType := "xgboost"
  modelVersion := some "1.0.0"
  extraMetadata := ⟨none,none,none,none⟩

def lowThresholds : RiskScorer := {exampleScorer with thresholds := .ofList [("critical",.finite (4 / 10))]}

theorem scorer_differs :
    (∃ loaded, exampleScorer.loadModel (some (saved [
        (exampleScorer,exampleSave (fun x => x.headD .nan) (some fun _ => .ok [.finite 1])),
        (exampleScorer,exampleSave (fun x => x.headD .nan) none)])) = .ok loaded ∧
      (loaded.predict (FeatureStore.exampleAmount 0)).map scored ≠ ((exampleScorer.withSave exampleScorer
        (exampleSave (fun x => x.headD .nan) none)).predict (FeatureStore.exampleAmount 0)).map scored) ∧
    ∃ loaded, exampleScorer.loadModel (some (saved [(lowThresholds,exampleSave (fun _ => .finite (1 / 2)) none)])) = .ok loaded ∧
      (loaded.predict (FeatureStore.exampleAmount 0)).map scored ≠ ((exampleScorer.withSave lowThresholds
        (exampleSave (fun _ => .finite (1 / 2)) none)).predict (FeatureStore.exampleAmount 0)).map scored := by
  refine ⟨⟨_,rfl,?_⟩,_,rfl,?_⟩
  · intro equal
    have scores := congrArg Except.toOption equal
    revert scores
    decide +kernel
  · intro equal
    have scores := congrArg Except.toOption equal
    revert scores
    decide +kernel

end RiskScorer
end RiskPulse
