import RiskPulse.FeatureStore

namespace RiskPulse

abbrev Row := List PyFloat

-- A predict_proba: for each row one probability a class.
structure Classifier where
  classes : Nat
  proba : Row → Except String (Fin classes → PyFloat)

-- What a model is asked for its scores; hasattr finds the first of these.
inductive RiskModel where
  | predictProba (classifier : Classifier)
  | decisionFunction (score : Row → Except String PyFloat)
  | predict (score : Row → Except String PyFloat)

inductive Calibrator where
  | predictProba (classifier : Classifier)
  | transform (apply : PyFloat → Except String PyFloat)
  | other

abbrev Scaler := Row → Except String Row

abbrev Thresholds := OrderedDict String PyFloat

structure ModelArtifact where
  model : RiskModel
  scaler : Option Scaler
  calibrator : Option Calibrator
  featureNames : List String
  modelVersion : String
  modelType : String
  thresholds : Thresholds

-- proba[i, j] and proba[:, j]
def Classifier.column (classifier : Classifier) (j : Nat) (proba : Fin classifier.classes → PyFloat) : Except String PyFloat :=
  if inside : j < classifier.classes then .ok (proba ⟨j,inside⟩) else .error "index is out of bounds for axis 1"

namespace RiskModel

def getRawScore (model : RiskModel) (x : Row) : Except String PyFloat :=
  match model with
  | .predictProba classifier => do
    let proba ← classifier.proba x
    if 1 < classifier.classes then classifier.column 1 proba else classifier.column 0 proba
  | .decisionFunction score => score x
  | .predict score => score x

def getRawScoresBatch (model : RiskModel) (x : List Row) : Except String (List PyFloat) :=
  match model with
  | .predictProba classifier => do
    let proba ← x.mapM classifier.proba
    if 1 < classifier.classes then proba.mapM (classifier.column 1) else proba.mapM (classifier.column 0)
  | .decisionFunction score => x.mapM score
  | .predict score => x.mapM score

end RiskModel

-- np.clip(score, 0.0, 1.0)
def clip (score : PyFloat) : PyFloat :=
  if (PyFloat.finite 0).greater score then .finite 0
  else if score.greater (.finite 1) then .finite 1
  else score

namespace ModelArtifact
variable (artifact : ModelArtifact)

def scale (x : Row) : Except String Row :=
  match artifact.scaler with
  | some transform => transform x
  | none => .ok x

def scaleBatch (x : List Row) : Except String (List Row) :=
  match artifact.scaler with
  | some transform => x.mapM transform
  | none => .ok x

def calibrateScore (rawScore : PyFloat) (x : Row) : PyFloat :=
  match artifact.calibrator with
  | some (.predictProba classifier) =>
    match classifier.proba x >>= classifier.column 1 with
    | .ok probability => clip probability
    | .error _ => clip rawScore
  | some (.transform apply) =>
    match apply rawScore with
    | .ok score => clip score
    | .error _ => clip rawScore
  | _ => clip rawScore

-- There is no branch for a calibrator that only has transform.
def calibrateScoresBatch (rawScores : List PyFloat) (x : List Row) : List PyFloat :=
  match artifact.calibrator with
  | some (.predictProba classifier) =>
    match x.mapM classifier.proba >>= fun proba => proba.mapM (classifier.column 1) with
    | .ok probabilities => probabilities.map clip
    | .error _ => rawScores.map clip
  | _ => rawScores.map clip

end ModelArtifact

def FeatureVector.toArray (v : FeatureVector) (featureNames : List String) : Row :=
  featureNames.map fun name => v.features.getD name (featureDefault name)

def FeatureStore.getFeaturesBatch (c : FeatureStore) (transactions : List Record) : Except String (List FeatureVector) :=
  transactions.mapM fun txn =>
    c.getFeatures (txn.getD "transaction_id" (txn.getD "external_transaction_id" (.str ""))) (txn.getD "customer_id" (.str "")) txn

-- The entries of a metadata dict that are read back.
structure Metadata where
  modelVersion : Option String
  modelType : Option String
  featureNames : Option (List String)
  thresholds : Option Thresholds

-- {**metadata, **extra}
def Metadata.override (metadata extra : Metadata) : Metadata :=
  ⟨extra.modelVersion <|> metadata.modelVersion,extra.modelType <|> metadata.modelType,
    extra.featureNames <|> metadata.featureNames,extra.thresholds <|> metadata.thresholds⟩

-- model.joblib, scaler.joblib, calibrator.joblib and metadata.joblib
structure ModelDirectory where
  model : Option RiskModel
  scaler : Option Scaler
  calibrator : Option Calibrator
  metadata : Option Metadata

structure SaveModel where
  model : RiskModel
  scaler : Option Scaler
  calibrator : Option Calibrator
  featureNames : Option (List String)
  modelType : String
  modelVersion : Option String
  extraMetadata : Metadata

-- The explanations are not part of a score, but computing them can raise.
structure RiskScorer where
  featureStore : FeatureStore
  plus : PyFloat → PyFloat → PyFloat
  computeVersion : RiskModel → String
  explainPrediction : Row → FeatureVector → Except String (List Value)
  thresholds : Thresholds
  artifact : Option ModelArtifact

namespace RiskScorer

structure RiskScore where
  transactionId : Value
  riskScore : PyFloat
  riskLevel : String
  rawScore : PyFloat
  confidence : PyFloat
  topFeatures : List Value
  modelVersion : String
  featureQuality : String

variable (s : RiskScorer)

def requireArtifact : Except String ModelArtifact :=
  match s.artifact with
  | some artifact => .ok artifact
  | none => .error "Model not loaded. Call load_model() first."

def classifyRisk (score : PyFloat) : String :=
  if score.ge (s.thresholds.getD "critical" (.finite (95 / 100))) then "critical"
  else if score.ge (s.thresholds.getD "high" (.finite (8 / 10))) then "high"
  else if score.ge (s.thresholds.getD "medium" (.finite (1 / 2))) then "medium"
  else "low"

def qualityMultiplier (featureQuality : String) : PyFloat :=
  (OrderedDict.ofList [("good",PyFloat.finite 1),("degraded",.finite (8 / 10)),("poor",.finite (1 / 2))]).getD featureQuality
    (.finite (7 / 10))

def computeConfidence (score : PyFloat) (featureQuality : String) : PyFloat :=
  let arithmetic := s.featureStore.host.arithmetic
  let scoreCertainty := arithmetic.times (arithmetic.minus score (.finite (1 / 2))).abs (.finite 2)
  clip (arithmetic.times scoreCertainty (qualityMultiplier featureQuality))

def assessFeatureQuality (featureNames : List String) (v : FeatureVector) : String :=
  let arithmetic := s.featureStore.host.arithmetic
  let totalFeatures := PyFloat.finite (max featureNames.length 1 : Nat)
  let missingRatio := arithmetic.divide (.finite v.missing.length) totalFeatures
  let staleRatio := arithmetic.divide (.finite v.stale.length) totalFeatures
  let combinedDegradation := s.plus missingRatio (arithmetic.times staleRatio (.finite (1 / 2)))
  if combinedDegradation.greater (.finite (3 / 10)) then "poor"
  else if combinedDegradation.greater (.finite (1 / 10)) then "degraded"
  else "good"

def predict (txn : Record) : Except String RiskScore := do
  let artifact ← s.requireArtifact
  let transactionId := txn.getD "transaction_id" (txn.getD "external_transaction_id" (.str "unknown"))
  let fv ← s.featureStore.getFeatures transactionId (txn.getD "customer_id" (.str "unknown")) txn
  let featureQuality := s.assessFeatureQuality artifact.featureNames fv
  let x ← artifact.scale (fv.toArray artifact.featureNames)
  let rawScore ← artifact.model.getRawScore x
  let calibratedScore := artifact.calibrateScore rawScore x
  let topFeatures ← s.explainPrediction x fv
  pure ⟨transactionId,calibratedScore,s.classifyRisk calibratedScore,rawScore,s.computeConfidence calibratedScore featureQuality,
    topFeatures,artifact.modelVersion,featureQuality⟩

-- np.vstack
def vstack (rows : List Row) : Except String (List Row) :=
  if rows = [] then .error "need at least one array to concatenate" else .ok rows

-- The body of the loop of predict_batch.
def batchResult (artifact : ModelArtifact) (txn : Record) (i : Nat) (fv : FeatureVector) (rawScore score : PyFloat) : RiskScore :=
  let featureQuality := s.assessFeatureQuality artifact.featureNames fv
  ⟨txn.getD "transaction_id" (txn.getD "external_transaction_id" (.str ("batch_" ++ toString i))),score,s.classifyRisk score,rawScore,
    s.computeConfidence score featureQuality,[],artifact.modelVersion,featureQuality⟩

def predictBatch (transactions : List Record) : Except String (List RiskScore) := do
  let artifact ← s.requireArtifact
  let featureVectors ← s.featureStore.getFeaturesBatch transactions
  let rows ← vstack (featureVectors.map fun fv => fv.toArray artifact.featureNames)
  let x ← artifact.scaleBatch rows
  let rawScores ← artifact.model.getRawScoresBatch x
  let calibratedScores := artifact.calibrateScoresBatch rawScores x
  pure ((transactions.zipIdx.zip (featureVectors.zip (rawScores.zip calibratedScores))).map fun ((txn,i),fv,rawScore,score) =>
    s.batchResult artifact txn i fv rawScore score)

-- A file that the call does not write stays as it is.
def saveModel (directory : ModelDirectory) (call : SaveModel) : ModelDirectory :=
  let version := (call.modelVersion.filter fun version => version ≠ "").getD (s.computeVersion call.model)
  let featureNames := (call.featureNames.filter fun names => names ≠ []).getD featureCatalog
  let metadata : Metadata := ⟨some version,some call.modelType,some featureNames,some s.thresholds⟩
  ⟨some call.model,call.scaler <|> directory.scaler,call.calibrator <|> directory.calibrator,
    some (metadata.override call.extraMetadata)⟩

def loadModel (directory : Option ModelDirectory) : Except String RiskScorer :=
  match directory with
  | none => .error "Model path does not exist"
  | some directory =>
    match directory.model with
    | none => .error "Model file not found"
    | some model =>
      let metadata := directory.metadata.getD ⟨none,none,none,none⟩
      .ok {s with
        artifact := some {
          model
          scaler := directory.scaler
          calibrator := directory.calibrator
          featureNames := metadata.featureNames.getD featureCatalog
          modelVersion := metadata.modelVersion.getD (s.computeVersion model)
          modelType := metadata.modelType.getD "unknown"
          thresholds := metadata.thresholds.getD s.thresholds } }

end RiskScorer
end RiskPulse
