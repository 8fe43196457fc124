import RiskPulse.FraudRules
import RiskPulse.RiskScorer

namespace RiskPulse

def anomalyFeatures : List String := [
  "transaction_amount",
  "transaction_count_1hour",
  "transaction_count_24hour",
  "amount_mean_24hour",
  "amount_std_24hour",
  "time_since_last_transaction_seconds",
  "distance_from_last_location_km",
  "unique_merchants_24hour",
  "unique_countries_24hour",
  "hour_of_day",
  "is_international",
  "amount_to_avg_ratio"]

-- One row of a frame of numbers: what the scaler is given.
abbrev FrameRow := List (String × PyFloat)

-- A fitted scaler gives a number for each column; it may refuse the columns.
structure FrameScaler where
  transform : FrameRow → Except String Row
  width : transform row = .ok scaled → scaled.length = row.length

-- decision_function, row by row; it may refuse a number that is nan or infinite.
abbrev Forest := Row → Except String PyFloat

structure Frame where
  columns : List String
  rows : List Record

-- pd.DataFrame([features])
def Frame.one (features : Record) : Frame := ⟨features.keys,[features]⟩

structure AnomalyParameters where
  nEstimators : Int
  maxSamples : Value
  contamination : PyFloat
  randomState : Int

-- What the detector takes of Python, numpy, pandas and scikit-learn: float(), what to_numeric
-- with errors="coerce" makes of a cell (nan for what it cannot read), the order of argsort,
-- the text of an id in a frame, the checksum of a stored forest, and the learners.
structure AnomalyHost where
  float : Value → Except FloatError PyFloat
  toNumeric : Value → Except String PyFloat
  argsort : Row → List Nat
  inside : i ∈ argsort row → i < row.length
  idText : Record → Value → String
  checksum : Forest → String
  fitScaler : List FrameRow → Except String FrameScaler
  fitForest : AnomalyParameters → PyFloat → List Row → Except String Forest
  floatFloat : float (.float x) = .ok x
  numericFloat : toNumeric (.float x) = .ok x

structure ContributingFeature where
  feature : String
  value : PyFloat
  deviationScore : PyFloat

-- A result with the fields that the scoring pipeline does not read.
structure AnomalyDetection extends AnomalyResult where
  transactionId : Value
  contributingFeatures : List ContributingFeature

structure AnomalyMetadata extends AnomalyParameters where
  modelVersion : String
  featureNames : List String
  trainingSamples : Nat
  checksum : String

-- model.joblib, scaler.joblib and metadata.joblib
structure DetectorDirectory where
  model : Option Forest
  scaler : Option FrameScaler
  metadata : Option AnomalyMetadata

-- The model and the scaler are set together, and the detector is fitted from then on.
structure AnomalyDetector extends AnomalyParameters where
  maxFeatures : PyFloat
  thresholdOverride : Option PyFloat
  featureNames : List String
  named : featureNames ≠ []
  artifacts : Option (Forest × FrameScaler)
  modelVersion : String
  trainingSamples : Nat

-- np.clip(score, -1.0, 1.0)
def clipSigned (score : PyFloat) : PyFloat :=
  if (PyFloat.finite (-1)).greater score then .finite (-1)
  else if score.greater (.finite 1) then .finite 1
  else score

def fillna (x : PyFloat) : PyFloat := if x = .nan then .finite 0 else x

namespace AnomalyDetector

def init (parameters : AnomalyParameters) (maxFeatures : PyFloat) (thresholdOverride : Option PyFloat)
    (featureNames : Option (List String)) : AnomalyDetector where
  toAnomalyParameters := parameters
  maxFeatures := maxFeatures
  thresholdOverride := thresholdOverride
  featureNames := (featureNames.filter fun names => names ≠ []).getD anomalyFeatures
  named := by
    cases kept : featureNames.filter fun names => names ≠ [] with
    | none => decide
    | some names => simpa using (Option.filter_eq_some_iff.mp kept).2
  artifacts := none
  modelVersion := ""
  trainingSamples := 0

def isFitted (d : AnomalyDetector) : Bool := d.artifacts.isSome

def requireFitted (d : AnomalyDetector) : Except String (Forest × FrameScaler) :=
  match d.artifacts with
  | some artifacts => .ok artifacts
  | none => .error "Model not fitted. Call fit() or load() first."

variable (d : AnomalyDetector) (h : AnomalyHost)

-- A column of the result for each feature name, set once more for a name that comes again.
def selectRow (columns : List String) (row : Record) : Except String FrameRow := do
  let cells ← d.featureNames.mapM fun feat =>
    if feat ∈ columns then (h.toNumeric (row.getD feat (.float .nan))).map fun x => (feat,fillna x)
    else .ok (feat,.finite 0)
  pure (OrderedDict.ofList cells).entries

def selectFeatures (x : Frame) : Except String (List FrameRow) :=
  if d.featureNames.filter (fun f => f ∈ x.columns) = [] then .error "No matching features found."
  else x.rows.mapM (d.selectRow h x.columns)

-- try: float(val); except (TypeError, ValueError): 0.0
def readFloat (val : Value) : Except String PyFloat :=
  match h.float val with
  | .ok x => .ok x
  | .error .refused => .ok (.finite 0)
  | .error .overflow => .error "int too large to convert to float"

def extractFeatureVector (features : Record) : Except String Row :=
  d.featureNames.mapM fun name => readFloat h (features.getD name (.float (.finite 0)))

-- The scaler does not take a frame without rows.
def scaleFrame (scaler : FrameScaler) (rows : List FrameRow) : Except String (List Row) :=
  if rows = [] then .error "Found array with 0 sample(s)" else rows.mapM scaler.transform

def fit (x : Frame) (version : String) : Except String AnomalyDetector := do
  let features ← d.selectFeatures h x
  let scaler ← h.fitScaler features
  let xScaled ← scaleFrame scaler features
  let model ← h.fitForest d.toAnomalyParameters d.maxFeatures xScaled
  pure {d with
    artifacts := some (model,scaler)
    trainingSamples := features.length
    modelVersion := version}

def computeConfidence (anomalyScore : PyFloat) : PyFloat := clip anomalyScore.abs

-- anomaly_score < threshold_override, or raw_score < 0.0
def decideAnomaly (rawScore anomalyScore : PyFloat) : Bool :=
  match d.thresholdOverride with
  | some threshold => threshold.greater anomalyScore
  | none => (PyFloat.finite 0).greater rawScore

-- The body of the loop over the top indices.
def contribution (rawVector deviations : Row) (idx : Nat) : Except String (List ContributingFeature) :=
  if (deviations.getD idx .nan).greater (.finite 1) then
    match d.featureNames[idx]?,rawVector[idx]? with
    | some feature,some value => .ok [⟨feature,value,deviations.getD idx .nan⟩]
    | _,_ => .error "list index out of range"
  else .ok []

def identifyContributingFeatures (rawVector scaledVector : Row) : Except String (List ContributingFeature) :=
  let deviations := scaledVector.map PyFloat.abs
  let topIndices := (h.argsort deviations).reverse.take 5
  (topIndices.mapM (d.contribution rawVector deviations)).map List.flatten

def predict (transactionFeatures : Record) : Except String AnomalyDetection := do
  let (model,scaler) ← d.requireFitted
  let featureVector ← d.extractFeatureVector h transactionFeatures
  let xScaled ← scaler.transform (d.featureNames.zip featureVector)
  let rawScore ← model xScaled
  let anomalyScore := clipSigned rawScore
  let contributing ← d.identifyContributingFeatures h featureVector xScaled
  pure {
    transactionId := transactionFeatures.getD "transaction_id" (.str "unknown")
    anomalyScore := anomalyScore
    isAnomaly := d.decideAnomaly rawScore anomalyScore
    confidence := computeConfidence anomalyScore
    contributingFeatures := contributing
    modelVersion := d.modelVersion}

-- The body of the loop of predict_batch.
def batchResult (x : Frame) (row : Record) (i : Nat) (rawScore : PyFloat) : AnomalyDetection :=
  let score := clipSigned rawScore
  {
    transactionId := .str (if "transaction_id" ∈ x.columns then
        h.idText row (row.getD "transaction_id" (.float .nan)) else "txn_" ++ toString i)
    anomalyScore := score
    isAnomaly := d.decideAnomaly rawScore score
    confidence := computeConfidence score
    contributingFeatures := []
    modelVersion := d.modelVersion}

def predictBatch (x : Frame) : Except String (List AnomalyDetection) := do
  let (model,scaler) ← d.requireFitted
  let features ← d.selectFeatures h x
  let xScaled ← scaleFrame scaler features
  let rawScores ← xScaled.mapM model
  pure ((x.rows.zipIdx.zip rawScores).map fun ((row,i),rawScore) => d.batchResult h x row i rawScore)

def save : Except String DetectorDirectory :=
  match d.artifacts with
  | none => .error "Cannot save unfitted model."
  | some (model,scaler) => .ok {
    model := some model
    scaler := some scaler
    metadata := some {
      toAnomalyParameters := d.toAnomalyParameters
      modelVersion := d.modelVersion
      featureNames := d.featureNames
      trainingSamples := d.trainingSamples
      checksum := h.checksum model}}

def load (directory : DetectorDirectory) : Except String AnomalyDetector :=
  match directory.model,directory.scaler,directory.metadata with
  | none,_,_ => .error "Missing model artifact: model.joblib"
  | _,none,_ => .error "Missing model artifact: scaler.joblib"
  | _,_,none => .error "Missing model artifact: metadata.joblib"
  | some model,some scaler,some metadata =>
    if metadata.checksum ≠ "" ∧ h.checksum model ≠ metadata.checksum then .error "Model checksum mismatch"
    else .ok {init metadata.toAnomalyParameters (.finite (8 / 10)) none (some metadata.featureNames) with
      artifacts := some (model,scaler)
      modelVersion := metadata.modelVersion
      trainingSamples := metadata.trainingSamples}

end AnomalyDetector
end RiskPulse
