import Mathlib.Algebra.Field.Rat
import Mathlib.Data.List.Sort
import RiskPulse.Library.JsonText
import RiskPulse.Library.OrderedDict
import RiskPulse.Library.Runs

namespace RiskPulse

inductive ModelStage where
  | development
  | staging
  | production
  | archived
  deriving DecidableEq

def ModelStage.value : ModelStage → String
  | .development => "development"
  | .staging => "staging"
  | .production => "production"
  | .archived => "archived"

inductive ModelStatus where
  | active
  | inactive
  | failed
  | loading
  deriving DecidableEq

def ModelStatus.value : ModelStatus → String
  | .active => "active"
  | .inactive => "inactive"
  | .failed => "failed"
  | .loading => "loading"

inductive ModelRegistryError where
  | valueError (message : String)
  | keyError (message : String)
  | typeError (message : String)
  | artifact (message : String)
  | save (message : String)
  deriving DecidableEq

structure ModelVersion where
  major : Int
  minor : Int
  patch : Int

namespace ModelVersion

def lt (a b : ModelVersion) : Bool :=
  decide (a.major < b.major ∨ (a.major = b.major ∧ (a.minor < b.minor ∨ (a.minor = b.minor ∧ a.patch < b.patch))))

def isSpace (c : Char) : Bool :=
  let n := c.toNat
  decide ((9 ≤ n ∧ n ≤ 13) ∨ (28 ≤ n ∧ n ≤ 32) ∨ n ∈ [0x85,0xA0,0x1680,0x2028,0x2029,0x202F,0x205F,0x3000] ∨
    (0x2000 ≤ n ∧ n ≤ 0x200A))

def strip (text : List Char) : List Char := ((text.dropWhile isSpace).reverse.dropWhile isSpace).reverse

end ModelVersion

-- A value that JSON can represent.
abbrev JsonValue := {v : Json // v.representable = true}

abbrev JsonDict := OrderedDict String JsonValue

def JsonDict.toJson (d : JsonDict) : Json := .object (d.entries.map fun entry => (entry.1,entry.2.val))

def optionalText (text : Option String) : Json := (text.map Json.str).getD .null

structure ModelMetadata where
  name : String
  version : String
  stage : ModelStage
  status : ModelStatus
  artifactPath : String
  modelType : String
  createdAt : String
  updatedAt : String
  metrics : JsonDict
  parameters : JsonDict
  tags : JsonDict
  description : String
  artifactHash : String
  featureNames : List String
  trainingDataset : String
  parentVersion : Option String

def ModelMetadata.toDict (m : ModelMetadata) : Json := .object [
  ("name",.str m.name),
  ("version",.str m.version),
  ("stage",.str m.stage.value),
  ("status",.str m.status.value),
  ("artifact_path",.str m.artifactPath),
  ("model_type",.str m.modelType),
  ("created_at",.str m.createdAt),
  ("updated_at",.str m.updatedAt),
  ("metrics",m.metrics.toJson),
  ("parameters",m.parameters.toJson),
  ("tags",m.tags.toJson),
  ("description",.str m.description),
  ("artifact_hash",.str m.artifactHash),
  ("feature_names",.array (m.featureNames.map .str)),
  ("training_dataset",.str m.trainingDataset),
  ("parent_version",optionalText m.parentVersion)]

structure ABTestConfig where
  name : String
  modelAVersion : String
  modelBVersion : String
  trafficSplit : JsonValue
  stickyAssignment : Bool
  startTime : String
  endTime : Option String
  isActive : Bool
  metricsA : JsonDict
  metricsB : JsonDict

def ABTestConfig.toDict (t : ABTestConfig) : Json := .object [
  ("name",.str t.name),
  ("model_a_version",.str t.modelAVersion),
  ("model_b_version",.str t.modelBVersion),
  ("traffic_split",t.trafficSplit.val),
  ("sticky_assignment",.bool t.stickyAssignment),
  ("start_time",.str t.startTime),
  ("end_time",optionalText t.endTime),
  ("is_active",.bool t.isActive),
  ("metrics_a",t.metricsA.toJson),
  ("metrics_b",t.metricsB.toJson)]

structure Promotion where
  name : String
  version : String
  fromStage : ModelStage
  toStage : ModelStage
  promotedBy : String
  timestamp : String
  isRollback : Bool
  deriving DecidableEq

def Promotion.toDict (p : Promotion) : Json := .object ([
  ("name",.str p.name),
  ("version",.str p.version),
  ("from_stage",.str p.fromStage.value),
  ("to_stage",.str p.toStage.value),
  ("promoted_by",.str p.promotedBy),
  ("timestamp",.str p.timestamp)] ++ if p.isRollback then [("action",.str "rollback")] else [])

-- The dict the registry keeps in memory: the metadata of each version of each model,
-- the tests, and the promotions in the order they were made.
structure Registry where
  models : OrderedDict String (OrderedDict String ModelMetadata)
  abTests : OrderedDict String ABTestConfig
  promotionHistory : List Promotion

namespace Registry

def empty : Registry := ⟨.empty,.empty,[]⟩

def document (r : Registry) : Json := .object [
  ("models",.object (r.models.entries.map fun model =>
    (model.1,.object (model.2.entries.map fun entry => (entry.1,entry.2.toDict))))),
  ("ab_tests",.object (r.abTests.entries.map fun test => (test.1,test.2.toDict))),
  ("promotion_history",.array (r.promotionHistory.map Promotion.toDict))]

def metadata (r : Registry) (name version : String) : Option ModelMetadata :=
  (r.models.get? name).bind fun versions => versions.get? version

def versions (r : Registry) (name : String) : OrderedDict String ModelMetadata := r.models.getD name .empty

def registered (r : Registry) (name version : String) (m : ModelMetadata) : Registry :=
  {r with models := r.models.set name ((r.versions name).set version m)}

-- The versions of the name are written, and a promotion is recorded.
def promoted (r : Registry) (name : String) (versions : OrderedDict String ModelMetadata) (promotion : Promotion) : Registry where
  models := r.models.set name versions
  abTests := r.abTests
  promotionHistory := r.promotionHistory ++ [promotion]

end Registry

-- int of a text is Python's, and a document is read down to the recursion limit, which
-- a registry of plain values does not reach.
structure ModelRegistry where
  int : String → Option Int
  recursionLimit : Nat
  plain : 5 ≤ recursionLimit

-- What comes of a save: the file cannot be opened, or its writing breaks off after so
-- many characters.
inductive SaveOutcome where
  | saved
  | openFails (message : String)
  | writeFails (written : Nat) (message : String)
  deriving DecidableEq

structure RegistryState where
  registry : Registry
  file : Option String

-- What an operation does before it saves; one that raises or returns before that leaves
-- its changes in memory.
inductive Attempt (α : Type) where
  | leaves (registry : Registry) (result : Except ModelRegistryError α)
  | saves (registry : Registry) (result : α)

structure Registration where
  name : String
  version : String
  artifactPath : String
  modelType : String
  metrics : Option JsonDict
  parameters : Option JsonDict
  tags : Option JsonDict
  description : String
  featureNames : Option (List String)
  trainingDataset : String
  parentVersion : Option String

-- What sign_model_artifact and _compute_artifact_hash come to.
structure ArtifactOutcome where
  signed : Except String Unit
  hashed : Except String String

namespace ModelRegistry

def parse (c : ModelRegistry) (version : String) : Except ModelRegistryError ModelVersion :=
  match (ModelVersion.strip version.toList).splitOn '.' with
  | [major,minor,patch] =>
    match c.int (String.ofList major),c.int (String.ofList minor),c.int (String.ofList patch) with
    | some a,some b,some p => .ok ⟨a,b,p⟩
    | _,_,_ => .error (.valueError "invalid literal for int() with base 10")
  | _ => .error (.valueError s!"Invalid version format: {version}. Expected 'major.minor.patch'")

def loadRegistry (c : ModelRegistry) (file : Option String) : Except Json.Error Json :=
  match file with
  | some text => Json.loads c.recursionLimit text
  | none => .ok (.object [("models",.object []),("ab_tests",.object []),("promotion_history",.array [])])

def saveRegistry (saving : SaveOutcome) (s : RegistryState) : Except ModelRegistryError Unit × RegistryState :=
  let text := Json.dumps s.registry.document
  match saving with
  | .saved => (.ok (),{s with file := some text})
  | .openFails message => (.error (.save message),s)
  | .writeFails written message => (.error (.save message),{s with file := some (String.ofList (text.toList.take written))})

def conclude (saving : SaveOutcome) (s : RegistryState) : Attempt α → Except ModelRegistryError α × RegistryState
  | .leaves registry result => (result,{s with registry})
  | .saves registry result =>
    match saveRegistry saving {s with registry} with
    | (.ok (),t) => (.ok result,t)
    | (.error e,t) => (.error e,t)

def named (name : String) (r : Registry) : Registry :=
  if name ∈ r.models.keys then r else {r with models := r.models.set name .empty}

-- The n-th reading of the clock in an operation is now n.
def newVersion (args : Registration) (artifactHash : String) (now : Nat → String) : ModelMetadata where
  name := args.name
  version := args.version
  stage := .development
  status := .inactive
  artifactPath := args.artifactPath
  modelType := args.modelType
  createdAt := now 0
  updatedAt := now 1
  metrics := args.metrics.getD .empty
  parameters := args.parameters.getD .empty
  tags := args.tags.getD .empty
  description := args.description
  artifactHash
  featureNames := args.featureNames.getD []
  trainingDataset := args.trainingDataset
  parentVersion := args.parentVersion

def registerModel (c : ModelRegistry) (args : Registration) (artifact : ArtifactOutcome) (now : Nat → String) (r : Registry) :
    Attempt ModelMetadata :=
  match c.parse args.version with
  | .error e => .leaves r (.error e)
  | .ok _ =>
    let opened := named args.name r
    if args.version ∈ (opened.versions args.name).keys then
      let name := args.name
      let version := args.version
      .leaves opened (.error (.valueError s!"Model '{name}' version '{version}' already exists. Use a new version number."))
    else
      match artifact.signed,artifact.hashed with
      | .error message,_ => .leaves opened (.error (.artifact message))
      | .ok (),.error message => .leaves opened (.error (.artifact message))
      | .ok (),.ok artifactHash =>
        let metadata := newVersion args artifactHash now
        .saves (opened.registered args.name args.version metadata) metadata

def listModels (name : Option String) (stage : Option ModelStage) (r : Registry) : List ModelMetadata :=
  r.models.entries.flatMap fun model =>
    if name.any fun wanted => decide (wanted ≠ "" ∧ model.1 ≠ wanted) then []
    else (model.2.entries.map Prod.snd).filter fun m => !stage.any fun wanted => decide (m.stage ≠ wanted)

-- The latest by version.
def getProductionModel (c : ModelRegistry) (name : String) (r : Registry) : Except ModelRegistryError (Option ModelMetadata) := do
  let models := listModels (some name) (some .production) r
  let keyed ← models.mapM fun m => (c.parse m.version).map fun v => (v,m)
  return ((keyed.insertionSort fun a b => !b.1.lt a.1).getLast?).map Prod.snd

-- The other versions in production, each with a reading of the clock of its own.
def archiveOthers (version : String) (now : Nat → String) : Nat → List (String × ModelMetadata) → List (String × ModelMetadata)
  | _,[] => []
  | n,(ver,data) :: rest =>
    if data.stage = .production ∧ ver ≠ version then
      (ver,{data with stage := .archived, updatedAt := now n}) :: archiveOthers version now (n + 1) rest
    else (ver,data) :: archiveOthers version now n rest

theorem archiveOthers_keys (version : String) (now : Nat → String) (n : Nat) (entries : List (String × ModelMetadata)) :
    (archiveOthers version now n entries).map Prod.fst = entries.map Prod.fst := by
  induction entries generalizing n with
  | nil => rfl
  | cons head rest ih =>
    rw [archiveOthers]
    split
    · rw [List.map_cons,List.map_cons,ih]
    · rw [List.map_cons,List.map_cons,ih]

def archived (version : String) (now : Nat → String) (versions : OrderedDict String ModelMetadata) : OrderedDict String ModelMetadata where
  entries := archiveOthers version now 0 versions.entries
  unique := by
    rw [archiveOthers_keys]
    exact versions.unique

def othersServing (version : String) (versions : OrderedDict String ModelMetadata) : Nat :=
  versions.entries.countP fun entry => decide (entry.2.stage = .production ∧ entry.1 ≠ version)

-- The archiving passes over the version itself, so its entry is the one found.
def promoteModel (name version : String) (target : ModelStage) (promotedBy : String) (now : Nat → String) (r : Registry) :
    Attempt ModelMetadata :=
  match r.models.get? name with
  | none => .leaves r (.error (.keyError s!"Model '{name}' not found"))
  | some versions =>
    match versions.get? version with
    | none => .leaves r (.error (.keyError s!"Version '{version}' not found for model '{name}'"))
    | some found =>
      let n := if target = .production then othersServing version versions else 0
      let others := if target = .production then archived version now versions else versions
      let entry := {found with stage := target, status := .active, updatedAt := now n}
      let promotion : Promotion := ⟨name,version,found.stage,target,promotedBy,now (n + 1),false⟩
      .saves (r.promoted name (others.set version entry) promotion) entry

def currentProduction (versions : OrderedDict String ModelMetadata) : Option String :=
  ((versions.entries.filter fun entry => decide (entry.2.stage = .production)).getLast?).map Prod.fst

def archivedVersions (versions : OrderedDict String ModelMetadata) : List (String × ModelMetadata) :=
  versions.entries.filter fun entry => decide (entry.2.stage = .archived)

-- The latest archived first, those of one time in the order they stand in.
def latestArchived (versions : OrderedDict String ModelMetadata) : List (String × ModelMetadata) :=
  (archivedVersions versions).insertionSort fun a b => ¬a.2.updatedAt < b.2.updatedAt

def archiveCurrent (versions : OrderedDict String ModelMetadata) (current : Option String) (now : String) :
    OrderedDict String ModelMetadata :=
  match current.bind fun ver => (versions.get? ver).map fun data => (ver,data) with
  | some (ver,data) => if ver = "" then versions else versions.set ver {data with stage := .archived, updatedAt := now}
  | none => versions

def rollbackModel (name promotedBy : String) (now : Nat → String) (r : Registry) : Attempt (Option ModelMetadata) :=
  match r.models.get? name with
  | none => .leaves r (.error (.keyError s!"Model '{name}' not found"))
  | some versions =>
    match latestArchived versions with
    | [] => .leaves r (.ok none)
    | (version,found) :: _ =>
      let current := currentProduction versions
      let n := if current.any fun ver => decide (ver ≠ "") then 1 else 0
      let entry := {found with stage := .production, status := .active, updatedAt := now n}
      let promotion : Promotion := ⟨name,version,.archived,.production,promotedBy,now (n + 1),true⟩
      .saves (r.promoted name ((archiveCurrent versions current (now 0)).set version entry) promotion) (some entry)

-- The number a text of digits with a point and an exponent denotes.
def decimal (text : List Char) : Rat :=
  let (mantissa,exponent) := text.span fun c => c ≠ 'e' ∧ c ≠ 'E'
  let (whole,fraction) := mantissa.span fun c => c ≠ '.'
  (Json.integerOf (whole ++ fraction) : Rat) * (10 : Rat) ^ (Json.integerOf exponent.tail - (fraction.length - 1 : Nat))

def number : Json → Option Rat
  | .bool value => some (if value then 1 else 0)
  | .int value => some value
  | .float text => some (decimal text.toList)
  | _ => none

def createAbTest (testName modelName versionA versionB : String) (trafficSplit : JsonValue) (stickyAssignment : Bool)
    (now : Nat → String) (r : Registry) : Attempt ABTestConfig :=
  match number trafficSplit.val with
  | none => .leaves r (.error (.typeError "'<=' not supported"))
  | some split =>
    if ¬(0 ≤ split ∧ split ≤ 1) then .leaves r (.error (.valueError "traffic_split must be between 0.0 and 1.0"))
    else
      match r.models.get? modelName with
      | none => .leaves r (.error (.keyError s!"Model '{modelName}' not found"))
      | some versions =>
        if versionA ∉ versions.keys then
          .leaves r (.error (.keyError s!"Version '{versionA}' not found for model '{modelName}'"))
        else if versionB ∉ versions.keys then
          .leaves r (.error (.keyError s!"Version '{versionB}' not found for model '{modelName}'"))
        else
          let config : ABTestConfig := {
            name := testName
            modelAVersion := versionA
            modelBVersion := versionB
            trafficSplit
            stickyAssignment
            startTime := now 0
            endTime := none
            isActive := true
            metricsA := .empty
            metricsB := .empty }
          .saves {r with abTests := r.abTests.set testName config} config

def endAbTest (testName : String) (now : Nat → String) (r : Registry) : Attempt (Option ABTestConfig) :=
  match r.abTests.get? testName with
  | none => .leaves r (.ok none)
  | some config =>
    let ended := {config with isActive := false, endTime := some (now 0)}
    .saves {r with abTests := r.abTests.set testName ended} (some ended)

def getModelMetadata (name version : String) (r : Registry) : Except ModelRegistryError ModelMetadata :=
  match r.models.get? name with
  | none => .error (.keyError s!"Model '{name}' not found in registry")
  | some versions =>
    match versions.get? version with
    | none => .error (.keyError s!"Version '{version}' not found for model '{name}'")
    | some metadata => .ok metadata

def getAbTest (testName : String) (r : Registry) : Option ABTestConfig := r.abTests.get? testName

-- A sticky test hashes the user; another one draws a number of [0, 1) each time. The
-- hash is the hexadecimal digest of the text in UTF-8, read as a number.
def resolveAbAssignment (sha256 : String → Nat) (testName userId : String) (draw : Rat) (r : Registry) :
    Except ModelRegistryError String :=
  match getAbTest testName r with
  | none => .error (.valueError s!"A/B test '{testName}' not found or inactive")
  | some config =>
    if !config.isActive then .error (.valueError s!"A/B test '{testName}' not found or inactive")
    else
      let hashInput := s!"{testName}:{userId}"
      let normalized : Rat := if config.stickyAssignment then ((sha256 hashInput % 10000 : Nat) : Rat) / 10000 else draw
      match number config.trafficSplit.val with
      | none => .error (.typeError "'<' not supported")
      | some split => .ok (if normalized < split then config.modelBVersion else config.modelAVersion)

end ModelRegistry
end RiskPulse
