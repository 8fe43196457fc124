import RiskPulse.PipelineOrchestrator

namespace RiskPulse

inductive FileFormat where
  | csv
  | json
  | jsonl
  | parquet
  deriving DecidableEq

inductive IngestionStatus where
  | pending
  | inProgress
  | completed
  | failed
  | partly
  deriving DecidableEq

structure IngestionResult where
  status : IngestionStatus
  sourceKey : String
  destinationKey : Option String
  recordsProcessed : Nat
  recordsFailed : Nat
  errors : List String
  startedAt : Rat
  completedAt : Option Rat
  fileFormat : Option FileFormat
  schemaFields : List String

-- A table by rows; a cell without a value is null. Two columns can have one name.
structure Table (α : Type) where
  columnNames : List String
  rows : List (List (Option α))
  even : ∀ row ∈ rows, row.length = columnNames.length

namespace Table
variable {α : Type}

def indices (table : Table α) (name : String) : List Nat :=
  (table.columnNames.zipIdx.filter fun column => decide (column.1 = name)).map Prod.snd

def keep (table : Table α) (mask : List Bool) : Table α where
  columnNames := table.columnNames
  rows := ((table.rows.zip mask).filter Prod.snd).map Prod.fst
  even := by
    intro row member
    obtain ⟨pair,inside,rfl⟩ := List.mem_map.mp member
    exact table.even pair.1 (List.of_mem_zip (List.mem_of_mem_filter inside)).1

def keepMasked (table : Table α) (mask : Option (List Bool)) : Table α :=
  match mask with
  | some mask => table.keep mask
  | none => table

end Table

-- S3DownloadError and S3UploadError, and any other exception.
inductive IngestionRaised where
  | storage (message : String)
  | unexpected (message : String)

-- The handler with what it takes of S3 and of the library: the files and their tables,
-- the upload of a table, and the texts of the present time.
structure BatchIngestionHandler (α : Type) where
  destinationPrefix : String
  lower : String → String
  getFileMetadata : String → String → Except IngestionRaised Int
  standardIngest : String → String → FileFormat → Except IngestionRaised (Table α)
  streamIngest : String → String → FileFormat → Int → Except IngestionRaised (Table α)
  uploadRawFile : String → Table α → Except IngestionRaised Unit
  keyError : String → Nat → String
  startedAt : Rat
  completedAt : Rat
  dayPath : String
  clockText : String

-- The result as far as it is filled in, and what has been uploaded.
structure Ingestion (α : Type) where
  result : IngestionResult
  written : Option (String × Table α)

namespace BatchIngestionHandler
variable {α : Type} (h : BatchIngestionHandler α)

-- What an except clause adds to the errors; an exception is passed on as this text.
def errorText : IngestionRaised → String
  | .storage message => message
  | .unexpected message => "Unexpected error: " ++ message

abbrev Ingesting (α β : Type) := Effect (Ingestion α) β

def requiredTransactionFields : List String :=
  ["account_id","transaction_amount","transaction_currency","transaction_type","transaction_timestamp"]

def maxInMemorySize : Int := 500 * 1024 * 1024

def rising (outcome : Except IngestionRaised β) : Ingesting α β := Effect.ofExcept (outcome.mapError errorText)

def filling (change : IngestionResult → IngestionResult) : Ingesting α Unit :=
  Effect.modify fun s => {s with result := change s.result}

def detectFormat (key : String) : Except IngestionRaised FileFormat :=
  let lowerKey := (h.lower key).toList
  if ".csv".toList <:+ lowerKey then .ok .csv
  else if ".json".toList <:+ lowerKey then .ok .json
  else if ".jsonl".toList <:+ lowerKey ∨ ".ndjson".toList <:+ lowerKey then .ok .jsonl
  else if ".parquet".toList <:+ lowerKey ∨ ".pq".toList <:+ lowerKey then .ok .parquet
  else .error (.unexpected ("Cannot determine format for key: " ++ key ++ ". Supported: .csv, .json, .jsonl, .ndjson, .parquet"))

def readTable (sourceBucket sourceKey : String) (fileFormat : Option FileFormat) : Ingesting α (Table α) := do
  let detected ← rising (match fileFormat with
    | some format => .ok format
    | none => h.detectFormat sourceKey)
  filling fun result => {result with fileFormat := some detected}
  let fileSize ← rising (h.getFileMetadata sourceBucket sourceKey)
  if maxInMemorySize < fileSize then rising (h.streamIngest sourceBucket sourceKey detected fileSize)
  else rising (h.standardIngest sourceBucket sourceKey detected)

def missingFields (table : Table α) (required : List String) : List String := required.filter fun name => decide (name ∉ table.columnNames)

def validateSchema (table : Table α) (required : List String) : List String :=
  let missing := missingFields table required
  if missing = [] then []
  else ["Missing required fields: " ++ PipelineOrchestrator.reprIds (missing.mergeSort fun a b => decide (a ≤ b))]

-- table.column(name).is_valid(): a name must be that of one column.
def validity (table : Table α) (name : String) : Except IngestionRaised (List Bool) :=
  match table.indices name with
  | [index] => .ok (table.rows.map fun row => (row[index]?.join).isSome)
  | found => .error (.unexpected (h.keyError name found.length))

def maskWith (table : Table α) (mask : Option (List Bool)) (name : String) : Except IngestionRaised (Option (List Bool)) :=
  if name ∈ table.columnNames then do
    let valid ← h.validity table name
    match mask with
    | none => pure (some valid)
    | some mask => pure (some (List.zipWith and mask valid))
  else pure mask

def filterInvalidRows (table : Table α) (required : List String) : Except IngestionRaised (Table α × Nat) := do
  let mask ← required.foldlM (h.maskWith table) none
  let kept := table.keepMasked mask
  pure (kept,table.rows.length - kept.rows.length)

-- required_fields or REQUIRED_TRANSACTION_FIELDS
def fieldsToCheck (requiredFields : Option (List String)) : List String :=
  match requiredFields with
  | some (name :: names) => name :: names
  | _ => requiredTransactionFields

def validating (table : Table α) (requiredFields : Option (List String)) (validate : Bool) : Ingesting α (Table α) :=
  if validate then do
    let checked := fieldsToCheck requiredFields
    let errors := validateSchema table checked
    if errors = [] then pure table
    else do
      filling fun result => {result with errors := result.errors ++ errors}
      let (kept,failedCount) ← rising (h.filterInvalidRows table checked)
      filling fun result => {result with recordsFailed := failedCount}
      pure kept
  else pure table

-- source_key.rsplit("/", 1)[-1].rsplit(".", 1)[0]
def sourceStem (sourceKey : String) : String :=
  let file := (sourceKey.toList.reverse.takeWhile fun c => c ≠ '/').reverse
  if '.' ∈ file then String.ofList ((file.reverse.dropWhile fun c => c ≠ '.').drop 1).reverse else String.ofList file

def outputKey (sourceKey : String) : String :=
  h.destinationPrefix ++ "/" ++ h.dayPath ++ "/" ++ sourceStem sourceKey ++ "_" ++ h.clockText ++ ".parquet"

def writeOutput (table : Table α) (sourceKey : String) : Ingesting α String := do
  rising (h.uploadRawFile (h.outputKey sourceKey) table)
  Effect.modify fun s => {s with written := some (h.outputKey sourceKey,table)}
  pure (h.outputKey sourceKey)

def writing (table : Table α) (sourceKey : String) : Ingesting α Unit :=
  if 0 < table.rows.length then do
    let destinationKey ← h.writeOutput table sourceKey
    filling fun result => {result with destinationKey := some destinationKey}
  else pure ()

def closing (result : IngestionResult) : IngestionResult :=
  {result with
    status := if result.recordsFailed = 0 then .completed else .partly
    completedAt := some h.completedAt}

def ingesting (sourceBucket sourceKey : String) (fileFormat : Option FileFormat) (requiredFields : Option (List String)) (validate : Bool) :
    Ingesting α Unit := do
  let table ← h.readTable sourceBucket sourceKey fileFormat
  filling fun result => {result with schemaFields := table.columnNames}
  let table ← h.validating table requiredFields validate
  filling fun result => {result with recordsProcessed := table.rows.length}
  h.writing table sourceKey
  filling h.closing

def started (sourceKey : String) : Ingestion α := ⟨⟨.inProgress,sourceKey,none,0,0,[],h.startedAt,none,none,[]⟩,none⟩

def failing (text : String) (result : IngestionResult) : IngestionResult :=
  {result with
    status := .failed
    errors := result.errors ++ [text]
    completedAt := some h.completedAt}

def ingestFile (sourceBucket sourceKey : String) (fileFormat : Option FileFormat) (requiredFields : Option (List String)) (validate : Bool) :
    Ingestion α :=
  (Effect.attempt (h.ingesting sourceBucket sourceKey fileFormat requiredFields validate) (fun text => filling (h.failing text))
    (h.started sourceKey)).2

end BatchIngestionHandler
end RiskPulse
