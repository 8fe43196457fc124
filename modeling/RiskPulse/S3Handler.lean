import RiskPulse.Library.Batches
import RiskPulse.Library.OrderedDict
import RiskPulse.Library.Text

namespace RiskPulse

inductive StorageLayer where
  | raw
  | validated
  | processed
  | enriched
  | models
  | archive
  deriving DecidableEq

def StorageLayer.value : StorageLayer → String
  | .raw => "raw"
  | .validated => "validated"
  | .processed => "processed"
  | .enriched => "enriched"
  | .models => "models"
  | .archive => "archive"

def s3BucketRaw : String := "riskpulse-raw"
def s3BucketProcessed : String := "riskpulse-processed"
def s3BucketModels : String := "riskpulse-models"
def s3BucketArchive : String := "riskpulse-archive"

def multipartThreshold : Nat := 100 * 1024 * 1024
def multipartChunkSize : Nat := 8 * 1024 * 1024

def bucketForStorageLayer : StorageLayer → String
  | .raw => s3BucketRaw
  | .validated => s3BucketRaw
  | .enriched => s3BucketProcessed
  | .models => s3BucketModels
  | .archive => s3BucketArchive
  | .processed => s3BucketProcessed

def normalizeObjectPrefix (path : String) : List Char := Text.strip (· = '/') (Text.strip Text.isSpace path.toList)

structure Moment where
  isoformat : String
  timestamp : Int

-- The time as fourteen digits and the first twelve digits of a uuid4.
structure GeneratedName where
  timestampSuffix : String
  batchId : String
  digits : timestampSuffix.toList.all Char.isDigit = true
  hexadecimal : batchId.toList.all Char.isAlphanum = true

def GeneratedName.fileName (name : GeneratedName) (fileFormat : String) : String :=
  name.timestampSuffix ++ "_" ++ name.batchId ++ "." ++ fileFormat

def generateFileKey (partitionPath : List Char) (fileFormat : String) (name : GeneratedName) : String :=
  String.ofList (partitionPath ++ '/' :: (name.fileName fileFormat).toList)

-- What both handlers need of their client: an upload and a download of one object, and
-- the keys of a listing.
structure BatchClient (σ ε : Type) where
  uploadRawFile : (bucket key : String) → (data : List UInt8) → (contentType : String) → (metadata : OrderedDict String String) →
    (now : Moment) → σ → Except ε Unit × σ
  download : (bucket key : String) → σ → Except ε (List UInt8)
  keys : (bucket : String) → (wanted : List Char) → σ → Except ε (List String)

structure Parquet (ρ : Type) where
  write : List ρ → Option (List UInt8)
  read : List UInt8 → Option (List ρ)

inductive S3HandlerError (ε : Type) where
  | upload (cause : ε)
  | download (cause : ε)
  | listing (cause : ε)
  | unwritable
  | unreadable (key : String)

structure BatchWrite (ρ : Type) where
  records : List ρ
  storageLayer : StorageLayer
  partitionPath : String
  metadata : OrderedDict String String
  name : GeneratedName
  now : Moment

namespace BatchWrite
variable {ρ : Type}

def bucket (w : BatchWrite ρ) : String := bucketForStorageLayer w.storageLayer

def directory (w : BatchWrite ρ) : List Char :=
  if normalizeObjectPrefix w.partitionPath = [] then w.storageLayer.value.toList else normalizeObjectPrefix w.partitionPath

def fileFormat (w : BatchWrite ρ) : String := if w.records.isEmpty then "empty.json" else "parquet"

def contentType (w : BatchWrite ρ) : String := if w.records.isEmpty then "application/json" else "application/x-parquet"

def key (w : BatchWrite ρ) : String := generateFileKey w.directory w.fileFormat w.name

def objectMetadata (w : BatchWrite ρ) : OrderedDict String String :=
  ((OrderedDict.empty.set "record_count" (toString w.records.length)).set "storage_layer" w.storageLayer.value).update w.metadata

-- Of an empty batch the file holds an empty JSON list.
def data (parquet : Parquet ρ) (w : BatchWrite ρ) : Option (List UInt8) :=
  if w.records.isEmpty then some ['['.toUInt8,']'.toUInt8] else parquet.write w.records

end BatchWrite

namespace BatchClient
variable {σ ε ρ : Type} (client : BatchClient σ ε) (parquet : Parquet ρ)

def writeBatch (w : BatchWrite ρ) (s : σ) : Except (S3HandlerError ε) String × σ :=
  match w.data parquet with
  | none => (.error .unwritable,s)
  | some data =>
    match client.uploadRawFile w.bucket w.key data w.contentType w.objectMetadata w.now s with
    | (.ok _,t) => (.ok w.key,t)
    | (.error cause,t) => (.error (.upload cause),t)

def downloadParquet (bucket key : String) (s : σ) : Except (S3HandlerError ε) (List ρ) :=
  match client.download bucket key s with
  | .error cause => .error (.download cause)
  | .ok body =>
    match parquet.read body with
    | none => .error (.unreadable key)
    | some records => .ok records

def isParquet (key : String) : Bool := decide (".parquet".toList <:+ key.toList)

def readKeys (bucket : String) (s : σ) (records : List ρ) : List String → Except (S3HandlerError ε) (List ρ)
  | [] => .ok records
  | key :: rest =>
    if isParquet key then
      match client.downloadParquet parquet bucket key s with
      | .error e => .error e
      | .ok more => readKeys bucket s (records ++ more) rest
    else readKeys bucket s records rest

def readBatch (storageLayer : StorageLayer) (partitionPath : String) (s : σ) : Except (S3HandlerError ε) (List ρ) :=
  match client.keys (bucketForStorageLayer storageLayer) (normalizeObjectPrefix partitionPath) s with
  | .error cause => .error (.listing cause)
  | .ok keys => client.readKeys parquet (bucketForStorageLayer storageLayer) s [] keys

end BatchClient

-- The S3 client. A multipart upload makes one object of its parts, or none where it is
-- aborted; a listing comes in pages.
structure S3Client (σ ε : Type) where
  putObject : (bucket key : String) → (body : List UInt8) → (contentType : String) → (metadata : OrderedDict String String) →
    σ → Except ε Unit × σ
  multipartUpload : (bucket key : String) → (parts : List (List UInt8)) → (contentType : String) → σ → Except ε Unit × σ
  getObject : (bucket key : String) → σ → Except ε (List UInt8)
  paginate : (bucket : String) → (wanted : List Char) → σ → Except ε (List (List String))

namespace S3Handler
variable {σ ε : Type}

def uploadRawFile (client : S3Client σ ε) (bucket key : String) (data : List UInt8) (contentType : String)
    (metadata : OrderedDict String String) (s : σ) : Except ε Unit × σ :=
  if multipartThreshold ≤ data.length then
    client.multipartUpload bucket key (Batches.batches multipartChunkSize data) "application/x-parquet" s
  else client.putObject bucket key data contentType metadata s

def batchClient (client : S3Client σ ε) : BatchClient σ ε where
  uploadRawFile bucket key data contentType metadata _ s := uploadRawFile client bucket key data contentType metadata s
  download := client.getObject
  keys bucket wanted s := (client.paginate bucket wanted s).map List.flatten

def writeBatch (client : S3Client σ ε) (parquet : Parquet ρ) := (batchClient client).writeBatch parquet
def readBatch (client : S3Client σ ε) (parquet : Parquet ρ) := (batchClient client).readBatch parquet

end S3Handler

end RiskPulse
