import RiskPulse.S3Handler
import RiskPulse.Library.Retry

namespace RiskPulse
open Retry

-- What the client and pyarrow raise: botocore's ClientError or anything else.
inductive ClientRaised where
  | clientError (message : String)
  | other (message : String)
  deriving DecidableEq

-- What the handler raises: one of those, S3UploadError, S3DownloadError or ValueError.
inductive S3Raised where
  | client (cause : ClientRaised)
  | uploadError (message : String)
  | downloadError (message : String)
  | valueError (message : String)
  deriving DecidableEq

namespace S3Raised

def isClientError : S3Raised → Bool
  | .client (.clientError _) => true
  | _ => false

-- An S3UploadError or S3DownloadError.
def isTransferError : S3Raised → Bool
  | .uploadError _ => true
  | .downloadError _ => true
  | _ => false

end S3Raised

structure PartitionTime where
  year : Nat
  month : Nat
  day : Nat
  hour : Nat
  isoformat : String

-- boto3's client, with the clock, uuid4 and the texts of pyarrow's exceptions. Reading the
-- body of an object is part of getting it.
structure S3Service (σ : Type) where
  putObject : (bucket key : String) → (body : List UInt8) → (contentType : String) → (metadata : Option (OrderedDict String String)) →
    Call σ ClientRaised Unit
  createMultipartUpload : (bucket key contentType : String) → Call σ ClientRaised String
  uploadPart : (bucket key uploadId : String) → (partNumber : Nat) → (body : List UInt8) → Call σ ClientRaised String
  completeMultipartUpload : (bucket key uploadId : String) → (parts : List (Nat × String)) → Call σ ClientRaised Unit
  abortMultipartUpload : (bucket key uploadId : String) → Call σ ClientRaised Unit
  getObject : (bucket key : String) → Call σ ClientRaised (List UInt8)
  now : σ → PartitionTime × σ
  uuid : σ → GeneratedName × σ
  unwritable : String
  unreadable : List UInt8 → String

structure S3Metrics where
  uploads : Nat
  downloads : Nat
  bytesUploaded : Nat
  bytesDownloaded : Nat
  uploadErrors : Nat
  downloadErrors : Nat

-- What the handler calls and what it counts.
structure S3Session (σ : Type) where
  world : σ
  metrics : S3Metrics

namespace S3Metrics

def recordUpload (byteSize : Nat) (m : S3Metrics) : S3Metrics :=
  {m with
    uploads := m.uploads + 1
    bytesUploaded := m.bytesUploaded + byteSize}

def recordDownload (byteSize : Nat) (m : S3Metrics) : S3Metrics :=
  {m with
    downloads := m.downloads + 1
    bytesDownloaded := m.bytesDownloaded + byteSize}

def recordUploadError (m : S3Metrics) : S3Metrics := {m with uploadErrors := m.uploadErrors + 1}

def recordDownloadError (m : S3Metrics) : S3Metrics := {m with downloadErrors := m.downloadErrors + 1}

end S3Metrics

namespace S3Transfers
variable {σ ρ ε α : Type} (service : S3Service σ) (parquet : Parquet ρ)

abbrev Transferring (σ ε α : Type) := Call (S3Session σ) ε α

def calling (call : Call σ ClientRaised α) : Transferring σ ClientRaised α := fun s =>
  match call s.world with
  | .ok a world => .ok a {s with world := world}
  | .error e world => .error e {s with world := world}

def drawing (draw : σ → α × σ) : Transferring σ ε α := fun s => .ok (draw s.world).1 {s with world := (draw s.world).2}

def recording (change : S3Metrics → S3Metrics) : Transferring σ ε Unit := fun s => .ok () {s with metrics := change s.metrics}

def padded (width n : Nat) : String := String.ofList ((Nat.toDigits 10 n).leftpad width '0')

def stamp (timestamp : Option PartitionTime) : Transferring σ ε PartitionTime :=
  match timestamp with
  | some time => pure time
  | none => drawing service.now

def buildPartitionPath (pre : String) (timestamp : Option PartitionTime) : Transferring σ ε String := do
  let ts ← stamp service timestamp
  pure (pre ++ "/" ++ padded 4 ts.year ++ "/" ++ padded 2 ts.month ++ "/" ++ padded 2 ts.day ++ "/" ++ padded 2 ts.hour)

-- The loop from one offset on.
def uploadParts (bucket key uploadId : String) (data : List UInt8) (offset partNumber : Nat) (parts : List (Nat × String)) :
    Call σ ClientRaised (List (Nat × String)) :=
  if offset < data.length then do
    let etag ← service.uploadPart bucket key uploadId partNumber ((data.drop offset).take multipartChunkSize)
    uploadParts bucket key uploadId data (offset + multipartChunkSize) (partNumber + 1) (parts ++ [(partNumber,etag)])
  else pure parts
termination_by data.length - offset
decreasing_by
  unfold multipartChunkSize
  omega

-- Whatever is raised after the creation aborts the upload, and is raised again unless the
-- abort itself raises.
def multipartUpload (bucket key : String) (data : List UInt8) : Call σ ClientRaised Unit := do
  let uploadId ← service.createMultipartUpload bucket key "application/x-parquet"
  handling
    (do
      let parts ← uploadParts service bucket key uploadId data 0 1 []
      service.completeMultipartUpload bucket key uploadId parts)
    fun e => do
      service.abortMultipartUpload bucket key uploadId
      throw e

def sending (bucket key : String) (data : List UInt8) (contentType : String) (metadata : Option (OrderedDict String String)) :
    Call σ ClientRaised Unit :=
  if multipartThreshold ≤ data.length then multipartUpload service bucket key data
  else service.putObject bucket key data contentType metadata

def uploadFailed (bucket key : String) (e : ClientRaised) : Transferring σ S3Raised α :=
  match e with
  | .clientError message => do
    recording S3Metrics.recordUploadError
    throw (.uploadError ("Failed to upload to s3://" ++ bucket ++ "/" ++ key ++ ": " ++ message))
  | .other message => throw (.client (.other message))

def transactionMetadata (count : Nat) (time : PartitionTime) : OrderedDict String String :=
  ((OrderedDict.empty.set "record_count" (toString count)).set "partition_timestamp" time.isoformat).set "compression" "snappy"

def transactionsToParquet (transactions : List ρ) : Transferring σ ClientRaised (List UInt8) :=
  match parquet.write transactions with
  | some bytes => pure bytes
  | none => throw (.other service.unwritable)

def sendingTransactions (bucket key : String) (bytes : List UInt8) (count : Nat) (timestamp : Option PartitionTime) :
    Transferring σ ClientRaised Unit :=
  if multipartThreshold ≤ bytes.length then calling (multipartUpload service bucket key bytes)
  else do
    let time ← stamp service timestamp
    calling (service.putObject bucket key bytes "application/x-parquet" (some (transactionMetadata count time)))

def uploadTransactionsOnce (transactions : List ρ) (timestamp : Option PartitionTime) (bucket pre : String) : Transferring σ S3Raised String :=
  if transactions = [] then throw (.valueError "Cannot upload empty transaction list")
  else do
    let partitionPath ← buildPartitionPath service pre timestamp
    let name ← drawing service.uuid
    let key := generateFileKey partitionPath.toList "parquet" name
    handling
      (do
        let bytes ← transactionsToParquet service parquet transactions
        sendingTransactions service bucket key bytes transactions.length timestamp
        recording (S3Metrics.recordUpload bytes.length)
        pure key)
      (uploadFailed bucket key)

-- Metadata that are empty are not passed on.
def passed (metadata : Option (OrderedDict String String)) : Option (OrderedDict String String) :=
  metadata.filter fun given => decide (given.entries ≠ [])

def uploadRawFileOnce (data : List UInt8) (key bucket contentType : String) (metadata : Option (OrderedDict String String)) :
    Transferring σ S3Raised String :=
  handling
    (do
      calling (sending service bucket key data contentType (passed metadata))
      recording (S3Metrics.recordUpload data.length)
      pure key)
    (uploadFailed bucket key)

def downloadFailed (bucket key : String) (e : ClientRaised) : Transferring σ S3Raised α := do
  recording S3Metrics.recordDownloadError
  match e with
  | .clientError message => throw (.downloadError ("Failed to download s3://" ++ bucket ++ "/" ++ key ++ ": " ++ message))
  | .other message => throw (.downloadError ("Failed to parse Parquet file s3://" ++ bucket ++ "/" ++ key ++ ": " ++ message))

def readTable (body : List UInt8) : Transferring σ ClientRaised (List ρ) :=
  match parquet.read body with
  | some table => pure table
  | none => throw (.other (service.unreadable body))

def downloadParquetOnce (bucket key : String) : Transferring σ S3Raised (List ρ) :=
  handling
    (do
      let body ← calling (service.getObject bucket key)
      recording (S3Metrics.recordDownload body.length)
      readTable service parquet body)
    (downloadFailed bucket key)

-- The decorator of the three: up to three attempts, retried on a ClientError.
def retried (body : Transferring σ S3Raised α) : Transferring σ S3Raised α := retrying S3Raised.isClientError 2 body

def uploadTransactions (transactions : List ρ) (timestamp : Option PartitionTime) (bucket pre : String) : Transferring σ S3Raised String :=
  retried (uploadTransactionsOnce service parquet transactions timestamp bucket pre)

def uploadRawFile (data : List UInt8) (key bucket contentType : String) (metadata : Option (OrderedDict String String)) :
    Transferring σ S3Raised String :=
  retried (uploadRawFileOnce service data key bucket contentType metadata)

def downloadParquet (bucket key : String) : Transferring σ S3Raised (List ρ) := retried (downloadParquetOnce service parquet bucket key)

def outcome : EStateM.Result ε σ α → Except ε α × σ
  | .ok a s => (.ok a,s)
  | .error e s => (.error e,s)

-- The client as the batch operations see it, with a multipart upload as one call.
def coarse (paginate : String → List Char → σ → Except ClientRaised (List (List String))) : S3Client σ ClientRaised where
  putObject bucket key body contentType metadata s := outcome (service.putObject bucket key body contentType (passed (some metadata)) s)
  multipartUpload bucket key parts _ s := outcome (multipartUpload service bucket key parts.flatten s)
  getObject bucket key s := (outcome (service.getObject bucket key s)).1
  paginate := paginate

theorem coarse_sending (paginate : String → List Char → σ → Except ClientRaised (List (List String))) (bucket key : String) (data : List UInt8)
    (contentType : String) (metadata : OrderedDict String String) (s : σ) :
    S3Handler.uploadRawFile (coarse service paginate) bucket key data contentType metadata s =
      outcome (sending service bucket key data contentType (passed (some metadata)) s) := by
  unfold S3Handler.uploadRawFile sending
  by_cases long : multipartThreshold ≤ data.length
  · rw [if_pos long,if_pos long]
    change outcome (multipartUpload service bucket key (Batches.batches multipartChunkSize data).flatten s) = _
    rw [Batches.batches_flatten (by decide)]
  · rw [if_neg long,if_neg long]
    rfl

end S3Transfers
end RiskPulse
