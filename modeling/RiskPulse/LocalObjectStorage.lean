import RiskPulse.S3Handler
import RiskPulse.Library.FileTree
import RiskPulse.Library.JsonText
import RiskPulse.Library.Runs
import Mathlib.Data.String.Basic

namespace RiskPulse

inductive LocalObjectStorageError where
  | invalidBucketName (bucket : String)
  | invalidObjectKey (key : String)
  | keyEscapesStorageRoot (key : String)
  | objectNotFound (bucket key : String)
  | embeddedNull
  | operatingSystem (error : FileTree.Error)
  | undecodable
  | json (error : Json.Error)
  | attribute
  | value
  deriving DecidableEq

-- The storage root is a tree of files of bytes.
abbrev StorageRoot := FileTree String (List UInt8)

-- int is Python's conversion of a text; the size of a directory is what stat says.
structure LocalObjectStorageClient where
  int : String → Option Int
  recursionLimit : Nat
  room : 2 ≤ recursionLimit
  directorySize : Nat

namespace LocalObjectStorage

inductive Body where
  | bytes (data : List UInt8)
  | text (content : String)
  | stream (rest : List UInt8)

def coerceBody : Body → List UInt8
  | .bytes data => data
  | .text content => Json.encodeUtf8 content
  | .stream rest => rest

def metadataSuffix : String := ".metadata.json"
def notificationsFile : String := ".notifications.json"

def bucketRoot (bucket : String) : Except LocalObjectStorageError String :=
  if bucket = "" ∨ '/' ∈ bucket.toList ∨ '\\' ∈ bucket.toList ∨ bucket ∈ [".",".."] then .error (.invalidBucketName bucket)
  else .ok bucket

def components (key : String) : List String :=
  (((key.toList.map fun c => if c = '\\' then '/' else c).splitOn '/').map String.ofList).filter (· ≠ "")

-- A path drops the components that are a single dot.
def parts (key : String) : List String := (components key).filter (· ≠ ".")

-- The bucket's own directory, where the key has no parts.
def objectFile (bucket : String) (below : List String) : FilePath String :=
  match below.getLast? with
  | none => ⟨[],bucket⟩
  | some name => ⟨bucket :: below.dropLast,name⟩

-- Without links a resolved path is the path, so that it never leaves the bucket.
def objectPath (bucket key : String) : Except LocalObjectStorageError (FilePath String) :=
  if key = "" ∨ key.toList.head? = some '/' then .error (.invalidObjectKey key)
  else if ".." ∈ components key then .error (.keyEscapesStorageRoot key)
  else (bucketRoot bucket).bind fun root =>
    if '\x00' ∈ root.toList ∨ '\x00' ∈ key.toList then .error .embeddedNull
    else if (objectFile root (parts key)).full ≠ [root] ∧ ¬[root] <+: (objectFile root (parts key)).full.dropLast then
      .error (.keyEscapesStorageRoot key)
    else .ok (objectFile root (parts key))

def metadataPath (p : FilePath String) : FilePath String := {p with name := p.name ++ metadataSuffix}

def payload (contentType : String) (metadata : OrderedDict String String) (now : Moment) : Json := .object [
  ("content_type",.str contentType),
  ("metadata",.object (metadata.entries.map fun entry => (entry.1,.str entry.2))),
  ("last_modified",.str now.isoformat)]

def metadataText (contentType : String) (metadata : OrderedDict String String) (now : Moment) : List UInt8 :=
  Json.encodeUtf8 (Json.dumpsLine (payload contentType metadata now))

def eTag (data : List UInt8) (now : Moment) : String :=
  "\"" ++ String.ofList (Nat.toDigits 16 data.length) ++ "-" ++ toString now.timestamp ++ "\""

def putObject (bucket key : String) (body : Body) (contentType : String) (metadata : Option (OrderedDict String String))
    (now : Moment) (t : StorageRoot) : Except LocalObjectStorageError String × StorageRoot :=
  let data := coerceBody body
  match objectPath bucket key with
  | .error e => (.error e,t)
  | .ok path =>
    match t.mkdirs [] path.parent with
    | .error e => (.error (.operatingSystem e),t)
    | .ok made =>
      match made.writeFile path data with
      | .error e => (.error (.operatingSystem e),made)
      | .ok written =>
        match written.writeFile (metadataPath path) (metadataText contentType (metadata.getD .empty) now) with
        | .error e => (.error (.operatingSystem e),written)
        | .ok described => (.ok (eTag data now),described)

-- A slice of a list: an index below zero counts from the end.
def slice (data : List UInt8) (start stop : Int) : List UInt8 :=
  let place (i : Int) : Nat := if i < 0 then (i + data.length).toNat else i.toNat
  (data.take (place stop)).drop (place start)

def sliceRange (c : LocalObjectStorageClient) (data : List UInt8) (byteRange : String) :
    Except LocalObjectStorageError (List UInt8) :=
  if "bytes=".toList <+: byteRange.toList then
    let range := byteRange.toList.drop 6
    let startText := range.takeWhile (· ≠ '-')
    let endText := (range.dropWhile (· ≠ '-')).drop 1
    let start := if startText = [] then some 0 else c.int (String.ofList startText)
    let last := if endText = [] then some (data.length - 1 : Int) else c.int (String.ofList endText)
    match start,last with
    | some start,some last => .ok (slice data start (last + 1))
    | _,_ => .error .value
  else .ok data

def requested (c : LocalObjectStorageClient) (data : List UInt8) (range : Option String) :
    Except LocalObjectStorageError (List UInt8) :=
  match range with
  | none => .ok data
  | some text => if text = "" then .ok data else sliceRange c data text

def readMetadata (c : LocalObjectStorageClient) (p : FilePath String) (t : StorageRoot) : Except LocalObjectStorageError Json :=
  match t.node? (metadataPath p).full with
  | none => .ok (.object [])
  | some .directory => .error (.operatingSystem .isDirectory)
  | some (.file bytes) =>
    match Json.decodeUtf8 bytes with
    | none => .error .undecodable
    | some text => (Json.loads c.recursionLimit text).mapError .json

-- The get of a dict; other values have none. Of two members with one key the later stands.
def member (metadata : Json) (key : String) (fallback : Json) : Except LocalObjectStorageError Json :=
  match metadata with
  | .object members => .ok ((OrderedDict.ofList members).getD key fallback)
  | _ => .error .attribute

structure Description where
  contentType : Json
  metadata : Json

def describe (metadata : Json) : Except LocalObjectStorageError Description :=
  (member metadata "content_type" (.str "application/octet-stream")).bind fun contentType =>
    (member metadata "metadata" (.object [])).bind fun own => .ok ⟨contentType,own⟩

structure ObjectResponse where
  body : List UInt8
  contentLength : Nat
  description : Description

def getObject (c : LocalObjectStorageClient) (bucket key : String) (range : Option String) (t : StorageRoot) :
    Except LocalObjectStorageError ObjectResponse :=
  (objectPath bucket key).bind fun path =>
    match t.node? path.full with
    | none => .error (.objectNotFound bucket key)
    | some .directory => .error (.operatingSystem .isDirectory)
    | some (.file content) =>
      (requested c content range).bind fun data =>
        (readMetadata c path t).bind fun metadata => (describe metadata).map fun description => ⟨data,data.length,description⟩

structure HeadResponse where
  contentLength : Nat
  description : Description

def headObject (c : LocalObjectStorageClient) (bucket key : String) (t : StorageRoot) :
    Except LocalObjectStorageError HeadResponse :=
  (objectPath bucket key).bind fun path =>
    match t.node? path.full with
    | none => .error (.objectNotFound bucket key)
    | some node =>
      (readMetadata c path t).bind fun metadata => (describe metadata).map fun description =>
        match node with
        | .directory => ⟨c.directorySize,description⟩
        | .file content => ⟨content.length,description⟩

structure ObjectSummary where
  key : String
  size : Nat
  deriving DecidableEq

def isMetadataName (name : String) : Bool := decide (metadataSuffix.toList <:+ name.toList)

def collect (wanted : List Char) (maxKeys : Option Int) (contents : List ObjectSummary) :
    List (List String × List UInt8) → List ObjectSummary
  | [] => contents
  | (path,data) :: rest =>
    if isMetadataName (path.getLastD "") then collect wanted maxKeys contents rest
    else
      let key := Text.join '/' path
      if wanted ≠ [] ∧ ¬wanted <+: key.toList then collect wanted maxKeys contents rest
      else
        let longer := contents ++ [⟨key,data.length⟩]
        match maxKeys with
        | none => collect wanted maxKeys longer rest
        | some most => if most ≠ 0 ∧ most ≤ longer.length then longer else collect wanted maxKeys longer rest

def listObjectsV2 (bucket wanted : String) (maxKeys : Option Int) (t : StorageRoot) :
    Except LocalObjectStorageError (List ObjectSummary) :=
  (bucketRoot bucket).map fun root =>
    match t.node? [root] with
    | some .directory => collect (normalizeObjectPrefix wanted) maxKeys [] (t.listing (· ≤ ·) [root])
    | _ => []

def putBucketNotificationConfiguration (bucket : String) (configuration : Json) (t : StorageRoot) :
    Except LocalObjectStorageError Unit × StorageRoot :=
  match bucketRoot bucket with
  | .error e => (.error e,t)
  | .ok root =>
    if '\x00' ∈ root.toList then (.error .embeddedNull,t)
    else
      match t.mkdirs [] [root] with
      | .error e => (.error (.operatingSystem e),t)
      | .ok made =>
        match made.writeFile ⟨[root],notificationsFile⟩ (Json.encodeUtf8 (Json.dumps configuration)) with
        | .error e => (.error (.operatingSystem e),made)
        | .ok written => (.ok (),written)

-- upload_raw_file and download_parquet raise their own errors for any of the client's.
def batchClient (c : LocalObjectStorageClient) : BatchClient StorageRoot LocalObjectStorageError where
  uploadRawFile bucket key data contentType metadata now t :=
    let put := putObject bucket key (.bytes data) contentType (some metadata) now t
    (put.1.map fun _ => (),put.2)
  download bucket key t := (getObject c bucket key none t).map ObjectResponse.body
  keys bucket wanted t := (listObjectsV2 bucket (String.ofList wanted) none t).map fun contents => contents.map ObjectSummary.key

end LocalObjectStorage

namespace LocalObjectStorageHandler

def writeBatch (c : LocalObjectStorageClient) (parquet : Parquet ρ) := (LocalObjectStorage.batchClient c).writeBatch parquet
def readBatch (c : LocalObjectStorageClient) (parquet : Parquet ρ) := (LocalObjectStorage.batchClient c).readBatch parquet

end LocalObjectStorageHandler

end RiskPulse
