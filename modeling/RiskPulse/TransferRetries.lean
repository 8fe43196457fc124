import RiskPulse.S3Transfers

namespace RiskPulse

inductive S3Operation (ρ : Type) : Type → Type 1 where
  | uploadTransactions (transactions : List ρ) (timestamp : Option PartitionTime) (bucket pre : String) : S3Operation ρ String
  | uploadRawFile (data : List UInt8) (key bucket contentType : String) (metadata : Option (OrderedDict String String)) : S3Operation ρ String
  | downloadParquet (bucket key : String) : S3Operation ρ (List ρ)

namespace S3Transfers
open Retry
variable {σ ρ α : Type} (service : S3Service σ) (parquet : Parquet ρ)

-- One attempt of the wrapped function.
def once : S3Operation ρ α → Transferring σ S3Raised α
  | .uploadTransactions transactions timestamp bucket pre => uploadTransactionsOnce service parquet transactions timestamp bucket pre
  | .uploadRawFile data key bucket contentType metadata => uploadRawFileOnce service data key bucket contentType metadata
  | .downloadParquet bucket key => downloadParquetOnce service parquet bucket key

def call : S3Operation ρ α → Transferring σ S3Raised α
  | .uploadTransactions transactions timestamp bucket pre => uploadTransactions service parquet transactions timestamp bucket pre
  | .uploadRawFile data key bucket contentType metadata => uploadRawFile service data key bucket contentType metadata
  | .downloadParquet bucket key => downloadParquet service parquet bucket key

-- The attempts that a call makes.
def attempts (op : S3Operation ρ α) (s : S3Session σ) : Nat :=
  (stateOf (retrying S3Raised.isClientError 2 (counted (once service parquet op)) (s,0))).2

-- A part or the completion of a multipart upload raises; the parts before it went through.
inductive Broken (bucket key uploadId : String) (e : ClientRaised) : List (List UInt8) → Nat → List (Nat × String) → σ → σ → Prop where
  | completion : service.completeMultipartUpload bucket key uploadId parts s = .error e t → Broken bucket key uploadId e [] number parts s t
  | part : service.uploadPart bucket key uploadId number chunk s = .error e t → Broken bucket key uploadId e (chunk :: rest) number parts s t
  | later : service.uploadPart bucket key uploadId number chunk s = .ok etag u →
      Broken bucket key uploadId e rest (number + 1) (parts ++ [(number,etag)]) u t →
        Broken bucket key uploadId e (chunk :: rest) number parts s t

-- The client's answers to a multipart upload end in this exception: that of the creation,
-- of the abort, or of the part or the completion that made the handler abort.
inductive MultipartRaises (bucket key : String) (data : List UInt8) (e : ClientRaised) (s : σ) : Prop where
  | creation : service.createMultipartUpload bucket key "application/x-parquet" s = .error e t → MultipartRaises bucket key data e s
  | abort : service.createMultipartUpload bucket key "application/x-parquet" s = .ok uploadId u →
      Broken service bucket key uploadId first (Batches.batches multipartChunkSize data) 1 [] u v →
        service.abortMultipartUpload bucket key uploadId v = .error e t → MultipartRaises bucket key data e s
  | aborted : service.createMultipartUpload bucket key "application/x-parquet" s = .ok uploadId u →
      Broken service bucket key uploadId e (Batches.batches multipartChunkSize data) 1 [] u v →
        service.abortMultipartUpload bucket key uploadId v = .ok () t → MultipartRaises bucket key data e s

-- The session and the key once an attempt at a batch of transactions has drawn its name.
def Named (timestamp : Option PartitionTime) (pre : String) (s : S3Session σ) (key : String) (u : S3Session σ) : Prop :=
  ∃ path name t, buildPartitionPath (ε := S3Raised) service pre timestamp s = .ok path t ∧ drawing (ε := S3Raised) service.uuid t = .ok name u ∧
    key = generateFileKey path.toList "parquet" name

-- An attempt at a batch of transactions fails with a ClientError of the client.
inductive TransactionsRefused (transactions : List ρ) (timestamp : Option PartitionTime) (bucket pre : String) (s : S3Session σ) : Prop where
  | parts : transactions ≠ [] → parquet.write transactions = some bytes → Named service timestamp pre s key u →
      multipartThreshold ≤ bytes.length → MultipartRaises service bucket key bytes (.clientError message) u.world →
        TransactionsRefused transactions timestamp bucket pre s
  | whole : transactions ≠ [] → parquet.write transactions = some bytes → Named service timestamp pre s key u →
      ¬multipartThreshold ≤ bytes.length → stamp (ε := ClientRaised) service timestamp u = .ok time v →
        service.putObject bucket key bytes "application/x-parquet" (some (transactionMetadata transactions.length time)) v.world =
          .error (.clientError message) w → TransactionsRefused transactions timestamp bucket pre s

-- An attempt at an operation fails with a ClientError of the client.
def Refused : S3Operation ρ α → S3Session σ → Prop
  | .uploadTransactions transactions timestamp bucket pre,s => TransactionsRefused service parquet transactions timestamp bucket pre s
  | .uploadRawFile data key bucket contentType metadata,s =>
    if multipartThreshold ≤ data.length then ∃ message, MultipartRaises service bucket key data (.clientError message) s.world
    else ∃ message w, service.putObject bucket key data contentType (passed metadata) s.world = .error (.clientError message) w
  | .downloadParquet bucket key,s => ∃ message w, service.getObject bucket key s.world = .error (.clientError message) w

-- An attempt at a download fails with another exception.
def Unparsed : S3Operation ρ α → S3Session σ → Prop
  | .downloadParquet bucket key,s =>
    (∃ message w, service.getObject bucket key s.world = .error (.other message) w) ∨
      ∃ body w, service.getObject bucket key s.world = .ok body w ∧ parquet.read body = none
  | _,_ => False

-- Up to two failed attempts are made good by the next one, and S3UploadError and
-- S3DownloadError come of three.
structure TransientRetried (op : S3Operation ρ α) (s : S3Session σ) : Prop where
  succeeds : ∀ n ≤ 2, (∀ i < n, Refused service parquet op (after (once service parquet op) i s)) →
    (∃ a t, once service parquet op (after (once service parquet op) n s) = .ok a t) → ∃ a t, call service parquet op s = .ok a t
  exhausted : ∀ e t, call service parquet op s = .error e t → e.isTransferError = true → attempts service parquet op s = 3

section Attempt
variable {service : S3Service σ} {parquet : Parquet ρ}

theorem calling_raised (m : Call σ ClientRaised α) : (∃ t, calling m s = .error e t) ↔ ∃ w, m s.world = .error e w := by
  unfold calling
  cases m s.world with
  | ok a w => simp
  | error e' w => simp

theorem parts_broken (bucket key uploadId : String) (data : List UInt8) (offset number : Nat) (parts : List (Nat × String)) (s : σ) :
    (uploadParts service bucket key uploadId data offset number parts >>= service.completeMultipartUpload bucket key uploadId) s = .error e t ↔
      Broken service bucket key uploadId e (Batches.batches multipartChunkSize (data.drop offset)) number parts s t := by
  fun_induction uploadParts service bucket key uploadId data offset number parts generalizing s with
  | case1 offset number parts more ih =>
    have some : data.drop offset ≠ [] := mt List.drop_eq_nil_iff.mp (Nat.not_le_of_lt more)
    rw [Batches.batches_cons (by decide) _ some,List.drop_drop,bind_assoc,bind_raised]
    constructor
    · intro either
      rcases either with raised | ⟨etag,u,sent,raised⟩
      · exact .part raised
      · exact .later sent ((ih etag u).mp raised)
    · intro broken
      cases broken with
      | part raised => exact .inl raised
      | later sent rest => exact .inr ⟨_,_,sent,(ih _ _).mpr rest⟩
  | case2 offset number parts done =>
    have none : data.drop offset = [] := List.drop_eq_nil_of_le (Nat.le_of_not_lt done)
    rw [none,Batches.batches_nil,pure_bind]
    constructor
    · exact .completion
    · intro broken
      cases broken with
      | completion raised => exact raised

theorem multipart_raises (bucket key : String) (data : List UInt8) (s : σ) :
    (∃ t, multipartUpload service bucket key data s = .error e t) ↔ MultipartRaises service bucket key data e s := by
  have sent : ∀ uploadId u v first, (do
      let parts ← uploadParts service bucket key uploadId data 0 1 []
      service.completeMultipartUpload bucket key uploadId parts) u = .error first v ↔
        Broken service bucket key uploadId first (Batches.batches multipartChunkSize data) 1 [] u v :=
    fun uploadId u v first => parts_broken bucket key uploadId data 0 1 [] u
  constructor
  · intro raised
    obtain ⟨t,raised⟩ := raised
    rcases bind_raised.mp raised with refused | ⟨uploadId,u,created,raised⟩
    · exact .creation refused
    · obtain ⟨first,v,failed,handled⟩ := handling_raised.mp raised
      rcases bind_raised.mp handled with refused | ⟨_,w,aborted,again⟩
      · exact .abort created ((sent uploadId u v first).mp failed) refused
      · cases again
        exact .aborted created ((sent uploadId u v _).mp failed) aborted
  · intro raises
    cases raises with
    | creation refused => exact ⟨_,bind_raised.mpr (.inl refused)⟩
    | abort created broken refused =>
      exact ⟨_,bind_raised.mpr (.inr ⟨_,_,created,handling_raised.mpr ⟨_,_,(sent _ _ _ _).mpr broken,bind_raised.mpr (.inl refused)⟩⟩)⟩
    | @aborted uploadId u v t created broken aborted =>
      have thrown : (do
          service.abortMultipartUpload bucket key uploadId
          throw e : Call σ ClientRaised Unit) v = .error e t := bind_raised.mpr (.inr ⟨(),t,aborted,rfl⟩)
      exact ⟨t,bind_raised.mpr (.inr ⟨uploadId,u,created,handling_raised.mpr ⟨e,v,(sent uploadId u v e).mpr broken,thrown⟩⟩)⟩

-- What the upload bodies raise: an S3UploadError where the client raised a ClientError, and
-- never a ClientError.
theorem uploadFailed_transfer {body : Transferring σ ClientRaised α} :
    (∃ e t, handling body (uploadFailed bucket key) s = .error e t ∧ e.isTransferError = true) ↔
      ∃ message t, body s = .error (.clientError message) t := by
  constructor
  · intro raised
    obtain ⟨e,t,raised,transfer⟩ := raised
    obtain ⟨cause,u,failed,handled⟩ := handling_raised.mp raised
    cases cause with
    | clientError message => exact ⟨message,u,failed⟩
    | other message =>
      cases handled
      cases transfer
  · intro raised
    obtain ⟨message,t,failed⟩ := raised
    exact ⟨_,_,handling_raised.mpr ⟨_,t,failed,rfl⟩,rfl⟩

theorem uploadFailed_client {body : Transferring σ ClientRaised α} (raised : handling body (uploadFailed bucket key) s = .error e t) :
    e.isClientError = false := by
  obtain ⟨cause,u,_,handled⟩ := handling_raised.mp raised
  cases cause with
  | clientError message =>
    cases handled
    rfl
  | other message =>
    cases handled
    rfl

theorem downloadFailed_transfer {body : Transferring σ ClientRaised α} (raised : handling body (downloadFailed bucket key) s = .error e t) :
    e.isTransferError = true := by
  obtain ⟨cause,u,_,handled⟩ := handling_raised.mp raised
  cases cause with
  | clientError message =>
    cases handled
    rfl
  | other message =>
    cases handled
    rfl

theorem transfer_client {e : S3Raised} (transfer : e.isTransferError = true) : e.isClientError = false := by
  cases e with
  | client cause => cases transfer
  | uploadError message => rfl
  | downloadError message => rfl
  | valueError message => rfl

-- The name of the key comes without an exception.
theorem named (service : S3Service σ) (timestamp : Option PartitionTime) (pre : String) (s : S3Session σ) :
    ∃ path name t u, buildPartitionPath (ε := S3Raised) service pre timestamp s = .ok path t ∧
      drawing (ε := S3Raised) service.uuid t = .ok name u := by
  cases timestamp with
  | none => exact ⟨_,_,_,_,rfl,rfl⟩
  | some time => exact ⟨_,_,_,_,rfl,rfl⟩

theorem named_once (first : Named service timestamp pre s key u) (second : Named service timestamp pre s key' u') :
    key = key' ∧ u = u' := by
  obtain ⟨path,name,t,walked,drawn,same⟩ := first
  obtain ⟨path',name',t',walked',drawn',same'⟩ := second
  cases walked.symm.trans walked'
  cases drawn.symm.trans drawn'
  exact ⟨same.trans same'.symm,rfl⟩

-- Once the object is sent nothing more is raised.
theorem sent_raised {m : Transferring σ ε Unit} (change : S3Metrics → S3Metrics) (key : String) :
    (do
      m
      recording change
      pure key) s = .error e t ↔ m s = .error e t := by
  rw [bind_raised]
  constructor
  · intro either
    rcases either with raised | ⟨_,_,_,impossible⟩
    · exact raised
    · cases impossible
  · exact .inl

theorem transactions_refused (timestamp : Option PartitionTime) (count : Nat) (u : S3Session σ) :
    (∃ t, sendingTransactions service bucket key bytes count timestamp u = .error e t) ↔
      (multipartThreshold ≤ bytes.length ∧ MultipartRaises service bucket key bytes e u.world) ∨
        ¬multipartThreshold ≤ bytes.length ∧ ∃ time v w, stamp (ε := ClientRaised) service timestamp u = .ok time v ∧
          service.putObject bucket key bytes "application/x-parquet" (some (transactionMetadata count time)) v.world = .error e w := by
  unfold sendingTransactions
  by_cases long : multipartThreshold ≤ bytes.length
  · rw [if_pos long,calling_raised,multipart_raises]
    simp [long]
  · rw [if_neg long]
    have stamped : ∃ time v, stamp (ε := ClientRaised) service timestamp u = .ok time v := by
      cases timestamp with
      | none => exact ⟨_,_,rfl⟩
      | some time => exact ⟨_,_,rfl⟩
    obtain ⟨time,v,drawn⟩ := stamped
    rw [bind_ok _ drawn,calling_raised]
    simp [long,drawn]

theorem once_transactions (transactions : List ρ) (timestamp : Option PartitionTime) (bucket pre : String) (s : S3Session σ) :
    (∃ e t, uploadTransactionsOnce service parquet transactions timestamp bucket pre s = .error e t ∧ e.isTransferError = true) ↔
      TransactionsRefused service parquet transactions timestamp bucket pre s := by
  unfold uploadTransactionsOnce
  by_cases bare : transactions = []
  · rw [if_pos bare]
    constructor
    · intro raised
      obtain ⟨e,t,raised,transfer⟩ := raised
      cases raised
      cases transfer
    · intro refused
      cases refused with
      | parts filled => exact absurd bare filled
      | whole filled => exact absurd bare filled
  · obtain ⟨path,name,t,u,walked,drawn⟩ := named service timestamp pre s
    have given : Named service timestamp pre s (generateFileKey path.toList "parquet" name) u := ⟨path,name,t,walked,drawn,rfl⟩
    rw [if_neg bare,bind_ok _ walked,bind_ok _ drawn,uploadFailed_transfer]
    unfold transactionsToParquet
    cases written : parquet.write transactions with
    | none =>
      constructor
      · intro raised
        obtain ⟨message,t,impossible⟩ := raised
        cases impossible
      · intro refused
        cases refused with
        | parts _ bytes => cases written.symm.trans bytes
        | whole _ bytes => cases written.symm.trans bytes
    | some bytes =>
      simp only [pure_bind,sent_raised,transactions_refused]
      constructor
      · intro raised
        obtain ⟨message,⟨long,parts⟩ | ⟨short,time,v,w,stamped,refused⟩⟩ := raised
        · exact .parts bare written given long parts
        · exact .whole bare written given short stamped refused
      · intro refused
        cases refused with
        | @parts bytes' key v message _ same there long parts =>
          cases written.symm.trans same
          obtain ⟨rfl,rfl⟩ := named_once there given
          exact ⟨message,.inl ⟨long,parts⟩⟩
        | @whole bytes' key v time w message x _ same there short stamped refused =>
          cases written.symm.trans same
          obtain ⟨rfl,rfl⟩ := named_once there given
          exact ⟨message,.inr ⟨short,time,_,_,stamped,refused⟩⟩

theorem once_file (data : List UInt8) (key bucket contentType : String) (metadata : Option (OrderedDict String String)) (s : S3Session σ) :
    (∃ e t, uploadRawFileOnce service data key bucket contentType metadata s = .error e t ∧ e.isTransferError = true) ↔
      Refused service parquet (.uploadRawFile data key bucket contentType metadata) s := by
  unfold uploadRawFileOnce Refused sending
  rw [uploadFailed_transfer]
  simp only [sent_raised,calling_raised]
  by_cases long : multipartThreshold ≤ data.length
  · simp only [if_pos long,multipart_raises]
  · simp only [if_neg long]

-- Whatever an attempt at a download fails with, it raises an S3DownloadError.
theorem download_failing (bucket key : String) (s : S3Session σ) :
    (∃ e t, downloadParquetOnce service parquet bucket key s = .error e t ∧ e.isTransferError = true) ↔
      ∃ cause t, (do
        let body ← calling (service.getObject bucket key)
        recording (S3Metrics.recordDownload body.length)
        readTable service parquet body) s = .error cause t := by
  constructor
  · intro raised
    obtain ⟨e,t,raised,_⟩ := raised
    obtain ⟨cause,u,failed,_⟩ := handling_raised.mp raised
    exact ⟨cause,u,failed⟩
  · intro raised
    obtain ⟨cause,u,failed⟩ := raised
    have handled : ∃ e t, downloadFailed (α := List ρ) bucket key cause u = .error e t := by
      cases cause with
      | clientError message => exact ⟨_,_,rfl⟩
      | other message => exact ⟨_,_,rfl⟩
    obtain ⟨e,t,handled⟩ := handled
    have raised := handling_raised.mpr ⟨cause,u,failed,handled⟩
    exact ⟨e,t,raised,downloadFailed_transfer raised⟩

theorem once_download (bucket key : String) (s : S3Session σ) :
    (∃ e t, downloadParquetOnce service parquet bucket key s = .error e t ∧ e.isTransferError = true) ↔
      Refused service parquet (.downloadParquet bucket key) s ∨ Unparsed service parquet (.downloadParquet bucket key) s := by
  rw [download_failing]
  unfold Refused Unparsed
  cases got : service.getObject bucket key s.world with
  | error cause w =>
    have raised : calling (service.getObject bucket key) s = .error cause {s with world := w} := by rw [calling,got]
    rw [bind_error _ raised]
    cases cause with
    | clientError message => exact ⟨fun _ => .inl ⟨message,w,got⟩,fun _ => ⟨_,_,rfl⟩⟩
    | other message => exact ⟨fun _ => .inr (.inl ⟨message,w,got⟩),fun _ => ⟨_,_,rfl⟩⟩
  | ok body w =>
    have returned : calling (service.getObject bucket key) s = .ok body {s with world := w} := by rw [calling,got]
    rw [bind_ok _ returned]
    cases read : parquet.read body with
    | none =>
      have raised : readTable service parquet body = throw (.other (service.unreadable body)) := by rw [readTable,read]
      rw [raised]
      exact ⟨fun _ => .inr (.inr ⟨body,w,got,read⟩),fun _ => ⟨_,_,rfl⟩⟩
    | some table =>
      have found : readTable service parquet body = pure (f := Transferring σ ClientRaised) table := by rw [readTable,read]
      rw [found]
      constructor
      · intro impossible
        obtain ⟨_,_,impossible⟩ := impossible
        cases impossible
      · intro either
        rcases either with ⟨_,_,impossible⟩ | ⟨_,_,impossible⟩ | ⟨body',w',same,unreadable⟩
        · cases got.symm.trans impossible
        · cases got.symm.trans impossible
        · cases got.symm.trans same
          cases read.symm.trans unreadable

-- An attempt raises S3UploadError or S3DownloadError exactly where it is refused or its
-- file cannot be read.
theorem once_transfer (op : S3Operation ρ α) (s : S3Session σ) :
    (∃ e t, once service parquet op s = .error e t ∧ e.isTransferError = true) ↔
      Refused service parquet op s ∨ Unparsed service parquet op s := by
  cases op with
  | uploadTransactions transactions timestamp bucket pre => exact (once_transactions transactions timestamp bucket pre s).trans (or_iff_left id).symm
  | uploadRawFile data key bucket contentType metadata =>
    exact (once_file data key bucket contentType metadata s).trans (or_iff_left id).symm
  | downloadParquet bucket key => exact once_download bucket key s

theorem transactions_client (raised : uploadTransactionsOnce service parquet transactions timestamp bucket pre s = .error e t) :
    e.isClientError = false := by
  unfold uploadTransactionsOnce at raised
  by_cases bare : transactions = []
  · rw [if_pos bare] at raised
    cases raised
    rfl
  · obtain ⟨path,name,_,u,walked,drawn⟩ := named service timestamp pre s
    rw [if_neg bare,bind_ok _ walked,bind_ok _ drawn] at raised
    exact uploadFailed_client raised

-- No ClientError leaves an attempt, so that none is retried.
theorem once_client (service : S3Service σ) (parquet : Parquet ρ) (op : S3Operation ρ α) (s : S3Session σ) (e : S3Raised) (t : S3Session σ) (raised : once service parquet op s = .error e t) :
    e.isClientError = false := by
  cases op with
  | uploadTransactions transactions timestamp bucket pre => exact transactions_client raised
  | uploadRawFile data key bucket contentType metadata => exact uploadFailed_client raised
  | downloadParquet bucket key => exact transfer_client (downloadFailed_transfer raised)

theorem call_once (service : S3Service σ) (parquet : Parquet ρ) (op : S3Operation ρ α) : call service parquet op = once service parquet op := by
  have settled := retrying_once 2 (once_client service parquet op)
  cases op with
  | uploadTransactions transactions timestamp bucket pre => exact settled
  | uploadRawFile data key bucket contentType metadata => exact settled
  | downloadParquet bucket key => exact settled

theorem one_attempt (op : S3Operation ρ α) (s : S3Session σ) : attempts service parquet op s = 1 := by
  unfold attempts
  rw [retrying_once 2 (counted_never (once_client service parquet op))]
  cases came : once service parquet op s with
  | ok a t => rw [counted_ok came]; rfl
  | error e t => rw [counted_error came]; rfl

end Attempt

theorem transient_retried (op : S3Operation ρ α) (s : S3Session σ) :
    TransientRetried service parquet op s ↔ ¬Refused service parquet op s ∧ ¬Unparsed service parquet op s := by
  rw [← not_or]
  constructor
  · intro retried failed
    obtain ⟨e,t,raised,transfer⟩ := (once_transfer op s).mpr failed
    have three := retried.exhausted e t ((congrFun (call_once service parquet op) s).trans raised) transfer
    rw [one_attempt] at three
    cases three
  · intro smooth
    refine ⟨?_,?_⟩
    · intro n few failing succeeded
      cases n with
      | zero =>
        rw [call_once]
        exact succeeded
      | succ n => exact absurd (.inl (failing 0 (Nat.succ_pos n))) smooth
    · intro e t raised transfer
      rw [call_once] at raised
      exact absurd ((once_transfer op s).mp ⟨e,t,raised,transfer⟩) smooth

def exampleName : GeneratedName := ⟨"20260615100000","0123456789ab",rfl,rfl⟩

-- A client whose first call raises a ClientError and whose later ones succeed.
def throttled : S3Service Nat where
  putObject _ _ _ _ _ := fun calls => if calls = 0 then .error (.clientError "SlowDown") 1 else .ok () (calls + 1)
  createMultipartUpload _ _ _ := pure "1"
  uploadPart _ _ _ _ _ := pure "etag"
  completeMultipartUpload _ _ _ _ := pure ()
  abortMultipartUpload _ _ _ := pure ()
  getObject _ _ := pure []
  now := fun calls => (⟨2026,6,15,10,"2026-06-15T10:00:00+00:00"⟩,calls)
  uuid := fun calls => (exampleName,calls)
  unwritable := "unwritable"
  unreadable _ := "unreadable"

def oneByte : S3Operation Unit String := .uploadRawFile [104] "k" "riskpulse-raw" "text/plain" none

def unused : S3Session Nat := ⟨0,⟨0,0,0,0,0,0⟩⟩

theorem transient_error_raised :
    (∃ t, call throttled ⟨fun _ => none,fun _ => none⟩ oneByte unused = .error (.uploadError "Failed to upload to s3://riskpulse-raw/k: SlowDown") t) ∧
      ¬TransientRetried throttled ⟨fun _ => none,fun _ => none⟩ oneByte unused := by
  refine ⟨⟨_,rfl⟩,fun retried => ?_⟩
  have refused : Refused throttled ⟨fun _ => none,fun _ => none⟩ oneByte unused := ⟨"SlowDown",1,rfl⟩
  have made : ∃ a t, call throttled ⟨fun _ => none,fun _ => none⟩ oneByte unused = .ok a t := by
    apply retried.succeeds 1 (by decide)
    · intro i first
      cases Nat.lt_one_iff.mp first
      exact refused
    · exact ⟨_,_,rfl⟩
  obtain ⟨a,t,made⟩ := made
  cases made

end S3Transfers
end RiskPulse
