import RiskPulse.TransferRetries
import RiskPulse.Library.ObjectStore

namespace RiskPulse
namespace S3Transfers
open Retry ObjectStore
variable {σ α ε : Type}

abbrev S3Store := Store (String × String) UInt8 (OrderedDict String String)

-- A call that raises makes no object and changes none.
def Harmless (view : σ → S3Store) (request : Call σ ClientRaised α) : Prop :=
  ∀ s e t, request s = .error e t → (view t).objects = (view s).objects

-- What S3 answers, as far as objects and uploads go.
structure S3Answers (service : S3Service σ) (view : σ → S3Store) : Prop where
  put : ∀ bucket key body contentType metadata s t, service.putObject bucket key body contentType metadata s = .ok () t →
    view t = (view s).put (bucket,key) ⟨body,contentType,metadata.getD OrderedDict.empty⟩
  create : ∀ bucket key contentType s uploadId t, service.createMultipartUpload bucket key contentType s = .ok uploadId t →
    view t = (view s).opened uploadId (bucket,key) contentType
  part : ∀ bucket key uploadId number body s etag t, service.uploadPart bucket key uploadId number body s = .ok etag t →
    ∀ upload, (view s).uploads uploadId = some upload → upload.key = (bucket,key) →
      view t = (view s).parted uploadId (upload.part number etag body)
  complete : ∀ bucket key uploadId parts s t, service.completeMultipartUpload bucket key uploadId parts s = .ok () t →
    ∀ upload, (view s).uploads uploadId = some upload → upload.key = (bucket,key) →
      ∃ body, upload.assembled parts = some body ∧
        view t = ((view s).dropped uploadId).put (bucket,key) ⟨body,upload.contentType,OrderedDict.empty⟩
  abort : ∀ bucket key uploadId s t, service.abortMultipartUpload bucket key uploadId s = .ok () t → view t = (view s).dropped uploadId
  put_raised : ∀ bucket key body contentType metadata, Harmless view (service.putObject bucket key body contentType metadata)
  create_raised : ∀ bucket key contentType, Harmless view (service.createMultipartUpload bucket key contentType)
  part_raised : ∀ bucket key uploadId number body, Harmless view (service.uploadPart bucket key uploadId number body)
  complete_raised : ∀ bucket key uploadId parts, Harmless view (service.completeMultipartUpload bucket key uploadId parts)
  abort_raised : ∀ bucket key uploadId, Harmless view (service.abortMultipartUpload bucket key uploadId)

inductive S3Call where
  | putObject (bucket key : String) (body : List UInt8) (contentType : String) (metadata : Option (OrderedDict String String))
  | create (bucket key contentType : String) (uploadId : Option String)
  | part (bucket key uploadId : String) (number : Nat) (body : List UInt8)
  | complete (bucket key uploadId : String) (parts : List (Nat × String))
  | abort (bucket key uploadId : String) (answered : Bool)

def logged (entry : Option α → S3Call) (request : Call σ ε α) : Call (σ × List S3Call) ε α := fun s =>
  match request s.1 with
  | .ok a t => .ok a (t,s.2 ++ [entry (some a)])
  | .error e t => .error e (t,s.2 ++ [entry none])

-- The same client with its calls recorded.
def recorded (service : S3Service σ) : S3Service (σ × List S3Call) where
  putObject bucket key body contentType metadata :=
    logged (fun _ => .putObject bucket key body contentType metadata) (service.putObject bucket key body contentType metadata)
  createMultipartUpload bucket key contentType :=
    logged (.create bucket key contentType) (service.createMultipartUpload bucket key contentType)
  uploadPart bucket key uploadId number body :=
    logged (fun _ => .part bucket key uploadId number body) (service.uploadPart bucket key uploadId number body)
  completeMultipartUpload bucket key uploadId parts :=
    logged (fun _ => .complete bucket key uploadId parts) (service.completeMultipartUpload bucket key uploadId parts)
  abortMultipartUpload bucket key uploadId :=
    logged (fun answer => .abort bucket key uploadId answer.isSome) (service.abortMultipartUpload bucket key uploadId)
  getObject bucket key := fun s =>
    match service.getObject bucket key s.1 with
    | .ok body t => .ok body (t,s.2)
    | .error e t => .error e (t,s.2)
  now s := ((service.now s.1).1,(service.now s.1).2,s.2)
  uuid s := ((service.uuid s.1).1,(service.uuid s.1).2,s.2)
  unwritable := service.unwritable
  unreadable := service.unreadable

def partOf : S3Call → Option (Nat × List UInt8)
  | .part _ _ _ number body => some (number,body)
  | _ => none

-- What a call of upload_raw_file leaves: after a success the object as it was given, of
-- parts from 1 on that make the data where it went in parts; after a failure of a part or
-- of the completion an aborted upload and the objects as they were.
structure Delivered (service : S3Service σ) (view : σ → S3Store) (data : List UInt8) (key bucket contentType : String)
    (metadata : Option (OrderedDict String String)) (s : σ) (metrics : S3Metrics) : Prop where
  stored : ∀ k u, uploadRawFile (recorded service) data key bucket contentType metadata ⟨(s,[]),metrics⟩ = .ok k u →
    (view u.world.1).objects (bucket,key) = some ⟨data,contentType,metadata.getD OrderedDict.empty⟩
  numbered : ∀ k u type uploadId, uploadRawFile (recorded service) data key bucket contentType metadata ⟨(s,[]),metrics⟩ = .ok k u →
    S3Call.create bucket key type uploadId ∈ u.world.2 → ∃ chunks : List (List UInt8),
      u.world.2.filterMap partOf = (List.range' 1 chunks.length).zip chunks ∧ chunks.flatten = data
  aborted : ∀ e u type uploadId, uploadRawFile (recorded service) data key bucket contentType metadata ⟨(s,[]),metrics⟩ = .error e u →
    S3Call.create bucket key type (some uploadId) ∈ u.world.2 →
      (∃ before answered, u.world.2 = before ++ [.abort bucket key uploadId answered] ∧
        (answered = true → (view u.world.1).uploads uploadId = none)) ∧ (view u.world.1).objects = (view s).objects

def PathsAgree (data : List UInt8) (contentType : String) (metadata : Option (OrderedDict String String)) : Prop :=
  ∀ (σ : Type) (service : S3Service σ) (view : σ → S3Store), S3Answers service view →
    ∀ key bucket s metrics, Delivered service view data key bucket contentType metadata s metrics

section Runs
variable {service : S3Service σ} {view : σ → S3Store}

theorem logged_ok {request : Call σ ε α} (ran : request s = .ok a t) (entry : Option α → S3Call) (log : List S3Call) :
    logged entry request (s,log) = .ok a (t,log ++ [entry (some a)]) := by
  rw [logged,ran]

theorem logged_error {request : Call σ ε α} (ran : request s = .error e t) (entry : Option α → S3Call) (log : List S3Call) :
    logged entry request (s,log) = .error e (t,log ++ [entry none]) := by
  rw [logged,ran]

-- The calls that send these parts, numbered from one number on.
def partCalls (bucket key uploadId : String) : Nat → List (List UInt8) → List S3Call
  | _,[] => []
  | number,chunk :: rest => .part bucket key uploadId number chunk :: partCalls bucket key uploadId (number + 1) rest

theorem partCalls_parts (bucket key uploadId : String) (number : Nat) (chunks : List (List UInt8)) :
    (partCalls bucket key uploadId number chunks).filterMap partOf = (List.range' number chunks.length).zip chunks := by
  induction chunks generalizing number with
  | nil => rfl
  | cons chunk rest ih =>
    have first : partOf (.part bucket key uploadId number chunk) = some (number,chunk) := rfl
    rw [partCalls,List.filterMap_cons_some first,ih,List.length_cons,List.range'_succ,List.zip_cons_cons]

theorem partCalls_only (bucket key uploadId : String) (number : Nat) (chunks : List (List UInt8)) :
    ∀ call ∈ partCalls bucket key uploadId number chunks, (partOf call).isSome = true := by
  induction chunks generalizing number with
  | nil => exact fun _ member => by cases member
  | cons chunk rest ih =>
    intro call member
    rcases List.mem_cons.mp member with rfl | member
    · rfl
    · exact ih (number + 1) call member

-- The upload is open under the key, with these parts.
def Sending (view : σ → S3Store) (bucket key uploadId contentType : String) (parts : List (Nat × String)) (number : Nat)
    (data : List UInt8) (s : σ) : Prop :=
  ∃ upload, (view s).uploads uploadId = some upload ∧ upload.key = (bucket,key) ∧ upload.contentType = contentType ∧
    Holds upload parts number data

theorem sending_part (answers : S3Answers service view) (sending : Sending view bucket key uploadId contentType parts number data s)
    (sent : service.uploadPart bucket key uploadId number chunk s = .ok etag t) :
    Sending view bucket key uploadId contentType (parts ++ [(number,etag)]) (number + 1) (data ++ chunk) t ∧
      (view t).objects = (view s).objects := by
  obtain ⟨upload,there,named,typed,holds⟩ := sending
  have after := answers.part _ _ _ _ _ _ _ _ sent upload there named
  rw [after]
  refine ⟨⟨upload.part number etag chunk,?_,named,typed,holds_part holds etag chunk⟩,rfl⟩
  rw [after]
  exact Function.update_self _ _ _

theorem parts_recorded (answers : S3Answers service view) (bucket key uploadId contentType : String) (data : List UInt8) (offset number : Nat)
    (parts : List (Nat × String)) (s : σ) (log : List S3Call)
    (sending : Sending view bucket key uploadId contentType parts number (data.take offset) s) :
    (∃ all t last, uploadParts (recorded service) bucket key uploadId data offset number parts (s,log) =
        .ok all (t,log ++ partCalls bucket key uploadId number (Batches.batches multipartChunkSize (data.drop offset))) ∧
      Sending view bucket key uploadId contentType all last data t ∧ (view t).objects = (view s).objects) ∨
    ∃ e t calls, uploadParts (recorded service) bucket key uploadId data offset number parts (s,log) = .error e (t,log ++ calls) ∧
      (∀ call ∈ calls, (partOf call).isSome = true) ∧ (view t).objects = (view s).objects := by
  fun_induction uploadParts service bucket key uploadId data offset number parts generalizing s log with
  | case1 offset number parts more ih =>
    have some : data.drop offset ≠ [] := mt List.drop_eq_nil_iff.mp (Nat.not_le_of_lt more)
    rw [Batches.batches_cons (by decide) _ some,List.drop_drop,partCalls,uploadParts,if_pos more]
    rcases sent : service.uploadPart bucket key uploadId number ((data.drop offset).take multipartChunkSize) s with ⟨etag,t⟩ | ⟨e,t⟩
    · obtain ⟨next,same⟩ := sending_part answers sending sent
      rw [← List.take_add] at next
      have step : (recorded service).uploadPart bucket key uploadId number ((data.drop offset).take multipartChunkSize) (s,log) =
          .ok etag (t,log ++ [.part bucket key uploadId number ((data.drop offset).take multipartChunkSize)]) := logged_ok sent (fun _ => _) log
      rw [bind_ok _ step]
      rcases ih etag t (log ++ [.part bucket key uploadId number ((data.drop offset).take multipartChunkSize)]) next with
        ⟨all,u,last,ran,whole,kept⟩ | ⟨e,u,calls,ran,only,kept⟩
      · refine .inl ⟨all,u,last,?_,whole,kept.trans same⟩
        rw [ran,List.append_assoc]
        rfl
      · refine .inr ⟨e,u,.part bucket key uploadId number ((data.drop offset).take multipartChunkSize) :: calls,?_,?_,kept.trans same⟩
        · rw [ran,List.append_assoc]
          rfl
        · intro call member
          rcases List.mem_cons.mp member with rfl | member
          · rfl
          · exact only call member
    · have step : (recorded service).uploadPart bucket key uploadId number ((data.drop offset).take multipartChunkSize) (s,log) =
          .error e (t,log ++ [.part bucket key uploadId number ((data.drop offset).take multipartChunkSize)]) := logged_error sent (fun _ => _) log
      refine .inr ⟨e,t,[_],bind_error _ step,?_,answers.part_raised _ _ _ _ _ s e t sent⟩
      intro call member
      cases List.mem_singleton.mp member
      rfl
  | case2 offset number parts done =>
    have none : data.drop offset = [] := List.drop_eq_nil_of_le (Nat.le_of_not_lt done)
    rw [none,Batches.batches_nil,partCalls,List.append_nil,uploadParts,if_neg done]
    rw [List.take_of_length_le (Nat.le_of_not_lt done)] at sending
    exact .inl ⟨parts,s,number,rfl,sending,rfl⟩

def isCreate : S3Call → Bool
  | .create _ _ _ _ => true
  | _ => false

theorem part_inner (call : S3Call) (part : (partOf call).isSome = true) : isCreate call = false := by
  cases call with
  | create bucket key contentType uploadId => cases part
  | _ => rfl

-- The handler of a multipart upload.
theorem abort_recorded (answers : S3Answers service view) (bucket key uploadId : String) (e : ClientRaised) (s : σ) (log : List S3Call) :
    ∃ e' t answered, (do
        (recorded service).abortMultipartUpload bucket key uploadId
        throw e : Call (σ × List S3Call) ClientRaised Unit) (s,log) = .error e' (t,log ++ [.abort bucket key uploadId answered]) ∧
      (answered = true → (view t).uploads uploadId = none) ∧ (view t).objects = (view s).objects := by
  rcases aborts : service.abortMultipartUpload bucket key uploadId s with ⟨_,t⟩ | ⟨e',t⟩
  · have step : (recorded service).abortMultipartUpload bucket key uploadId (s,log) =
        .ok () (t,log ++ [.abort bucket key uploadId true]) := logged_ok aborts (fun answer => .abort bucket key uploadId answer.isSome) log
    have after := answers.abort _ _ _ _ _ aborts
    refine ⟨e,t,true,bind_ok _ step,fun _ => ?_,by rw [after]; rfl⟩
    rw [after]
    exact Function.update_self _ _ _
  · have step : (recorded service).abortMultipartUpload bucket key uploadId (s,log) =
        .error e' (t,log ++ [.abort bucket key uploadId false]) := logged_error aborts (fun answer => .abort bucket key uploadId answer.isSome) log
    exact ⟨e',t,false,bind_error _ step,fun answered => (by cases answered),answers.abort_raised _ _ _ _ _ _ aborts⟩

-- The body of a multipart upload, once it is created.
theorem completion_recorded (answers : S3Answers service view) (bucket key uploadId contentType : String) (data : List UInt8) (s : σ)
    (log : List S3Call) (sending : Sending view bucket key uploadId contentType [] 1 [] s) :
    (∃ t parts, (do
        let parts ← uploadParts (recorded service) bucket key uploadId data 0 1 []
        (recorded service).completeMultipartUpload bucket key uploadId parts) (s,log) =
          .ok () (t,log ++ (partCalls bucket key uploadId 1 (Batches.batches multipartChunkSize data) ++ [.complete bucket key uploadId parts])) ∧
        (view t).objects (bucket,key) = some ⟨data,contentType,OrderedDict.empty⟩) ∨
    ∃ e t calls, (do
        let parts ← uploadParts (recorded service) bucket key uploadId data 0 1 []
        (recorded service).completeMultipartUpload bucket key uploadId parts) (s,log) = .error e (t,log ++ calls) ∧
        (∀ call ∈ calls, isCreate call = false) ∧ (view t).objects = (view s).objects := by
  rcases parts_recorded answers bucket key uploadId contentType data 0 1 [] s log sending with
    ⟨parts,u,last,ran,⟨upload,there,named,typed,holds⟩,same⟩ | ⟨e,t,calls,ran,only,same⟩
  · rw [List.drop_zero] at ran
    rcases completes : service.completeMultipartUpload bucket key uploadId parts u with ⟨_,t⟩ | ⟨e,t⟩
    · have step : ∀ log, (recorded service).completeMultipartUpload bucket key uploadId parts (u,log) =
          .ok () (t,log ++ [.complete bucket key uploadId parts]) := fun log => logged_ok completes (fun _ => _) log
      obtain ⟨body,made,after⟩ := answers.complete _ _ _ _ _ _ completes upload there named
      cases holds.assembles.symm.trans made
      refine .inl ⟨t,parts,?_,?_⟩
      · rw [bind_ok _ ran,step,List.append_assoc]
      · rw [after,typed]
        exact Function.update_self _ _ _
    · have step : ∀ log, (recorded service).completeMultipartUpload bucket key uploadId parts (u,log) =
          .error e (t,log ++ [.complete bucket key uploadId parts]) := fun log => logged_error completes (fun _ => _) log
      have harmless := answers.complete_raised _ _ _ _ _ _ _ completes
      refine .inr ⟨e,t,partCalls bucket key uploadId 1 (Batches.batches multipartChunkSize data) ++ [.complete bucket key uploadId parts],
        ?_,?_,harmless.trans same⟩
      · rw [bind_ok _ ran,step,List.append_assoc]
      · intro call member
        rcases List.mem_append.mp member with part | last
        · exact part_inner call (partCalls_only bucket key uploadId 1 _ call part)
        · cases List.mem_singleton.mp last
          rfl
  · exact .inr ⟨e,t,calls,bind_error _ ran,fun call member => part_inner call (only call member),same⟩

-- The three ways a multipart upload ends, with the calls it has made.
inductive MultipartRun (service : S3Service σ) (view : σ → S3Store) (bucket key : String) (data : List UInt8) (s : σ) : Prop where
  | stored (t : σ) (uploadId : String) (parts : List (Nat × String))
      (ran : multipartUpload (recorded service) bucket key data (s,[]) = .ok () (t,.create bucket key "application/x-parquet" (some uploadId) ::
        (partCalls bucket key uploadId 1 (Batches.batches multipartChunkSize data) ++ [.complete bucket key uploadId parts])))
      (there : (view t).objects (bucket,key) = some ⟨data,"application/x-parquet",OrderedDict.empty⟩)
  | uncreated (e : ClientRaised) (t : σ)
      (ran : multipartUpload (recorded service) bucket key data (s,[]) = .error e (t,[.create bucket key "application/x-parquet" none]))
  | aborted (e : ClientRaised) (t : σ) (uploadId : String) (calls : List S3Call) (answered : Bool)
      (ran : multipartUpload (recorded service) bucket key data (s,[]) = .error e (t,.create bucket key "application/x-parquet" (some uploadId) ::
        (calls ++ [.abort bucket key uploadId answered])))
      (inner : ∀ call ∈ calls, isCreate call = false)
      (dropped : answered = true → (view t).uploads uploadId = none)
      (same : (view t).objects = (view s).objects)

theorem multipart_run (answers : S3Answers service view) (bucket key : String) (data : List UInt8) (s : σ) :
    MultipartRun service view bucket key data s := by
  rcases creates : service.createMultipartUpload bucket key "application/x-parquet" s with ⟨uploadId,u⟩ | ⟨e,t⟩
  · have step : (recorded service).createMultipartUpload bucket key "application/x-parquet" (s,[]) =
        .ok uploadId (u,[.create bucket key "application/x-parquet" (some uploadId)]) :=
      logged_ok creates (.create bucket key "application/x-parquet") []
    have after := answers.create _ _ _ _ _ _ creates
    have sending : Sending view bucket key uploadId "application/x-parquet" [] 1 [] u := by
      refine ⟨⟨(bucket,key),"application/x-parquet",fun _ => none⟩,?_,rfl,rfl,holds_none _ _⟩
      rw [after]
      exact Function.update_self _ _ _
    have opened : (view u).objects = (view s).objects := by
      rw [after]
      rfl
    rcases completion_recorded answers bucket key uploadId "application/x-parquet" data u
        [.create bucket key "application/x-parquet" (some uploadId)] sending with ⟨t,parts,ran,there⟩ | ⟨e,v,calls,ran,inner,same⟩
    · refine .stored t uploadId parts ?_ there
      exact (bind_ok _ step).trans (handling_ok _ ran)
    · obtain ⟨e',t,answered,aborts,dropped,kept⟩ := abort_recorded answers bucket key uploadId e v
        ([.create bucket key "application/x-parquet" (some uploadId)] ++ calls)
      refine .aborted e' t uploadId calls answered ?_ inner dropped (kept.trans (same.trans opened))
      exact (bind_ok _ step).trans ((handling_error _ ran).trans aborts)
  · have step : (recorded service).createMultipartUpload bucket key "application/x-parquet" (s,[]) =
        .error e (t,[.create bucket key "application/x-parquet" none]) := logged_error creates (.create bucket key "application/x-parquet") []
    exact .uncreated e t (bind_error _ step)

-- How a call of upload_raw_file follows from that of its client.
theorem uploadRawFile_sent (key : String) {w : σ} (metrics : S3Metrics) (sent : sending service bucket key data contentType (passed metadata) s = .ok () w) :
    ∃ counts, uploadRawFile service data key bucket contentType metadata ⟨s,metrics⟩ = .ok key ⟨w,counts⟩ := by
  have step : calling (sending service bucket key data contentType (passed metadata)) ⟨s,metrics⟩ = .ok () ⟨w,metrics⟩ := by
    rw [calling,sent]
  refine ⟨metrics.recordUpload data.length,?_⟩
  have call := congrFun (call_once service (⟨fun _ => none,fun _ => none⟩ : Parquet Unit)
    (.uploadRawFile data key bucket contentType metadata)) ⟨s,metrics⟩
  refine call.trans (handling_ok _ ?_)
  rw [bind_ok _ step]
  rfl

theorem uploadRawFile_failed (key : String) {w : σ} (metrics : S3Metrics)
    (failed : sending service bucket key data contentType (passed metadata) s = .error e w) :
    ∃ e' counts, uploadRawFile service data key bucket contentType metadata ⟨s,metrics⟩ = .error e' ⟨w,counts⟩ := by
  have step : calling (sending service bucket key data contentType (passed metadata)) ⟨s,metrics⟩ = .error e ⟨w,metrics⟩ := by
    rw [calling,failed]
  have call := congrFun (call_once service (⟨fun _ => none,fun _ => none⟩ : Parquet Unit)
    (.uploadRawFile data key bucket contentType metadata)) ⟨s,metrics⟩
  have handled := handling_error (uploadFailed (α := String) bucket key) (bind_error (fun _ => do
    recording (S3Metrics.recordUpload data.length)
    pure key) step)
  cases e with
  | clientError message => exact ⟨_,_,call.trans handled⟩
  | other message => exact ⟨_,_,call.trans handled⟩

theorem passed_getD (metadata : Option (OrderedDict String String)) : (passed metadata).getD OrderedDict.empty = metadata.getD OrderedDict.empty := by
  cases metadata with
  | none => rfl
  | some given =>
    obtain ⟨entries,unique⟩ := given
    cases entries with
    | nil => rfl
    | cons entry rest => rfl

variable {data : List UInt8} {key bucket contentType : String} {metadata : Option (OrderedDict String String)} {s : σ} {metrics : S3Metrics}

-- A call has one outcome, so what is said of the other one holds of nothing.
theorem stored_delivered (sent : uploadRawFile (recorded service) data key bucket contentType metadata ⟨(s,[]),metrics⟩ = .ok k u)
    (stored : (view u.world.1).objects (bucket,key) = some ⟨data,contentType,metadata.getD OrderedDict.empty⟩)
    (numbered : ∀ type uploadId, S3Call.create bucket key type uploadId ∈ u.world.2 → ∃ chunks : List (List UInt8),
      u.world.2.filterMap partOf = (List.range' 1 chunks.length).zip chunks ∧ chunks.flatten = data) :
    Delivered service view data key bucket contentType metadata s metrics where
  stored := by
    intro k v succeeded
    cases sent.symm.trans succeeded
    exact stored
  numbered := by
    intro k v type uploadId succeeded
    cases sent.symm.trans succeeded
    exact numbered type uploadId
  aborted := by
    intro e v type uploadId failed
    cases sent.symm.trans failed

theorem failed_delivered (failed : uploadRawFile (recorded service) data key bucket contentType metadata ⟨(s,[]),metrics⟩ = .error e u)
    (aborted : ∀ type uploadId, S3Call.create bucket key type (some uploadId) ∈ u.world.2 →
      (∃ before answered, u.world.2 = before ++ [.abort bucket key uploadId answered] ∧
        (answered = true → (view u.world.1).uploads uploadId = none)) ∧ (view u.world.1).objects = (view s).objects) :
    Delivered service view data key bucket contentType metadata s metrics where
  stored := by
    intro k v succeeded
    cases failed.symm.trans succeeded
  numbered := by
    intro k v type uploadId succeeded
    cases failed.symm.trans succeeded
  aborted := by
    intro e v type uploadId again
    cases failed.symm.trans again
    exact aborted type uploadId

theorem short_delivered (answers : S3Answers service view) (data : List UInt8) (key bucket contentType : String)
    (metadata : Option (OrderedDict String String)) (s : σ) (metrics : S3Metrics) (short : data.length < multipartThreshold) :
    Delivered service view data key bucket contentType metadata s metrics := by
  have single : sending (recorded service) bucket key data contentType (passed metadata) =
      (recorded service).putObject bucket key data contentType (passed metadata) := if_neg (Nat.not_le_of_lt short)
  rcases puts : service.putObject bucket key data contentType (passed metadata) s with ⟨_,t⟩ | ⟨e,t⟩
  · have step : sending (recorded service) bucket key data contentType (passed metadata) (s,[]) =
        .ok () (t,[.putObject bucket key data contentType (passed metadata)]) := by
      rw [single]
      exact logged_ok puts (fun _ => _) []
    obtain ⟨counts,ran⟩ := uploadRawFile_sent key metrics step
    apply stored_delivered ran
    · rw [answers.put _ _ _ _ _ _ _ puts,passed_getD]
      exact Function.update_self _ _ _
    · intro type uploadId created
      cases List.mem_singleton.mp created
  · have step : sending (recorded service) bucket key data contentType (passed metadata) (s,[]) =
        .error e (t,[.putObject bucket key data contentType (passed metadata)]) := by
      rw [single]
      exact logged_error puts (fun _ => _) []
    obtain ⟨e',counts,ran⟩ := uploadRawFile_failed key metrics step
    apply failed_delivered ran
    intro type uploadId created
    cases List.mem_singleton.mp created

theorem long_delivered (answers : S3Answers service view) (data : List UInt8) (key bucket : String)
    (metadata : Option (OrderedDict String String)) (s : σ) (metrics : S3Metrics) (long : multipartThreshold ≤ data.length)
    (bare : metadata.getD OrderedDict.empty = OrderedDict.empty) :
    Delivered service view data key bucket "application/x-parquet" metadata s metrics := by
  have multiple : sending (recorded service) bucket key data "application/x-parquet" (passed metadata) =
      multipartUpload (recorded service) bucket key data := if_pos long
  cases multipart_run answers bucket key data s with
  | stored t uploadId parts ran there =>
    rw [← multiple] at ran
    obtain ⟨counts,ran⟩ := uploadRawFile_sent key metrics ran
    apply stored_delivered ran
    · rw [bare]
      exact there
    · intro type uploadId' _
      refine ⟨Batches.batches multipartChunkSize data,?_,Batches.batches_flatten (by decide) data⟩
      have sent := partCalls_parts bucket key uploadId 1 (Batches.batches multipartChunkSize data)
      rw [List.filterMap_cons_none rfl,List.filterMap_append,sent]
      exact List.append_nil _
  | uncreated e t ran =>
    rw [← multiple] at ran
    obtain ⟨e',counts,ran⟩ := uploadRawFile_failed key metrics ran
    apply failed_delivered ran
    intro type uploadId created
    cases List.mem_singleton.mp created
  | aborted e t uploadId calls answered ran inner dropped same =>
    rw [← multiple] at ran
    obtain ⟨e',counts,ran⟩ := uploadRawFile_failed key metrics ran
    apply failed_delivered ran
    intro type uploadId' created
    rcases List.mem_cons.mp created with first | later
    · cases first
      exact ⟨⟨.create bucket key "application/x-parquet" (some uploadId) :: calls,answered,rfl,dropped⟩,same⟩
    · rcases List.mem_append.mp later with call | last
      · cases inner _ call
      · cases List.mem_singleton.mp last

end Runs

-- S3 where every call with an upload that is open succeeds.
def reliable : S3Service S3Store where
  putObject bucket key body contentType metadata := fun s => .ok () (s.put (bucket,key) ⟨body,contentType,metadata.getD OrderedDict.empty⟩)
  createMultipartUpload bucket key contentType := fun s => .ok "upload" (s.opened "upload" (bucket,key) contentType)
  uploadPart _ _ uploadId number body := fun s =>
    match s.uploads uploadId with
    | some upload => .ok "etag" (s.parted uploadId (upload.part number "etag" body))
    | none => .ok "etag" s
  completeMultipartUpload bucket key uploadId parts := fun s =>
    match (s.uploads uploadId).bind fun upload => (upload.assembled parts).map fun body => (upload.contentType,body) with
    | some (contentType,body) => .ok () ((s.dropped uploadId).put (bucket,key) ⟨body,contentType,OrderedDict.empty⟩)
    | none => .error (.clientError "InvalidPart") s
  abortMultipartUpload _ _ uploadId := fun s => .ok () (s.dropped uploadId)
  getObject bucket key := fun s =>
    match s.objects (bucket,key) with
    | some object => .ok object.body s
    | none => .error (.clientError "NoSuchKey") s
  now s := (⟨2026,6,15,10,"2026-06-15T10:00:00+00:00"⟩,s)
  uuid s := (exampleName,s)
  unwritable := "unwritable"
  unreadable _ := "unreadable"

theorem reliable_answers : S3Answers reliable id where
  put := by
    intro bucket key body contentType metadata s t ran
    cases ran
    rfl
  create := by
    intro bucket key contentType s uploadId t ran
    cases ran
    rfl
  part := by
    intro bucket key uploadId number body s etag t ran upload there named
    change s.uploads uploadId = some upload at there
    simp only [reliable,there] at ran
    cases ran
    rfl
  complete := by
    intro bucket key uploadId parts s t ran upload there named
    change s.uploads uploadId = some upload at there
    simp only [reliable,there,Option.bind_some] at ran
    cases made : upload.assembled parts with
    | none =>
      rw [made] at ran
      cases ran
    | some body =>
      rw [made] at ran
      cases ran
      exact ⟨body,rfl,rfl⟩
  abort := by
    intro bucket key uploadId s t ran
    cases ran
    rfl
  put_raised := by
    intro bucket key body contentType metadata s e t ran
    cases ran
  create_raised := by
    intro bucket key contentType s e t ran
    cases ran
  part_raised := by
    intro bucket key uploadId number body s e t ran
    simp only [reliable] at ran
    split at ran
    · cases ran
    · cases ran
  complete_raised := by
    intro bucket key uploadId parts s e t ran
    simp only [reliable] at ran
    split at ran
    · cases ran
    · cases ran
      rfl
  abort_raised := by
    intro bucket key uploadId s e t ran
    cases ran

theorem reliable_part (bucket key uploadId : String) (number : Nat) (body : List UInt8) (s : S3Store) :
    ∃ etag t, reliable.uploadPart bucket key uploadId number body s = .ok etag t := by
  cases there : s.uploads uploadId with
  | none => exact ⟨"etag",s,by simp only [reliable,there]⟩
  | some upload => exact ⟨"etag",s.parted uploadId (upload.part number "etag" body),by simp only [reliable,there]⟩

theorem reliable_parts (bucket key uploadId : String) (data : List UInt8) (offset number : Nat) (parts : List (Nat × String))
    (s : S3Store) (log : List S3Call) :
    ∃ all t, uploadParts (recorded reliable) bucket key uploadId data offset number parts (s,log) = .ok all t := by
  fun_induction uploadParts reliable bucket key uploadId data offset number parts generalizing s log with
  | case1 offset number parts more ih =>
    obtain ⟨etag,t,sent⟩ := reliable_part bucket key uploadId number ((data.drop offset).take multipartChunkSize) s
    have step : (recorded reliable).uploadPart bucket key uploadId number ((data.drop offset).take multipartChunkSize) (s,log) =
        .ok etag (t,log ++ [.part bucket key uploadId number ((data.drop offset).take multipartChunkSize)]) := logged_ok sent (fun _ => _) log
    rw [uploadParts,if_pos more,bind_ok _ step]
    exact ih etag t _
  | case2 offset number parts done =>
    rw [uploadParts,if_neg done]
    exact ⟨parts,_,rfl⟩

theorem reliable_multipart (bucket key : String) (data : List UInt8) (s : S3Store) :
    ∃ w, multipartUpload (recorded reliable) bucket key data (s,[]) = .ok () w := by
  have sending : Sending id bucket key "upload" "application/x-parquet" [] 1 [] (s.opened "upload" (bucket,key) "application/x-parquet") :=
    ⟨⟨(bucket,key),"application/x-parquet",fun _ => none⟩,Function.update_self "upload" _ s.uploads,rfl,rfl,holds_none _ _⟩
  obtain ⟨all,w,sent⟩ := reliable_parts bucket key "upload" data 0 1 [] (s.opened "upload" (bucket,key) "application/x-parquet")
    [.create bucket key "application/x-parquet" (some "upload")]
  rcases parts_recorded reliable_answers bucket key "upload" "application/x-parquet" data 0 1 [] _
      [.create bucket key "application/x-parquet" (some "upload")] sending with ⟨parts,u,last,ran,⟨upload,there,_,_,holds⟩,_⟩ | ⟨e,t,calls,ran,_⟩
  · have completes : ∃ t, reliable.completeMultipartUpload bucket key "upload" parts u = .ok () t := by
      change u.uploads "upload" = some upload at there
      simp only [reliable,there,Option.bind_some,holds.assembles,Option.map_some]
      exact ⟨_,rfl⟩
    obtain ⟨t,completes⟩ := completes
    have step : ∀ log, (recorded reliable).completeMultipartUpload bucket key "upload" parts (u,log) =
        .ok () (t,log ++ [.complete bucket key "upload" parts]) := fun log => logged_ok completes (fun _ => _) log
    have body := (bind_ok (fun parts => (recorded reliable).completeMultipartUpload bucket key "upload" parts) ran).trans (step _)
    exact ⟨_,handling_ok _ body⟩
  · cases sent.symm.trans ran

theorem agreeing {data : List UInt8} {metadata : Option (OrderedDict String String)} (agree : PathsAgree data contentType metadata) :
    data.length < multipartThreshold ∨ contentType = "application/x-parquet" ∧ metadata.getD OrderedDict.empty = OrderedDict.empty := by
  by_cases short : data.length < multipartThreshold
  · exact .inl short
  · have long := Nat.le_of_not_lt short
    have delivered := agree S3Store reliable id reliable_answers "k" "b" ⟨fun _ => none,fun _ => none⟩ ⟨0,0,0,0,0,0⟩
    have multiple : sending (recorded reliable) "b" "k" data contentType (passed metadata) = multipartUpload (recorded reliable) "b" "k" data :=
      if_pos long
    obtain ⟨w,made⟩ := reliable_multipart "b" "k" data ⟨fun _ => none,fun _ => none⟩
    cases multipart_run reliable_answers "b" "k" data ⟨fun _ => none,fun _ => none⟩ with
    | stored t uploadId parts ran there =>
      rw [← multiple] at ran
      obtain ⟨counts,ran⟩ := uploadRawFile_sent "k" ⟨0,0,0,0,0,0⟩ ran
      have same := Option.some.inj (there.symm.trans (delivered.stored _ _ ran))
      exact .inr ⟨(congrArg Object.contentType same).symm,(congrArg Object.metadata same).symm⟩
    | uncreated e t ran => cases made.symm.trans ran
    | aborted e t uploadId calls answered ran => cases made.symm.trans ran

theorem paths_agree (data : List UInt8) (contentType : String) (metadata : Option (OrderedDict String String)) :
    PathsAgree data contentType metadata ↔
      data.length < multipartThreshold ∨ contentType = "application/x-parquet" ∧ metadata.getD OrderedDict.empty = OrderedDict.empty := by
  constructor
  · exact agreeing
  · intro condition σ service view answers key bucket s metrics
    by_cases short : data.length < multipartThreshold
    · exact short_delivered answers data key bucket contentType metadata s metrics short
    · rcases condition with below | ⟨rfl,bare⟩
      · exact absurd below short
      · exact long_delivered answers data key bucket metadata s metrics (Nat.le_of_not_lt short) bare

-- A file of 100 MiB with the default content type.
theorem large_file_retyped : ¬PathsAgree (List.replicate multipartThreshold 0) "application/octet-stream" none := by
  intro agree
  rcases agreeing agree with short | ⟨type,_⟩
  · rw [List.length_replicate] at short
    exact Nat.lt_irrefl _ short
  · exact absurd type (by decide)

end S3Transfers
end RiskPulse
