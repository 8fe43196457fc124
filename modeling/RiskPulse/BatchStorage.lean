import RiskPulse.StorageConfinement

-- Batches written by partition and read back by the prefix of their keys, over any client
-- that keeps objects as a map does.
namespace RiskPulse
namespace BatchStorage
open LocalObjectStorage (StoredObject ObjectMap)

abbrev Objects := OrderedDict (String × String) StoredObject

def keysUnder (m : Objects) (bucket : String) (wanted : List Char) : List String :=
  (m.keys.filter fun address => decide (address.1 = bucket ∧ wanted <+: address.2.toList)).map Prod.snd

structure Keeps (client : BatchClient σ ε) (represents : Objects → σ → Prop) (apart : List (String × String) → String → String → Prop)
    (asked : List Char → List Char) : Prop where
  upload : ∀ m s bucket key data contentType metadata now, represents m s → apart m.keys bucket key →
    (∃ e t, client.uploadRawFile bucket key data contentType metadata now s = (.error e,t) ∧ represents m t) ∨
    ∃ o t, client.uploadRawFile bucket key data contentType metadata now s = (.ok (),t) ∧ o.body = data ∧
      represents (m.set (bucket,key) o) t
  download : ∀ m s bucket key o, represents m s → m.get? (bucket,key) = some o → client.download bucket key s = .ok o.body
  keys : ∀ m s storageLayer wanted, represents m s → ∃ keys, client.keys (bucketForStorageLayer storageLayer) wanted s = .ok keys ∧
    keys.Perm (keysUnder m (bucketForStorageLayer storageLayer) (asked wanted))

-- What the S3 service keeps, where it answers: its listings and downloads are those of a map.
structure S3Laws (client : S3Client σ ε) (represents : Objects → σ → Prop) : Prop where
  putObject : ∀ m s bucket key body contentType metadata, represents m s →
    (∃ e t, client.putObject bucket key body contentType metadata s = (.error e,t) ∧ represents m t) ∨
    ∃ t, client.putObject bucket key body contentType metadata s = (.ok (),t) ∧
      represents (m.set (bucket,key) ⟨body,contentType,metadata⟩) t
  multipartUpload : ∀ m s bucket key parts contentType, represents m s →
    (∃ e t, client.multipartUpload bucket key parts contentType s = (.error e,t) ∧ represents m t) ∨
    ∃ t, client.multipartUpload bucket key parts contentType s = (.ok (),t) ∧
      represents (m.set (bucket,key) ⟨parts.flatten,contentType,.empty⟩) t
  getObject : ∀ m s bucket key o, represents m s → m.get? (bucket,key) = some o → client.getObject bucket key s = .ok o.body
  paginate : ∀ m s bucket wanted, represents m s → ∃ pages, client.paginate bucket wanted s = .ok pages ∧
    pages.flatten.Perm (keysUnder m bucket wanted)

structure BatchRun (σ ρ : Type) where
  state : σ
  written : List (BatchWrite ρ)

def step (client : BatchClient σ ε) (parquet : Parquet ρ) (r : BatchRun σ ρ) (w : BatchWrite ρ) : BatchRun σ ρ :=
  match client.writeBatch parquet w r.state with
  | (.ok _,t) => ⟨t,r.written ++ [w]⟩
  | (.error _,t) => ⟨t,r.written⟩

def address (w : BatchWrite ρ) : String × String := (w.bucket,w.key)

-- Written for a layer and a partition, and found by a read of them.
def own (storageLayer : StorageLayer) (partitionPath : String) (w : BatchWrite ρ) : Bool :=
  decide (w.storageLayer = storageLayer ∧ normalizeObjectPrefix w.partitionPath = normalizeObjectPrefix partitionPath)

def found (storageLayer : StorageLayer) (wanted : List Char) (w : BatchWrite ρ) : Bool :=
  decide (w.bucket = bucketForStorageLayer storageLayer ∧ wanted <+: w.key.toList)

def RoundTrip (client : BatchClient σ ε) (parquet : Parquet ρ) (r : BatchRun σ ρ) (storageLayer : StorageLayer)
    (partitionPath : String) : Prop :=
  ∃ records, client.readBatch parquet storageLayer partitionPath r.state = .ok records ∧
    records.Perm ((r.written.filter (own storageLayer partitionPath)).flatMap BatchWrite.records)

def Isolated (written : List (BatchWrite ρ)) (storageLayer : StorageLayer) (partitionPath : String) (wanted : List Char) : Prop :=
  ∀ w ∈ written, found storageLayer wanted w = true → own storageLayer partitionPath w = false → w.records = []

theorem filter_flatMap_perm (p q : α → Bool) (f : α → List β) (l : List α) (weaker : ∀ a ∈ l, p a = true → q a = true) :
    ((l.filter q).flatMap f).Perm ((l.filter p).flatMap f) ↔ ∀ a ∈ l, q a = true → p a = false → f a = [] := by
  have inner : (l.filter q).filter p = l.filter p := by
    rw [List.filter_filter]
    apply List.filter_congr
    intro a member
    cases chosen : p a with
    | false => rfl
    | true => rw [weaker a member chosen,Bool.true_and]
  have split : ((l.filter q).flatMap f).Perm
      ((l.filter p).flatMap f ++ ((l.filter q).filter fun a => !p a).flatMap f) := by
    have parted := (List.filter_append_perm p (l.filter q)).symm.flatMap_right f
    rwa [inner,List.flatMap_append] at parted
  have rest : ((l.filter q).flatMap f).Perm ((l.filter p).flatMap f) ↔ ((l.filter q).filter fun a => !p a).flatMap f = [] := by
    constructor
    · intro same
      have both := split.symm.trans same
      rw [← List.append_nil ((l.filter p).flatMap f),List.append_assoc,List.nil_append] at both
      exact List.perm_nil.mp ((List.perm_append_left_iff _).mp both)
    · intro empty
      rwa [empty,List.append_nil] at split
  rw [rest,List.flatMap_eq_nil_iff]
  simp only [List.mem_filter,Bool.not_eq_true',and_imp]

theorem fileFormat_parquet (w : BatchWrite ρ) : BatchClient.isParquet w.key = !w.records.isEmpty := by
  have key : w.key.toList = w.directory ++ '/' :: (w.name.timestampSuffix ++ "_" ++ w.name.batchId ++ ".").toList ++
      w.fileFormat.toList := by
    simp [BatchWrite.key,generateFileKey,GeneratedName.fileName]
  unfold BatchClient.isParquet
  rw [key,BatchWrite.fileFormat]
  cases empty : w.records.isEmpty with
  | true =>
    rw [if_pos rfl,Bool.not_true,decide_eq_false_iff_not,← List.reverse_prefix,List.reverse_append]
    intro suffix
    have last : ("empty.json".toList).reverse = 'n' :: ("empty.jso".toList).reverse := rfl
    have letter : (".parquet".toList).reverse = 't' :: (".parque".toList).reverse := rfl
    rw [last,letter,List.cons_append,List.cons_prefix_cons] at suffix
    exact absurd suffix.1 (by decide)
  | false =>
    simp only [Bool.false_eq_true,if_false,Bool.not_false,decide_eq_true_eq]
    have dotted : (w.name.timestampSuffix ++ "_" ++ w.name.batchId ++ ".").toList =
        (w.name.timestampSuffix ++ "_" ++ w.name.batchId).toList ++ ['.'] := by simp
    rw [dotted]
    refine ⟨w.directory ++ '/' :: (w.name.timestampSuffix ++ "_" ++ w.name.batchId).toList,?_⟩
    have dot : ".parquet".toList = '.' :: "parquet".toList := rfl
    rw [dot]
    simp

theorem own_found (asked : List Char) (short : asked <+: normalizeObjectPrefix partitionPath) (w : BatchWrite ρ)
    (mine : own storageLayer partitionPath w = true) : found storageLayer asked w = true := by
  obtain ⟨layer,path⟩ := of_decide_eq_true mine
  have inside : normalizeObjectPrefix partitionPath <+: w.key.toList := by
    rw [BatchWrite.key,generateFileKey,String.toList_ofList,BatchWrite.directory,path]
    split
    · rename_i root
      rw [root]
      exact List.nil_prefix
    · exact List.prefix_append _ _
  apply decide_eq_true
  exact ⟨by rw [BatchWrite.bucket,layer],short.trans inside⟩

theorem step_written (client : BatchClient σ ε) (parquet : Parquet ρ) (r : BatchRun σ ρ) (w : BatchWrite ρ) :
    (step client parquet r w).written = r.written ++ [w] ∨ (step client parquet r w).written = r.written := by
  rw [step]
  rcases client.writeBatch parquet w r.state with ⟨_ | _,t⟩
  · exact .inr rfl
  · exact .inl rfl

-- What is kept after the writes that returned, in their order.
structure Kept (represents : Objects → σ → Prop) (parquet : Parquet ρ) (r : BatchRun σ ρ) (m : Objects) : Prop where
  represents : represents m r.state
  keys : m.keys = r.written.map address
  bodies : ∀ w ∈ r.written, ∃ o, m.get? (address w) = some o ∧ w.data parquet = some o.body

section Client
variable {client : BatchClient σ ε} {represents : Objects → σ → Prop} {apart : List (String × String) → String → String → Prop}
  {asked : List Char → List Char} (laws : Keeps client represents apart asked) (parquet : Parquet ρ)
include laws

theorem step_kept (kept : Kept represents parquet r m) (fits : apart (r.written.map address) w.bucket w.key)
    (fresh : address w ∉ r.written.map address) : ∃ next, Kept represents parquet (step client parquet r w) next := by
  rw [step,BatchClient.writeBatch]
  cases encoded : w.data parquet with
  | none => exact ⟨m,kept.represents,kept.keys,kept.bodies⟩
  | some data =>
    have fits' : apart m.keys w.bucket w.key := by rwa [kept.keys]
    rcases laws.upload m r.state w.bucket w.key data w.contentType w.objectMetadata w.now kept.represents fits' with
      ⟨e,t,put,same⟩ | ⟨o,t,put,body,grown⟩
    · simp only [put]
      exact ⟨m,same,kept.keys,kept.bodies⟩
    · simp only [put]
      refine ⟨m.set (w.bucket,w.key) o,grown,?_,?_⟩
      · have absent : (w.bucket,w.key) ∉ m.keys := by rwa [kept.keys]
        rw [m.keys_set_fresh _ o absent,kept.keys,List.map_append]
        rfl
      · intro other member
        rcases List.mem_append.mp member with old | new
        · obtain ⟨p,stored,made⟩ := kept.bodies other old
          refine ⟨p,?_,made⟩
          rw [OrderedDict.get?_set,if_neg]
          · exact stored
          · intro same
            exact fresh (List.mem_map.mpr ⟨other,old,same⟩)
        · rw [List.mem_singleton.mp new]
          exact ⟨o,by rw [OrderedDict.get?_set]; exact if_pos rfl,by rw [encoded,body]⟩

theorem run_kept (writes : List (BatchWrite ρ)) (kept : Kept represents parquet r m)
    (fits : Runs.Along (step client parquet) (fun r w => apart (r.written.map address) w.bucket w.key) r writes)
    (distinct : ((r.written ++ writes).map BatchWrite.key).Nodup) :
    ∃ last, Kept represents parquet (Runs.run (step client parquet) r writes) last := by
  induction writes generalizing r m with
  | nil => exact ⟨m,kept⟩
  | cons w rest ih =>
    have fresh : address w ∉ r.written.map address := by
      intro member
      obtain ⟨other,old,same⟩ := List.mem_map.mp member
      obtain ⟨_,keys⟩ := Prod.mk.inj same
      rw [List.map_append,List.nodup_append] at distinct
      exact distinct.2.2 other.key (List.mem_map_of_mem old) w.key (List.mem_map_of_mem List.mem_cons_self) keys
    obtain ⟨next,after⟩ := step_kept laws parquet kept fits.1 fresh
    refine ih after fits.2 ?_
    rcases step_written client parquet r w with taken | refused
    · rwa [taken,List.append_assoc,List.singleton_append]
    · rw [refused]
      refine distinct.sublist (List.Sublist.map _ ?_)
      exact List.Sublist.append (List.Sublist.refl _) (List.sublist_cons_self w rest)

omit laws in
theorem readKeys_reads (bucket : String) (s : σ) (contents : String → List ρ) (keys : List String)
    (reads : ∀ key ∈ keys, BatchClient.isParquet key = true → client.downloadParquet parquet bucket key s = .ok (contents key))
    (records : List ρ) :
    client.readKeys parquet bucket s records keys = .ok (records ++ (keys.filter BatchClient.isParquet).flatMap contents) := by
  induction keys generalizing records with
  | nil => rw [BatchClient.readKeys,List.filter_nil,List.flatMap_nil,List.append_nil]
  | cons key rest ih =>
    have later := ih fun other member => reads other (List.mem_cons_of_mem key member)
    cases named : BatchClient.isParquet key with
    | false =>
      rw [BatchClient.readKeys,named,List.filter_cons_of_neg (by simp [named])]
      exact later records
    | true =>
      rw [BatchClient.readKeys,if_pos named,reads key List.mem_cons_self named,List.filter_cons_of_pos named,List.flatMap_cons,
        ← List.append_assoc]
      exact later (records ++ contents key)

omit laws in
theorem keysUnder_kept (kept : Kept represents parquet r m) (storageLayer : StorageLayer) (wanted : List Char) :
    keysUnder m (bucketForStorageLayer storageLayer) wanted = (r.written.filter (found storageLayer wanted)).map BatchWrite.key := by
  rw [keysUnder,kept.keys,List.filter_map,List.map_map]
  rfl

theorem download_kept (kept : Kept represents parquet r m)
    (lossless : ∀ w ∈ r.written, ∀ data, parquet.write w.records = some data → parquet.read data = some w.records)
    (member : w ∈ r.written) (filled : w.records.isEmpty = false) :
    client.downloadParquet parquet w.bucket w.key r.state = .ok w.records := by
  obtain ⟨o,stored,made⟩ := kept.bodies w member
  rw [BatchWrite.data,filled] at made
  rw [BatchClient.downloadParquet,laws.download m r.state w.bucket w.key o kept.represents stored]
  simp only [lossless w member o.body made]

omit laws in
-- Only batches with records have Parquet keys.
theorem contents_records (contents : String → List ρ) (held : List (BatchWrite ρ))
    (reads : ∀ w ∈ held, w.records.isEmpty = false → contents w.key = w.records) :
    ((held.map BatchWrite.key).filter BatchClient.isParquet).flatMap contents = held.flatMap BatchWrite.records := by
  induction held with
  | nil => rfl
  | cons w rest ih =>
    have later := ih fun other member => reads other (List.mem_cons_of_mem w member)
    rw [List.map_cons,List.flatMap_cons]
    cases empty : w.records.isEmpty with
    | true =>
      have unnamed : BatchClient.isParquet w.key ≠ true := by rw [fileFormat_parquet,empty]; decide
      rw [List.filter_cons_of_neg unnamed,later,List.isEmpty_iff.mp empty,List.nil_append]
    | false =>
      have named : BatchClient.isParquet w.key = true := by rw [fileFormat_parquet,empty]; rfl
      rw [List.filter_cons_of_pos named,List.flatMap_cons,reads w List.mem_cons_self empty,later]

-- A read gives the records of all batches whose keys lie under what it asks for.
theorem reads_found (kept : Kept represents parquet r m)
    (lossless : ∀ w ∈ r.written, ∀ data, parquet.write w.records = some data → parquet.read data = some w.records)
    (storageLayer : StorageLayer) (partitionPath : String) :
    ∃ records, client.readBatch parquet storageLayer partitionPath r.state = .ok records ∧ records.Perm
      ((r.written.filter (found storageLayer (asked (normalizeObjectPrefix partitionPath)))).flatMap BatchWrite.records) := by
  obtain ⟨keys,listed,perm⟩ := laws.keys m r.state storageLayer (normalizeObjectPrefix partitionPath) kept.represents
  rw [keysUnder_kept parquet kept] at perm
  let contents (key : String) : List ρ :=
    match client.downloadParquet parquet (bucketForStorageLayer storageLayer) key r.state with
    | .ok records => records
    | .error _ => []
  have down : ∀ w ∈ r.written.filter (found storageLayer (asked (normalizeObjectPrefix partitionPath))), w.records.isEmpty = false →
      client.downloadParquet parquet (bucketForStorageLayer storageLayer) w.key r.state = .ok w.records := by
    intro w member filled
    obtain ⟨held,under⟩ := List.mem_filter.mp member
    rw [← (of_decide_eq_true under).1]
    exact download_kept laws parquet kept lossless held filled
  have reads : ∀ key ∈ keys, BatchClient.isParquet key = true →
      client.downloadParquet parquet (bucketForStorageLayer storageLayer) key r.state = .ok (contents key) := by
    intro key member named
    obtain ⟨w,inside,rfl⟩ := List.mem_map.mp (perm.mem_iff.mp member)
    have filled : w.records.isEmpty = false := by rwa [fileFormat_parquet,Bool.not_eq_true'] at named
    simp only [contents,down w inside filled]
  have whole := contents_records contents (r.written.filter (found storageLayer (asked (normalizeObjectPrefix partitionPath))))
    fun w member filled => by simp only [contents,down w member filled]
  refine ⟨_,by rw [BatchClient.readBatch,listed]; exact readKeys_reads parquet _ _ contents keys reads [],?_⟩
  rw [List.nil_append,← whole]
  exact (perm.filter _).flatMap_right _

theorem roundTrip_exact (kept : Kept represents parquet r m)
    (lossless : ∀ w ∈ r.written, ∀ data, parquet.write w.records = some data → parquet.read data = some w.records)
    (storageLayer : StorageLayer) (partitionPath : String)
    (short : asked (normalizeObjectPrefix partitionPath) <+: normalizeObjectPrefix partitionPath) :
    RoundTrip client parquet r storageLayer partitionPath ↔
      Isolated r.written storageLayer partitionPath (asked (normalizeObjectPrefix partitionPath)) := by
  obtain ⟨records,read,perm⟩ := reads_found laws parquet kept lossless storageLayer partitionPath
  have compared := filter_flatMap_perm (own storageLayer partitionPath)
    (found storageLayer (asked (normalizeObjectPrefix partitionPath))) BatchWrite.records r.written
    fun w _ mine => own_found _ short w mine
  constructor
  · rintro ⟨other,read',perm'⟩
    rw [read] at read'
    cases read'
    exact compared.mp (perm.symm.trans perm')
  · intro isolated
    exact ⟨records,read,perm.trans (compared.mpr isolated)⟩

end Client

theorem run_written (client : BatchClient σ ε) (parquet : Parquet ρ) (r : BatchRun σ ρ) (writes : List (BatchWrite ρ)) :
    ∀ w ∈ (Runs.run (step client parquet) r writes).written, w ∈ r.written ∨ w ∈ writes := by
  induction writes generalizing r with
  | nil => exact fun w member => .inl member
  | cons first rest ih =>
    intro w member
    rcases ih (step client parquet r first) w member with old | later
    · rcases step_written client parquet r first with taken | refused
      · rw [taken] at old
        rcases List.mem_append.mp old with before | new
        · exact .inl before
        · exact .inr (List.mem_cons.mpr (.inl (List.mem_singleton.mp new)))
      · rw [refused] at old
        exact .inl old
    · exact .inr (List.mem_cons_of_mem first later)

def anywhere (_ : List (String × String)) (_ _ : String) : Prop := True

-- What the local storage asks of the key of a put, by the keys put before.
def localApart (keys : List (String × String)) (bucket key : String) : Prop :=
  ∀ m : ObjectMap, m.objects.keys = keys → m.notified = [] → LocalObjectStorage.PutApart m bucket key

-- The local listing normalizes the prefix once more.
def askedLocally (wanted : List Char) : List Char := normalizeObjectPrefix (String.ofList wanted)

theorem uploadRawFile_kept {client : S3Client σ ε} (laws : S3Laws client represents) (bucket key : String) (data : List UInt8)
    (contentType : String) (metadata : OrderedDict String String) (held : represents m s) :
    (∃ e t, S3Handler.uploadRawFile client bucket key data contentType metadata s = (.error e,t) ∧ represents m t) ∨
    ∃ o t, S3Handler.uploadRawFile client bucket key data contentType metadata s = (.ok (),t) ∧ o.body = data ∧
      represents (m.set (bucket,key) o) t := by
  unfold S3Handler.uploadRawFile
  split
  · rcases laws.multipartUpload m s bucket key (Batches.batches multipartChunkSize data) "application/x-parquet" held with
      failed | ⟨t,put,grown⟩
    · exact .inl failed
    · exact .inr ⟨_,t,put,Batches.batches_flatten (by decide) data,grown⟩
  · rcases laws.putObject m s bucket key data contentType metadata held with failed | ⟨t,put,grown⟩
    · exact .inl failed
    · exact .inr ⟨_,t,put,rfl,grown⟩

theorem s3_keeps {client : S3Client σ ε} (laws : S3Laws client represents) :
    Keeps (S3Handler.batchClient client) represents anywhere id := by
  refine ⟨?_,laws.getObject,?_⟩
  · intro m s bucket key data contentType metadata _ held _
    exact uploadRawFile_kept laws bucket key data contentType metadata held
  · intro m s storageLayer wanted held
    obtain ⟨pages,listed,perm⟩ := laws.paginate m s (bucketForStorageLayer storageLayer) wanted held
    exact ⟨pages.flatten,by simp only [S3Handler.batchClient,listed,Except.map],perm⟩

theorem keysUnder_summaries (m : Objects) (bucket : String) (wanted : List Char) :
    (LocalObjectStorage.summaries ⟨m,[]⟩ bucket wanted).map LocalObjectStorage.ObjectSummary.key = keysUnder m bucket wanted := by
  rw [keysUnder,OrderedDict.keys,List.filter_map,LocalObjectStorage.summaries,List.map_map,List.map_map]
  rfl

theorem local_keeps (c : LocalObjectStorageClient) :
    Keeps (LocalObjectStorage.batchClient c) (fun m t => LocalObjectStorage.Represents ⟨m,[]⟩ t) localApart askedLocally := by
  refine ⟨?_,?_,?_⟩
  · intro m t bucket key data contentType metadata now held fits
    have apart : LocalObjectStorage.PutApart ⟨m,[]⟩ bucket key := fits ⟨m,[]⟩ rfl rfl
    rcases LocalObjectStorage.putObject_written held (.bytes data) contentType (some metadata) now apart with
      ⟨e,put⟩ | ⟨made,described,put,plain,ran,nodes⟩
    · exact .inl ⟨e,t,by simp only [LocalObjectStorage.batchClient,put,Except.map],held⟩
    · refine .inr ⟨⟨data,contentType,metadata⟩,described,by simp only [LocalObjectStorage.batchClient,put,Except.map],rfl,?_⟩
      exact LocalObjectStorage.put_represents held ⟨data,contentType,metadata⟩ plain ran nodes
  · intro m t bucket key o held stored
    simp only [LocalObjectStorage.batchClient,LocalObjectStorage.get_stored held stored c none,LocalObjectStorage.requested,
      Except.map]
  · intro m t storageLayer wanted held
    have rooted : LocalObjectStorage.bucketRoot (bucketForStorageLayer storageLayer) = .ok (bucketForStorageLayer storageLayer) := by
      cases storageLayer <;> rfl
    have quiet : LocalObjectStorage.Apart ⟨m,[]⟩
        (.listObjectsV2 (bucketForStorageLayer storageLayer) (String.ofList wanted) none) := by
      intro notified
      cases notified
    obtain ⟨all,perm,listed⟩ := LocalObjectStorage.list_exact held quiet rooted
    refine ⟨all.map LocalObjectStorage.ObjectSummary.key,?_,?_⟩
    · simp only [LocalObjectStorage.batchClient,listed,LocalObjectStorage.firstKeys,Except.map]
    · rw [← keysUnder_summaries]
      exact perm.map _

-- The service as a map, and a codec that keeps bytes as they are.
def mapClient : S3Client Objects Unit where
  putObject bucket key body contentType metadata m := (.ok (),m.set (bucket,key) ⟨body,contentType,metadata⟩)
  multipartUpload bucket key parts contentType m := (.ok (),m.set (bucket,key) ⟨parts.flatten,contentType,.empty⟩)
  getObject bucket key m :=
    match m.get? (bucket,key) with
    | some o => .ok o.body
    | none => .error ()
  paginate bucket wanted m := .ok [keysUnder m bucket wanted]

theorem mapClient_laws : S3Laws mapClient Eq := by
  refine ⟨?_,?_,?_,?_⟩
  · rintro m _ bucket key body contentType metadata rfl
    exact .inr ⟨_,rfl,rfl⟩
  · rintro m _ bucket key parts contentType rfl
    exact .inr ⟨_,rfl,rfl⟩
  · rintro m _ bucket key o rfl stored
    simp only [mapClient,stored]
  · rintro m _ bucket wanted rfl
    exact ⟨_,rfl,by simp⟩

def byteCodec : Parquet UInt8 := ⟨some,some⟩

def byteBatch : BatchWrite UInt8 where
  records := [7]
  storageLayer := .raw
  partitionPath := "transactions/2026"
  metadata := .empty
  name := ⟨"20260101000000","a1b2c3d4e5f6",by decide,by decide⟩
  now := ⟨"2026-01-01T00:00:00+00:00",1767225600⟩

theorem own_isolated (writes : ∀ w ∈ written, own storageLayer partitionPath w = true) :
    Isolated written storageLayer partitionPath wanted := by
  intro w member _ other
  rw [writes w member] at other
  cases other

theorem byteBatch_own (client : BatchClient σ ε) (s : σ) : ∀ w ∈ (Runs.run (step client byteCodec) ⟨s,[]⟩ [byteBatch]).written,
    own .raw "transactions/2026" w = true := by
  intro w member
  rcases run_written client byteCodec ⟨s,[]⟩ [byteBatch] w member with none | same
  · cases none
  · rw [List.mem_singleton.mp same]
    rfl

theorem byteBatch_apart : localApart [] byteBatch.bucket byteBatch.key := by
  intro m keys _ path accepted
  cases (LocalObjectStorage.objectPath_file accepted).1
  refine .inr ⟨⟨by decide,rfl,rfl⟩,?_⟩
  rintro ⟨bucket,other,member,_⟩
  rw [keys] at member
  cases member

theorem batch_round_trip (parquet : Parquet ρ) (writes : List (BatchWrite ρ)) (distinct : (writes.map BatchWrite.key).Nodup)
    (lossless : ∀ w ∈ writes, ∀ data, parquet.write w.records = some data → parquet.read data = some w.records)
    (storageLayer : StorageLayer) (partitionPath : String) :
    (∀ (σ ε : Type) (client : S3Client σ ε) (represents : Objects → σ → Prop) (s : σ), S3Laws client represents →
      represents .empty s →
        (RoundTrip (S3Handler.batchClient client) parquet (Runs.run (step (S3Handler.batchClient client) parquet) ⟨s,[]⟩ writes)
          storageLayer partitionPath ↔
        Isolated (Runs.run (step (S3Handler.batchClient client) parquet) ⟨s,[]⟩ writes).written storageLayer partitionPath
          (normalizeObjectPrefix partitionPath))) ∧
    ∀ c : LocalObjectStorageClient,
      Runs.Along (step (LocalObjectStorage.batchClient c) parquet)
        (fun r w => localApart (r.written.map address) w.bucket w.key) ⟨.empty,[]⟩ writes →
      askedLocally (normalizeObjectPrefix partitionPath) <+: normalizeObjectPrefix partitionPath →
        (RoundTrip (LocalObjectStorage.batchClient c) parquet
          (Runs.run (step (LocalObjectStorage.batchClient c) parquet) ⟨.empty,[]⟩ writes) storageLayer partitionPath ↔
        Isolated (Runs.run (step (LocalObjectStorage.batchClient c) parquet) ⟨.empty,[]⟩ writes).written storageLayer partitionPath
          (askedLocally (normalizeObjectPrefix partitionPath))) := by
  have readable : ∀ {σ ε : Type} (client : BatchClient σ ε) (s : σ),
      ∀ w ∈ (Runs.run (step client parquet) ⟨s,[]⟩ writes).written, ∀ data, parquet.write w.records = some data →
        parquet.read data = some w.records := by
    intro σ ε client s w member
    rcases run_written client parquet ⟨s,[]⟩ writes w member with none | written
    · cases none
    · exact lossless w written
  have begun : ∀ {σ : Type} (represents : Objects → σ → Prop) (s : σ), represents .empty s →
      Kept represents parquet ⟨s,[]⟩ .empty := by
    intro σ represents s held
    exact ⟨held,rfl,fun w member => by cases member⟩
  constructor
  · intro σ ε client represents s laws held
    have everywhere : Runs.Along (step (S3Handler.batchClient client) parquet)
        (fun r w => anywhere (r.written.map address) w.bucket w.key) ⟨s,[]⟩ writes :=
      Runs.along_always (fun _ _ => trivial) _ writes
    obtain ⟨m,kept⟩ := run_kept (s3_keeps laws) parquet writes (begun represents s held) everywhere distinct
    exact roundTrip_exact (s3_keeps laws) parquet kept (readable _ s) storageLayer partitionPath (List.prefix_refl _)
  · intro c apart short
    obtain ⟨m,kept⟩ := run_kept (local_keeps c) parquet writes (begun _ _ LocalObjectStorage.start_represents) apart distinct
    exact roundTrip_exact (local_keeps c) parquet kept (readable _ _) storageLayer partitionPath short

theorem batch_round_trip_one :
    RoundTrip (S3Handler.batchClient mapClient) byteCodec
      (Runs.run (step (S3Handler.batchClient mapClient) byteCodec) ⟨.empty,[]⟩ [byteBatch]) .raw "transactions/2026" ∧
    RoundTrip (LocalObjectStorage.batchClient LocalObjectStorage.plainClient) byteCodec
      (Runs.run (step (LocalObjectStorage.batchClient LocalObjectStorage.plainClient) byteCodec) ⟨.empty,[]⟩ [byteBatch])
      .raw "transactions/2026" := by
  have whole := batch_round_trip byteCodec [byteBatch] (List.nodup_singleton _)
    (fun w _ data written => by cases written; rfl) .raw "transactions/2026"
  constructor
  · exact (whole.1 Objects Unit mapClient Eq .empty mapClient_laws rfl).mpr (own_isolated (byteBatch_own _ _))
  · exact (whole.2 LocalObjectStorage.plainClient ⟨byteBatch_apart,trivial⟩ (by decide)).mpr (own_isolated (byteBatch_own _ _))

-- A batch written to the raw layer is read back from the validated layer.
theorem raw_records_read_as_validated : ¬RoundTrip (LocalObjectStorage.batchClient LocalObjectStorage.plainClient) byteCodec
    (Runs.run (step (LocalObjectStorage.batchClient LocalObjectStorage.plainClient) byteCodec) ⟨.empty,[]⟩ [byteBatch])
    .validated "transactions/2026" := by
  rintro ⟨records,read,perm⟩
  have kept : Kept (fun m t => LocalObjectStorage.Represents ⟨m,[]⟩ t) byteCodec ⟨.empty,[]⟩ .empty :=
    ⟨LocalObjectStorage.start_represents,rfl,fun w member => by cases member⟩
  obtain ⟨m,kept⟩ := run_kept (local_keeps LocalObjectStorage.plainClient) byteCodec [byteBatch] kept
    ⟨byteBatch_apart,trivial⟩ (List.nodup_singleton _)
  obtain ⟨others,read',perm'⟩ := reads_found (local_keeps LocalObjectStorage.plainClient) byteCodec kept
    (fun w _ data written => by cases written; rfl) .validated "transactions/2026"
  rw [read] at read'
  cases read'
  have both := perm.symm.trans perm'
  have nothing : ([] : List UInt8).Perm [7] := both
  exact absurd nothing.length_eq (by decide)

end BatchStorage
end RiskPulse
