import RiskPulse.StorageRefinement

-- No call reads or writes outside its bucket's directory, and every run that keeps its
-- files apart is one of the map.
namespace RiskPulse
namespace LocalObjectStorage

section Confinement
variable {t u : StorageRoot} {bucket : String} (agree : FileTree.Agree [bucket] t u)

theorem below_bucket (bucket : String) (path : List String) : [bucket] <+: bucket :: path := ⟨path,rfl⟩

theorem parents_made {made : StorageRoot} (ran : t.mkdirs [] (bucket :: front) = .ok made) (outside : ¬[bucket] <+: path) :
    made.node? path = t.node? path := by
  rcases (FileTree.mkdirs_made [] (bucket :: front) ran rfl).2 path with same | ⟨absent,_,_,inside⟩
  · exact same
  · cases path with
    | nil => cases absent
    | cons first rest =>
      obtain ⟨rfl,_⟩ := List.cons_prefix_cons.mp inside
      exact absurd (below_bucket first rest) outside

include agree

theorem mkdirs_agree (front : List String) :
    FileTree.Alike [bucket] (t.mkdirs [] (bucket :: front)) (u.mkdirs [] (bucket :: front)) := by
  refine FileTree.mkdirs_alike agree [] (bucket :: front) rfl ?_
  intro other
  by_cases same : bucket = other
  · exact .inl (by rw [same]; exact below_bucket other [])
  · exact .inr fun first => same (Option.some.inj first)

theorem readMetadata_agree (c : LocalObjectStorageClient) (p : FilePath String) (inside : [bucket] <+: (metadataPath p).full) :
    readMetadata c p u = readMetadata c p t := by
  rw [readMetadata,readMetadata,agree _ inside]

theorem objectMetadata_agree (c : LocalObjectStorageClient) (named : parts key ≠ []) :
    readMetadata c (objectFile bucket (parts key)) u = readMetadata c (objectFile bucket (parts key)) t := by
  obtain ⟨front,name,_,file⟩ := objectFile_named bucket (parts key) named
  apply readMetadata_agree agree
  rw [file]
  exact below_bucket _ _

theorem objectPath_agree (accepted : objectPath bucket key = .ok path) : t.node? path.full = u.node? path.full := by
  cases (objectPath_file accepted).1
  apply agree
  rw [objectFile_full]
  exact below_bucket _ _

theorem getObject_agree (c : LocalObjectStorageClient) (key : String) (range : Option String)
    (plain : parts key ≠ [] ∨ ∀ data, t.node? [bucket] ≠ some (.file data)) :
    getObject c bucket key range u = getObject c bucket key range t := by
  unfold getObject
  cases accepted : objectPath bucket key with
  | error e => rfl
  | ok path =>
    have here := objectPath_agree agree accepted
    cases (objectPath_file accepted).1
    simp only [Except.bind,← here]
    cases found : t.node? (objectFile bucket (parts key)).full with
    | none => rfl
    | some node =>
      cases node with
      | directory => rfl
      | file data =>
        have named : parts key ≠ [] := by
          rcases plain with named | noFile
          · exact named
          · intro none
            rw [objectFile_full,none] at found
            exact noFile data found
        rw [objectMetadata_agree agree c named]

theorem headObject_agree (c : LocalObjectStorageClient) (key : String)
    (plain : parts key ≠ [] ∨ ∀ path, objectPath bucket key = .ok path → t.node? path.full = none) :
    headObject c bucket key u = headObject c bucket key t := by
  unfold headObject
  cases accepted : objectPath bucket key with
  | error e => rfl
  | ok path =>
    have here := objectPath_agree agree accepted
    cases (objectPath_file accepted).1
    simp only [Except.bind,← here]
    cases found : t.node? (objectFile bucket (parts key)).full with
    | none => rfl
    | some node =>
      have named : parts key ≠ [] := by
        rcases plain with named | absent
        · exact named
        · rw [absent _ accepted] at found
          cases found
      rw [objectMetadata_agree agree c named]

theorem listObjectsV2_agree (wanted : String) (maxKeys : Option Int) :
    listObjectsV2 bucket wanted maxKeys u = listObjectsV2 bucket wanted maxKeys t := by
  unfold listObjectsV2
  cases rooted : bucketRoot bucket with
  | error e => rfl
  | ok root =>
    cases bucketRoot_same rooted
    have entries : ∀ path, [bucket] <+: path → t.nodes.get? path = u.nodes.get? path := by
      rintro path ⟨rest,rfl⟩
      have same := agree ([bucket] ++ rest) (List.prefix_append _ _)
      rwa [List.singleton_append,FileTree.node?_cons,FileTree.node?_cons] at same
    simp only [Except.map,← agree [bucket] (below_bucket bucket []),FileTree.listing_congr (· ≤ ·) t u [bucket] entries]

theorem putObject_agree (key : String) (body : Body) (contentType : String) (metadata : Option (OrderedDict String String))
    (now : Moment)
    (named : parts key ≠ [] ∨ t.node? [bucket] = some .directory ∨ ∃ error, objectPath bucket key = .error error) :
    (putObject bucket key body contentType metadata now u).1 = (putObject bucket key body contentType metadata now t).1 ∧
      FileTree.Agree [bucket] (putObject bucket key body contentType metadata now t).2
        (putObject bucket key body contentType metadata now u).2 := by
  unfold putObject
  cases accepted : objectPath bucket key with
  | error e => exact ⟨rfl,agree⟩
  | ok path =>
    cases (objectPath_file accepted).1
    by_cases none : parts key = []
    · have there : t.node? [bucket] = some .directory := by
        rcases named with given | there | ⟨error,rejected⟩
        · exact absurd none given
        · exact there
        · rw [accepted] at rejected
          cases rejected
      have there' : u.node? [bucket] = some .directory := by rw [← agree [bucket] (below_bucket bucket [])]; exact there
      have file : objectFile bucket (parts key) = ⟨[],bucket⟩ := by rw [none]; rfl
      simp only [file,FileTree.mkdirs,t.writeFile_taken ⟨[],bucket⟩ _ rfl there,u.writeFile_taken ⟨[],bucket⟩ _ rfl there']
      exact ⟨trivial,agree⟩
    · obtain ⟨front,name,_,file⟩ := objectFile_named bucket (parts key) none
      rw [file]
      simp only
      rcases FileTree.alike_cases (mkdirs_agree agree front) with
        ⟨e,first,second⟩ | ⟨made,made',first,second,after⟩
      · simp only [first,second]
        exact ⟨trivial,agree⟩
      · simp only [first,second]
        rcases FileTree.alike_cases (FileTree.writeFile_alike after ⟨bucket :: front,name⟩ (coerceBody body)
          (after _ (below_bucket _ _)) (below_bucket _ _)) with ⟨e,first,second⟩ | ⟨written,written',first,second,later⟩
        · simp only [first,second]
          exact ⟨trivial,after⟩
        · simp only [first,second]
          rcases FileTree.alike_cases (FileTree.writeFile_alike later (metadataPath ⟨bucket :: front,name⟩)
            (metadataText contentType (metadata.getD .empty) now) (later _ (below_bucket _ _)) (below_bucket _ _)) with
            ⟨e,first,second⟩ | ⟨described,described',first,second,last⟩
          · simp only [first,second]
            exact ⟨trivial,later⟩
          · simp only [first,second]
            exact ⟨trivial,last⟩

theorem configuration_agree (configuration : Json) :
    (putBucketNotificationConfiguration bucket configuration u).1 = (putBucketNotificationConfiguration bucket configuration t).1 ∧
      FileTree.Agree [bucket] (putBucketNotificationConfiguration bucket configuration t).2
        (putBucketNotificationConfiguration bucket configuration u).2 := by
  unfold putBucketNotificationConfiguration
  cases rooted : bucketRoot bucket with
  | error e => exact ⟨rfl,agree⟩
  | ok root =>
    cases bucketRoot_same rooted
    simp only
    split
    · exact ⟨rfl,agree⟩
    · rcases FileTree.alike_cases (mkdirs_agree agree []) with
        ⟨e,first,second⟩ | ⟨made,made',first,second,after⟩
      · simp only [first,second]
        exact ⟨trivial,agree⟩
      · simp only [first,second]
        rcases FileTree.alike_cases (FileTree.writeFile_alike after ⟨[bucket],notificationsFile⟩
          (Json.encodeUtf8 (Json.dumps configuration)) (after _ (below_bucket _ _)) (below_bucket _ _)) with
          ⟨e,first,second⟩ | ⟨written,written',first,second,last⟩
        · simp only [first,second]
          exact ⟨trivial,after⟩
        · simp only [first,second]
          exact ⟨trivial,last⟩

end Confinement

section Steps
variable {m : ObjectMap} {t : StorageRoot} (represents : Represents m t)
include represents

theorem exec_represents (c : LocalObjectStorageClient) (call : Call) (apart : Apart m call) :
    Represents (recorded call (exec c call t).1 m) (exec c call t).2 := by
  cases call with
  | getObject | headObject | listObjectsV2 => exact represents
  | putObject bucket key body contentType metadata now =>
    rcases putObject_written represents body contentType metadata now apart with ⟨error,put⟩ | ⟨made,described,put,plain,ran,nodes⟩
    · simp only [exec,put]
      exact represents
    · simp only [exec,put]
      exact put_represents represents ⟨coerceBody body,contentType,metadata.getD .empty⟩ plain ran nodes
  | putBucketNotificationConfiguration bucket configuration =>
    rcases configuration_cases bucket configuration t with ⟨error,put⟩ | ⟨made,written,put,rooted,ran,nodes⟩
    · simp only [exec,put]
      exact represents
    · simp only [exec,put]
      exact configured_represents represents (apart rooted) ran nodes

theorem exec_answers (c : LocalObjectStorageClient) (call : Call) (apart : Apart m call) : Answers c m t call := by
  cases call with
  | putObject bucket key body contentType metadata now =>
    intro error failed
    rcases putObject_written represents body contentType metadata now apart with ⟨_,put⟩ | ⟨_,_,put,_⟩
    · rw [put]
    · rw [put] at failed
      cases failed
  | getObject bucket key range =>
    rw [Answers]
    cases stored : m.objects.get? (bucket,key) with
    | some o => exact get_stored represents stored c range
    | none => exact get_unknown represents stored c range apart
  | headObject bucket key =>
    rw [Answers]
    cases stored : m.objects.get? (bucket,key) with
    | some o => exact head_stored represents stored c
    | none => exact head_unknown represents stored c apart
  | listObjectsV2 bucket wanted maxKeys => exact list_exact represents apart
  | putBucketNotificationConfiguration => trivial

-- No file lies at a bucket itself.
theorem bucket_noFile (bucket : String) : ∀ data, t.node? [bucket] ≠ some (.file data) := by
  intro data found
  rcases represents.files [bucket] data found with ⟨other,key,member,here | here⟩ | ⟨other,_,here⟩
  · rw [objectAt_path] at here
    exact (represents.plain other key member).named (List.cons.inj here).2.symm
  · obtain ⟨front,name,_,file⟩ := objectFile_named other (parts key) (represents.plain other key member).named
    rw [metadataAt,file,metadataPath_full] at here
    simp at here
  · cases here

theorem blocked_bucket (blocked : Blocked m [bucket]) : t.node? [bucket] = some .directory := by
  rcases blocked with directory | ⟨above,accounted,inside,apart⟩
  · exact isDirectory_there represents directory
  · obtain ⟨data,found⟩ := accounted_there represents accounted
    rcases List.prefix_concat_iff.mp (show above <+: [] ++ [bucket] from inside) with whole | root
    · exact absurd whole apart
    · rw [List.prefix_nil.mp root] at found
      cases found

theorem exec_writes (c : LocalObjectStorageClient) (call : Call) (apart : Apart m call) (path : List String)
    (outside : ¬[call.bucket] <+: path) : (exec c call t).2.node? path = t.node? path := by
  cases call with
  | getObject | headObject | listObjectsV2 => rfl
  | putObject bucket key body contentType metadata now =>
    rcases putObject_written represents body contentType metadata now apart with ⟨error,put⟩ | ⟨made,described,put,plain,ran,nodes⟩
    · simp only [exec,put]
    · obtain ⟨front,name,_,file⟩ := objectFile_named bucket (parts key) plain.named
      have own : ∀ rest, path ≠ bucket :: rest := by
        rintro rest rfl
        exact outside (below_bucket bucket rest)
      rw [file] at ran
      simp only [exec,put]
      rw [nodes,if_neg (by rw [metadataAt,file]; exact own _),if_neg (by rw [objectAt_path]; exact own _)]
      exact parents_made ran outside
  | putBucketNotificationConfiguration bucket configuration =>
    rcases configuration_cases bucket configuration t with ⟨error,put⟩ | ⟨made,written,put,_,ran,nodes⟩
    · simp only [exec,put]
    · have own : path ≠ [bucket,notificationsFile] := by
        rintro rfl
        exact outside (below_bucket bucket [notificationsFile])
      simp only [exec,put]
      rw [nodes,if_neg own]
      exact parents_made ran outside

theorem exec_reads (c : LocalObjectStorageClient) (call : Call) (apart : Apart m call) (u : StorageRoot)
    (agree : FileTree.Agree [call.bucket] t u) :
    (exec c call u).1 = (exec c call t).1 ∧ FileTree.Agree [call.bucket] (exec c call t).2 (exec c call u).2 := by
  cases call with
  | putObject bucket key body contentType metadata now =>
    have named : parts key ≠ [] ∨ t.node? [bucket] = some .directory ∨ ∃ error, objectPath bucket key = .error error := by
      by_cases none : parts key = []
      · cases accepted : objectPath bucket key with
        | error e => exact .inr (.inr ⟨e,rfl⟩)
        | ok path =>
          cases (objectPath_file accepted).1
          have blocked := (apart _ accepted).resolve_right fun plain => plain.1.1 none
          rw [objectFile_full,none] at blocked
          exact .inr (.inl (blocked_bucket represents blocked))
      · exact .inl none
    have same := putObject_agree agree key body contentType metadata now named
    exact ⟨congrArg Answer.put same.1,same.2⟩
  | getObject bucket key range =>
    exact ⟨congrArg Answer.get (getObject_agree agree c key range (.inr (bucket_noFile represents bucket))),agree⟩
  | headObject bucket key =>
    have plain : parts key ≠ [] ∨ ∀ path, objectPath bucket key = .ok path → t.node? path.full = none := by
      by_cases none : parts key = []
      · refine .inr fun path accepted => ?_
        rcases apart path accepted with member | ⟨free,noDirectory⟩
        · exact absurd none (represents.plain bucket key member).named
        · cases found : t.node? path.full with
          | none => rfl
          | some node =>
            cases node with
            | directory => exact ((represents.directories _ found).elim path.full_ne noDirectory).elim
            | file data => exact absurd (represents.files _ data found) free
      · exact .inl none
    exact ⟨congrArg Answer.head (headObject_agree agree c key plain),agree⟩
  | listObjectsV2 bucket wanted maxKeys => exact ⟨congrArg Answer.list (listObjectsV2_agree agree wanted maxKeys),agree⟩
  | putBucketNotificationConfiguration bucket configuration =>
    have same := configuration_agree agree configuration
    exact ⟨congrArg Answer.configured same.1,same.2⟩

end Steps

def plainClient : LocalObjectStorageClient where
  int _ := none
  recursionLimit := 1000
  room := by decide
  directorySize := 4096

def upload (key : String) (data : List UInt8) : Call :=
  .putObject "riskpulse-raw" key (.bytes data) "text/plain" none ⟨"2026-01-01T00:00:00+00:00",1767225600⟩

theorem upload_apart (named : parts key ≠ []) (canonical : Text.join '/' (parts key) = key)
    (object : isMetadataName (objectFile "riskpulse-raw" (parts key)).name = false) : Apart start.map (upload key data) := by
  intro path accepted
  cases (objectPath_file accepted).1
  refine .inr ⟨⟨named,canonical,object⟩,?_⟩
  rintro ⟨bucket,other,member,_⟩
  cases member

-- What a get returns is what lies at the path of its key.
theorem getObject_body (got : getObject c bucket key none t = .ok response) :
    t.node? (objectAt bucket key) = some (.file response.body) := by
  unfold getObject at got
  cases accepted : objectPath bucket key with
  | error e =>
    rw [accepted] at got
    cases got
  | ok path =>
    cases (objectPath_file accepted).1
    rw [accepted] at got
    change t.node? (objectFile bucket (parts key)).full = _
    simp only [Except.bind] at got
    cases found : t.node? (objectFile bucket (parts key)).full with
    | none =>
      rw [found] at got
      cases got
    | some node =>
      rw [found] at got
      cases node with
      | directory => cases got
      | file data =>
        simp only [requested] at got
        cases read : readMetadata c (objectFile bucket (parts key)) t with
        | error e =>
          rw [read] at got
          cases got
        | ok metadata =>
          rw [read] at got
          cases described : describe metadata with
          | error e =>
            simp only [described] at got
            cases got
          | ok description =>
            simp only [described] at got
            cases got
            rfl

end LocalObjectStorage
end RiskPulse
