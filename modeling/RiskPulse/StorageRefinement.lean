import RiskPulse.LocalObjectStorage

-- What the local object storage is for: a map from buckets and keys to objects, and
-- the buckets whose notifications have been configured.
namespace RiskPulse
namespace LocalObjectStorage

structure StoredObject where
  body : List UInt8
  contentType : String
  metadata : OrderedDict String String

def StoredObject.description (o : StoredObject) : Description :=
  ⟨.str o.contentType,.object (o.metadata.entries.map fun entry => (entry.1,.str entry.2))⟩

structure ObjectMap where
  objects : OrderedDict (String × String) StoredObject
  notified : List String

inductive Call where
  | putObject (bucket key : String) (body : Body) (contentType : String) (metadata : Option (OrderedDict String String))
    (now : Moment)
  | getObject (bucket key : String) (range : Option String)
  | headObject (bucket key : String)
  | listObjectsV2 (bucket wanted : String) (maxKeys : Option Int)
  | putBucketNotificationConfiguration (bucket : String) (configuration : Json)

def Call.bucket : Call → String
  | .putObject bucket .. | .getObject bucket .. | .headObject bucket _ | .listObjectsV2 bucket ..
  | .putBucketNotificationConfiguration bucket _ => bucket

inductive Answer where
  | put (outcome : Except LocalObjectStorageError String)
  | get (outcome : Except LocalObjectStorageError ObjectResponse)
  | head (outcome : Except LocalObjectStorageError HeadResponse)
  | list (outcome : Except LocalObjectStorageError (List ObjectSummary))
  | configured (outcome : Except LocalObjectStorageError Unit)

def exec (c : LocalObjectStorageClient) (call : Call) (t : StorageRoot) : Answer × StorageRoot :=
  match call with
  | .putObject bucket key body contentType metadata now =>
    let ran := putObject bucket key body contentType metadata now t
    (.put ran.1,ran.2)
  | .getObject bucket key range => (.get (getObject c bucket key range t),t)
  | .headObject bucket key => (.head (headObject c bucket key t),t)
  | .listObjectsV2 bucket wanted maxKeys => (.list (listObjectsV2 bucket wanted maxKeys t),t)
  | .putBucketNotificationConfiguration bucket configuration =>
    let ran := putBucketNotificationConfiguration bucket configuration t
    (.configured ran.1,ran.2)

-- Only an accepted call changes the map.
def recorded (call : Call) (answer : Answer) (m : ObjectMap) : ObjectMap :=
  match call,answer with
  | .putObject bucket key body contentType metadata _,.put (.ok _) =>
    {m with objects := m.objects.set (bucket,key) ⟨coerceBody body,contentType,metadata.getD .empty⟩}
  | .putBucketNotificationConfiguration bucket _,.configured (.ok _) => {m with notified := bucket :: m.notified}
  | _,_ => m

structure Storage where
  root : StorageRoot
  map : ObjectMap

def step (c : LocalObjectStorageClient) (s : Storage) (call : Call) : Storage :=
  let ran := exec c call s.root
  ⟨ran.2,recorded call ran.1 s.map⟩

def start : Storage := ⟨.empty,⟨.empty,[]⟩⟩

def summaries (m : ObjectMap) (bucket : String) (wanted : List Char) : List ObjectSummary :=
  (m.objects.entries.filter fun entry => decide (entry.1.1 = bucket ∧ wanted <+: entry.1.2.toList)).map
    fun entry => ⟨entry.1.2,entry.2.body.length⟩

def firstKeys (maxKeys : Option Int) (all : List ObjectSummary) : List ObjectSummary :=
  match maxKeys with
  | none => all
  | some most => if most = 0 then all else all.take (max 1 most).toNat

-- A call is answered as the map says, and a put that is rejected changes no file.
def Answers (c : LocalObjectStorageClient) (m : ObjectMap) (t : StorageRoot) : Call → Prop
  | .putObject bucket key body contentType metadata now => ∀ error,
    (putObject bucket key body contentType metadata now t).1 = .error error →
      (putObject bucket key body contentType metadata now t).2 = t
  | .getObject bucket key range =>
    match m.objects.get? (bucket,key) with
    | some o => getObject c bucket key range t = (requested c o.body range).map fun data => ⟨data,data.length,o.description⟩
    | none => ∃ error, getObject c bucket key range t = .error error
  | .headObject bucket key =>
    match m.objects.get? (bucket,key) with
    | some o => headObject c bucket key t = .ok ⟨o.body.length,o.description⟩
    | none => ∃ error, headObject c bucket key t = .error error
  | .listObjectsV2 bucket wanted maxKeys => bucketRoot bucket = .ok bucket →
    ∃ all, all.Perm (summaries m bucket (normalizeObjectPrefix wanted)) ∧
      listObjectsV2 bucket wanted maxKeys t = .ok (firstKeys maxKeys all)
  | .putBucketNotificationConfiguration .. => True

-- Nothing outside the bucket's directory is written, and nothing there decides what a
-- call answers or writes.
structure Confined (c : LocalObjectStorageClient) (t : StorageRoot) (call : Call) : Prop where
  writes : ∀ path, ¬[call.bucket] <+: path → (exec c call t).2.node? path = t.node? path
  reads : ∀ u, FileTree.Agree [call.bucket] t u →
    (exec c call u).1 = (exec c call t).1 ∧ FileTree.Agree [call.bucket] (exec c call t).2 (exec c call u).2

def Right (c : LocalObjectStorageClient) (s : Storage) (call : Call) : Prop :=
  Answers c s.map s.root call ∧ Confined c s.root call

-- Where the files of a put lie, and what lies where in the tree.
def objectAt (bucket key : String) : List String := (objectFile bucket (parts key)).full
def metadataAt (bucket key : String) : List String := (metadataPath (objectFile bucket (parts key))).full

def Accounted (m : ObjectMap) (path : List String) : Prop :=
  (∃ bucket key, (bucket,key) ∈ m.objects.keys ∧ (path = objectAt bucket key ∨ path = metadataAt bucket key)) ∨
    ∃ bucket ∈ m.notified, path = [bucket,notificationsFile]

def Holds (m : ObjectMap) (path : List String) : Prop :=
  ∃ bucket key, (bucket,key) ∈ m.objects.keys ∧ path <+: objectAt bucket key ∧ path ≠ objectAt bucket key

def IsDirectory (m : ObjectMap) (path : List String) : Prop := Holds m path ∨ ∃ bucket ∈ m.notified, path = [bucket]

-- A put that is rejected before it writes.
def Blocked (m : ObjectMap) (path : List String) : Prop :=
  IsDirectory m path ∨ ∃ above, Accounted m above ∧ above <+: path ∧ above ≠ path

-- The key of a put is written as the joined names of its path, it is no name of a
-- metadata file, and no object lies below its own metadata file.
def PutApart (m : ObjectMap) (bucket key : String) : Prop := ∀ path, objectPath bucket key = .ok path → Blocked m path.full ∨
  (parts key ≠ [] ∧ Text.join '/' (parts key) = key ∧ isMetadataName path.name = false) ∧ ¬Holds m (metadataPath path).full

-- A call that keeps objects, metadata files and the notification file apart: a key that
-- was never put is the path of nothing that is there.
def Apart (m : ObjectMap) : Call → Prop
  | .putObject bucket key .. => PutApart m bucket key
  | .getObject bucket key _ => ∀ path, objectPath bucket key = .ok path →
    (bucket,key) ∈ m.objects.keys ∨ ¬Accounted m path.full
  | .headObject bucket key => ∀ path, objectPath bucket key = .ok path →
    (bucket,key) ∈ m.objects.keys ∨ ¬Accounted m path.full ∧ ¬IsDirectory m path.full
  | .listObjectsV2 bucket wanted _ => bucket ∈ m.notified →
    (bucket,notificationsFile) ∈ m.objects.keys ∨ ¬normalizeObjectPrefix wanted <+: notificationsFile.toList
  | .putBucketNotificationConfiguration bucket _ => bucketRoot bucket = .ok bucket →
    (bucket,notificationsFile) ∉ m.objects.keys

theorem bucketRoot_same (accepted : bucketRoot bucket = .ok root) : root = bucket := by
  unfold bucketRoot at accepted
  split at accepted
  · cases accepted
  · cases accepted
    rfl

theorem objectPath_file (accepted : objectPath bucket key = .ok path) :
    path = objectFile bucket (parts key) ∧ bucketRoot bucket = .ok bucket := by
  unfold objectPath at accepted
  split at accepted
  · cases accepted
  · split at accepted
    · cases accepted
    · cases rooted : bucketRoot bucket with
      | error e =>
        rw [rooted] at accepted
        cases accepted
      | ok root =>
        cases bucketRoot_same rooted
        rw [rooted] at accepted
        simp only [Except.bind] at accepted
        split at accepted
        · cases accepted
        · split at accepted
          · cases accepted
          · cases accepted
            exact ⟨rfl,rfl⟩

theorem objectFile_named (bucket : String) (below : List String) (named : below ≠ []) :
    ∃ front name, below = front ++ [name] ∧ objectFile bucket below = ⟨bucket :: front,name⟩ := by
  refine ⟨below.dropLast,below.getLast named,(List.dropLast_concat_getLast named).symm,?_⟩
  rw [objectFile,List.getLast?_eq_getLast_of_ne_nil named]

theorem objectFile_full (bucket : String) (below : List String) : (objectFile bucket below).full = bucket :: below := by
  by_cases named : below = []
  · rw [named]
    rfl
  · obtain ⟨front,name,split,file⟩ := objectFile_named bucket below named
    rw [file,split]
    rfl

theorem objectAt_path (bucket key : String) : objectAt bucket key = bucket :: parts key := objectFile_full bucket (parts key)

theorem metadataPath_full (p : FilePath String) : (metadataPath p).full = p.parent ++ [p.name ++ metadataSuffix] := rfl

theorem metadataPath_injective {p q : FilePath String} (same : (metadataPath p).full = (metadataPath q).full) : p = q := by
  have paths := FilePath.full_injective same
  obtain ⟨parent,name⟩ := p
  obtain ⟨other,named⟩ := q
  cases congrArg FilePath.parent paths
  have names : name ++ metadataSuffix = named ++ metadataSuffix := congrArg FilePath.name paths
  rw [String.append_left_inj] at names
  rw [names]

theorem metadataPath_named (p : FilePath String) : isMetadataName (metadataPath p).name = true := by
  rw [isMetadataName,decide_eq_true_iff,metadataPath,String.toList_append]
  exact List.suffix_append _ _

-- A put key: the path of its object names the key, and no metadata file.
structure Plain (bucket key : String) : Prop where
  accepted : objectPath bucket key = .ok (objectFile bucket (parts key))
  named : parts key ≠ []
  canonical : Text.join '/' (parts key) = key
  object : isMetadataName (objectFile bucket (parts key)).name = false

-- The tree of a map: every file and every directory is one of a put or a configuration.
structure Represents (m : ObjectMap) (t : StorageRoot) : Prop where
  plain : ∀ bucket key, (bucket,key) ∈ m.objects.keys → Plain bucket key
  body : ∀ bucket key o, m.objects.get? (bucket,key) = some o → t.node? (objectAt bucket key) = some (.file o.body)
  described : ∀ bucket key o, m.objects.get? (bucket,key) = some o →
    ∃ now, t.node? (metadataAt bucket key) = some (.file (metadataText o.contentType o.metadata now))
  configured : ∀ bucket ∈ m.notified, ∃ data, t.node? [bucket,notificationsFile] = some (.file data)
  files : ∀ path data, t.node? path = some (.file data) → Accounted m path
  directories : ∀ path, t.node? path = some .directory → path = [] ∨ IsDirectory m path

theorem start_represents : Represents start.map start.root := by
  have nowhere : ∀ path node, start.root.node? path = some node → path = [] ∧ node = .directory := by
    intro path node found
    change (if path = [] then some FileNode.directory else none) = some node at found
    split at found
    · rename_i root
      cases found
      exact ⟨root,rfl⟩
    · cases found
  refine ⟨?_,?_,?_,?_,?_,?_⟩
  · intro bucket key member
    cases member
  · intro bucket key o stored
    cases stored
  · intro bucket key o stored
    cases stored
  · intro bucket member
    cases member
  · intro path data found
    cases (nowhere path _ found).2
  · intro path found
    exact .inl (nowhere path _ found).1

theorem apart_paths (first : Plain bucket key) (other name : String) : objectAt bucket key ≠ metadataAt other name := by
  intro same
  have file := FilePath.full_injective same
  have object := first.object
  rw [file,metadataPath_named] at object
  cases object

theorem objectAt_injective (first : Plain bucket key) (second : Plain other name)
    (same : objectAt bucket key = objectAt other name) : bucket = other ∧ key = name := by
  rw [objectAt_path,objectAt_path] at same
  obtain ⟨buckets,below⟩ := List.cons.inj same
  exact ⟨buckets,by rw [← first.canonical,below,second.canonical]⟩

theorem metadataAt_injective (first : Plain bucket key) (second : Plain other name)
    (same : metadataAt bucket key = metadataAt other name) : bucket = other ∧ key = name :=
  objectAt_injective first second (congrArg FilePath.full (metadataPath_injective same))

theorem paths_differ (first : Plain other name) (second : Plain bucket key) (different : ¬(other,name) = (bucket,key)) :
    objectAt other name ≠ objectAt bucket key ∧ metadataAt other name ≠ metadataAt bucket key := by
  constructor
  · intro same
    obtain ⟨rfl,rfl⟩ := objectAt_injective first second same
    exact different rfl
  · intro same
    obtain ⟨rfl,rfl⟩ := metadataAt_injective first second same
    exact different rfl

theorem parent_short (inside : path <+: (objectFile bucket (parts key)).parent) :
    path <+: objectAt bucket key ∧ path ≠ objectAt bucket key := by
  refine ⟨inside.trans (List.prefix_append _ _),?_⟩
  intro same
  have short := inside.length_le
  rw [same] at short
  simp [objectAt,FilePath.full] at short

theorem notifications_apart (other bucket key : String) : [other,notificationsFile] ≠ metadataAt bucket key := by
  intro same
  have file : (⟨[other],notificationsFile⟩ : FilePath String) = metadataPath (objectFile bucket (parts key)) :=
    FilePath.full_injective same
  have named : isMetadataName notificationsFile = true := by
    rw [show notificationsFile = (metadataPath (objectFile bucket (parts key))).name from congrArg FilePath.name file]
    exact metadataPath_named _
  exact absurd named (by decide)

section Tree
variable {m : ObjectMap} {t : StorageRoot} (represents : Represents m t)
include represents

theorem stored_directory (holds : Holds m path) : t.node? path = some .directory := by
  obtain ⟨bucket,key,member,⟨more,whole⟩,apart⟩ := holds
  obtain ⟨o,stored⟩ := (OrderedDict.mem_keys _ _).mp member
  have body := represents.body bucket key o stored
  rw [← whole] at body
  refine t.node?_above path more ?_ body
  intro none
  rw [none,List.append_nil] at whole
  exact apart whole

theorem isDirectory_there (directory : IsDirectory m path) : t.node? path = some .directory := by
  rcases directory with holds | ⟨bucket,member,rfl⟩
  · exact stored_directory represents holds
  · obtain ⟨data,found⟩ := represents.configured bucket member
    exact t.node?_above [bucket] [notificationsFile] (by simp) found

theorem accounted_there (accounted : Accounted m path) : ∃ data, t.node? path = some (.file data) := by
  rcases accounted with ⟨bucket,key,member,rfl | rfl⟩ | ⟨bucket,member,rfl⟩
  · obtain ⟨o,stored⟩ := (OrderedDict.mem_keys _ _).mp member
    exact ⟨_,represents.body bucket key o stored⟩
  · obtain ⟨o,stored⟩ := (OrderedDict.mem_keys _ _).mp member
    obtain ⟨now,found⟩ := represents.described bucket key o stored
    exact ⟨_,found⟩
  · exact represents.configured bucket member

end Tree

theorem payload_representable (contentType : String) (metadata : OrderedDict String String) (now : Moment) :
    (payload contentType metadata now).representable = true ∧ (payload contentType metadata now).depth ≤ 2 := by
  have texts : ∀ member ∈ metadata.entries.map fun entry => (entry.1,Json.str entry.2), ∃ text, member.2 = .str text := by
    intro member inside
    obtain ⟨entry,_,rfl⟩ := List.mem_map.mp inside
    exact ⟨entry.2,rfl⟩
  have own : (Json.object (metadata.entries.map fun entry => (entry.1,.str entry.2))).representable = true := by
    rw [Json.representable_object,List.map_map]
    refine ⟨metadata.unique,?_⟩
    intro member inside
    obtain ⟨text,same⟩ := texts member inside
    rw [same]
    rfl
  have flat : Json.depthMembers (metadata.entries.map fun entry => (entry.1,.str entry.2)) ≤ 0 := by
    rw [Json.depthMembers_le]
    intro member inside
    obtain ⟨text,same⟩ := texts member inside
    rw [same]
    exact Nat.le_refl 0
  constructor
  · rw [payload,Json.representable_object]
    refine ⟨show ["content_type","metadata","last_modified"].Nodup by decide,?_⟩
    simp only [List.forall_mem_cons]
    exact ⟨rfl,own,rfl,by simp⟩
  · rw [payload,Json.depth]
    simp only [Json.depthMembers,Json.depth]
    omega

theorem readMetadata_written (c : LocalObjectStorageClient) {p : FilePath String} {t : StorageRoot}
    (found : t.node? (metadataPath p).full = some (.file (metadataText contentType metadata now))) :
    readMetadata c p t = .ok (payload contentType metadata now) := by
  obtain ⟨fits,deep⟩ := payload_representable contentType metadata now
  rw [readMetadata,found]
  simp only [metadataText,Json.decode_encodeUtf8,Json.loads_dumpsLine _ fits c.recursionLimit (deep.trans c.room)]
  rfl

theorem describe_payload (contentType : String) (metadata : OrderedDict String String) (now : Moment) :
    describe (payload contentType metadata now) =
      .ok ⟨.str contentType,.object (metadata.entries.map fun entry => (entry.1,.str entry.2))⟩ := by
  simp only [describe,payload,member,OrderedDict.getD]
  rfl

section Stored
variable {m : ObjectMap} {t : StorageRoot} (represents : Represents m t) (stored : m.objects.get? (bucket,key) = some o)
include represents stored

theorem get_stored (c : LocalObjectStorageClient) (range : Option String) :
    getObject c bucket key range t = (requested c o.body range).map fun data => ⟨data,data.length,o.description⟩ := by
  have plain := represents.plain bucket key ((OrderedDict.mem_keys _ _).mpr ⟨o,stored⟩)
  have body : t.node? (objectFile bucket (parts key)).full = some (.file o.body) := represents.body bucket key o stored
  obtain ⟨now,described⟩ := represents.described bucket key o stored
  rw [getObject,plain.accepted]
  simp only [Except.bind,body,readMetadata_written c described,describe_payload]
  cases requested c o.body range <;> rfl

theorem head_stored (c : LocalObjectStorageClient) : headObject c bucket key t = .ok ⟨o.body.length,o.description⟩ := by
  have plain := represents.plain bucket key ((OrderedDict.mem_keys _ _).mpr ⟨o,stored⟩)
  have body : t.node? (objectFile bucket (parts key)).full = some (.file o.body) := represents.body bucket key o stored
  obtain ⟨now,described⟩ := represents.described bucket key o stored
  rw [headObject,plain.accepted]
  simp only [Except.bind,body,readMetadata_written c described,describe_payload]
  rfl

end Stored

section Unknown
variable {m : ObjectMap} {t : StorageRoot} (represents : Represents m t) (unknown : m.objects.get? (bucket,key) = none)
include represents unknown

theorem get_unknown (c : LocalObjectStorageClient) (range : Option String)
    (apart : Apart m (.getObject bucket key range)) : ∃ error, getObject c bucket key range t = .error error := by
  cases accepted : objectPath bucket key with
  | error e => exact ⟨e,by rw [getObject,accepted]; rfl⟩
  | ok path =>
    have free := (apart path accepted).resolve_left fun member => (OrderedDict.get?_eq_none _ _).mp unknown member
    rw [getObject,accepted]
    simp only [Except.bind]
    cases found : t.node? path.full with
    | none => exact ⟨_,rfl⟩
    | some node =>
      cases node with
      | directory => exact ⟨_,rfl⟩
      | file data => exact absurd (represents.files path.full data found) free

theorem head_unknown (c : LocalObjectStorageClient) (apart : Apart m (.headObject bucket key)) :
    ∃ error, headObject c bucket key t = .error error := by
  cases accepted : objectPath bucket key with
  | error e => exact ⟨e,by rw [headObject,accepted]; rfl⟩
  | ok path =>
    have free := (apart path accepted).resolve_left fun member => (OrderedDict.get?_eq_none _ _).mp unknown member
    rw [headObject,accepted]
    simp only [Except.bind]
    cases found : t.node? path.full with
    | none => exact ⟨_,rfl⟩
    | some node =>
      cases node with
      | directory => exact ((represents.directories path.full found).elim path.full_ne free.2).elim
      | file data => exact absurd (represents.files path.full data found) free.1

end Unknown

-- A put changes nothing, or writes both files, or leaves the object without its
-- metadata where a directory has the name of the metadata file.
theorem putObject_cases (bucket key : String) (body : Body) (contentType : String)
    (metadata : Option (OrderedDict String String)) (now : Moment) (t : StorageRoot) :
    (∃ error, putObject bucket key body contentType metadata now t = (.error error,t)) ∨
    ∃ path made, objectPath bucket key = .ok path ∧ t.mkdirs [] path.parent = .ok made ∧ t.node? path.full ≠ some .directory ∧
      ((∃ described, putObject bucket key body contentType metadata now t = (.ok (eTag (coerceBody body) now),described) ∧
        ∀ other, described.node? other =
          if other = (metadataPath path).full then some (.file (metadataText contentType (metadata.getD .empty) now))
          else if other = path.full then some (.file (coerceBody body)) else made.node? other) ∨
      t.node? (metadataPath path).full = some .directory) := by
  unfold putObject
  cases accepted : objectPath bucket key with
  | error e => exact .inl ⟨e,rfl⟩
  | ok path =>
    simp only
    cases ran : t.mkdirs [] path.parent with
    | error e => exact .inl ⟨_,rfl⟩
    | ok made =>
      have parent : made.node? path.parent = some .directory := (FileTree.mkdirs_made [] path.parent ran rfl).1
      by_cases there : made.node? path.full = some .directory
      · obtain ⟨rfl,_⟩ := FileTree.mkdirs_taken ran there
        simp only [made.writeFile_taken path (coerceBody body) parent there]
        exact .inl ⟨_,rfl⟩
      · obtain ⟨written,wrote⟩ := made.writeFile_works path (coerceBody body) parent there
        obtain ⟨_,_,nodes⟩ := FileTree.writeFile_written wrote
        refine .inr ⟨path,made,rfl,ran,fun before => there (FileTree.mkdirs_keeps ran before),?_⟩
        have inside : written.node? (metadataPath path).parent = some .directory := by
          rw [nodes,if_neg (by simp [FilePath.full,metadataPath])]
          exact parent
        have apart : (metadataPath path).full ≠ path.full := by
          intro same
          have names := congrArg (String.length ∘ FilePath.name) (FilePath.full_injective same)
          simp [metadataPath,metadataSuffix] at names
        by_cases taken : written.node? (metadataPath path).full = some .directory
        · rw [nodes,if_neg apart] at taken
          exact .inr (FileTree.mkdirs_taken (p := metadataPath path) ran taken).2
        · obtain ⟨described,ended⟩ := written.writeFile_works (metadataPath path)
            (metadataText contentType (metadata.getD .empty) now) inside taken
          obtain ⟨_,_,last⟩ := FileTree.writeFile_written ended
          simp only [wrote,ended]
          refine .inl ⟨described,rfl,fun other => ?_⟩
          rw [last,nodes]

section Put
variable {m : ObjectMap} {t : StorageRoot} (represents : Represents m t)
include represents

theorem not_blocked {path : FilePath String} (ran : t.mkdirs [] path.parent = .ok made)
    (free : t.node? path.full ≠ some .directory) : ¬Blocked m path.full := by
  rintro (directory | ⟨above,accounted,inside,apart⟩)
  · exact free (isDirectory_there represents directory)
  · obtain ⟨data,found⟩ := accounted_there represents accounted
    have parent : made.node? path.parent = some .directory := (FileTree.mkdirs_made [] path.parent ran rfl).1
    have kept := FileTree.mkdirs_keeps ran found
    obtain ⟨more,whole⟩ := (List.prefix_concat_iff.mp inside).resolve_left apart
    have directory : made.node? above = some .directory := by
      by_cases last : more = []
      · rw [last,List.append_nil] at whole
        rw [whole]
        exact parent
      · exact made.node?_above above more last (by rw [whole]; exact parent)
    rw [directory] at kept
    cases kept

-- What an accepted put that keeps the files apart has written.
theorem putObject_written (body : Body) (contentType : String) (metadata : Option (OrderedDict String String)) (now : Moment)
    (apart : PutApart m bucket key) :
    (∃ error, putObject bucket key body contentType metadata now t = (.error error,t)) ∨
    ∃ made described, putObject bucket key body contentType metadata now t = (.ok (eTag (coerceBody body) now),described) ∧
      Plain bucket key ∧ t.mkdirs [] (objectFile bucket (parts key)).parent = .ok made ∧
        ∀ other, described.node? other =
          if other = metadataAt bucket key then some (.file (metadataText contentType (metadata.getD .empty) now))
          else if other = objectAt bucket key then some (.file (coerceBody body)) else made.node? other := by
  rcases putObject_cases bucket key body contentType metadata now t with rejected | ⟨path,made,accepted,ran,free,outcome⟩
  · exact .inl rejected
  · obtain ⟨⟨named,canonical,object⟩,unheld⟩ := (apart path accepted).resolve_left (not_blocked represents ran free)
    cases (objectPath_file accepted).1
    rcases outcome with ⟨described,put,nodes⟩ | taken
    · exact .inr ⟨made,described,put,⟨accepted,named,canonical,object⟩,ran,nodes⟩
    · rcases represents.directories _ taken with root | holds | ⟨other,_,short⟩
      · exact absurd root (FilePath.full_ne _)
      · exact absurd holds unheld
      · obtain ⟨front,name,_,file⟩ := objectFile_named bucket (parts key) named
        rw [file,metadataPath_full] at short
        simp at short

omit represents in
theorem accounted_grows {m next : ObjectMap} (keys : ∀ entry ∈ m.objects.keys, entry ∈ next.objects.keys)
    (notified : ∀ bucket ∈ m.notified, bucket ∈ next.notified) (accounted : Accounted m path) : Accounted next path := by
  rcases accounted with ⟨bucket,key,member,place⟩ | ⟨bucket,member,same⟩
  · exact .inl ⟨bucket,key,keys _ member,place⟩
  · exact .inr ⟨bucket,notified _ member,same⟩

omit represents in
theorem isDirectory_grows {m next : ObjectMap} (keys : ∀ entry ∈ m.objects.keys, entry ∈ next.objects.keys)
    (notified : ∀ bucket ∈ m.notified, bucket ∈ next.notified) (directory : IsDirectory m path) : IsDirectory next path := by
  rcases directory with ⟨bucket,key,member,place⟩ | ⟨bucket,member,same⟩
  · exact .inl ⟨bucket,key,keys _ member,place⟩
  · exact .inr ⟨bucket,notified _ member,same⟩

theorem put_represents {made described : StorageRoot} (o : StoredObject) (plain : Plain bucket key)
    (ran : t.mkdirs [] (objectFile bucket (parts key)).parent = .ok made)
    (nodes : ∀ other, described.node? other =
      if other = metadataAt bucket key then some (.file (metadataText o.contentType o.metadata now))
      else if other = objectAt bucket key then some (.file o.body) else made.node? other) :
    Represents {m with objects := m.objects.set (bucket,key) o} described := by
  have keys : ∀ entry ∈ m.objects.keys, entry ∈ (m.objects.set (bucket,key) o).keys := fun entry member =>
    (OrderedDict.mem_keys_set _ _ _ _).mpr (.inr member)
  have here : (bucket,key) ∈ (m.objects.set (bucket,key) o).keys := (OrderedDict.mem_keys_set _ _ _ _).mpr (.inl rfl)
  have kept : ∀ other node, other ≠ metadataAt bucket key → other ≠ objectAt bucket key → t.node? other = some node →
      described.node? other = some node := by
    intro other node first second found
    rw [nodes,if_neg first,if_neg second]
    exact FileTree.mkdirs_keeps ran found
  refine ⟨?_,?_,?_,?_,?_,?_⟩
  · intro other name member
    rcases (OrderedDict.mem_keys_set _ _ _ _).mp member with same | old
    · cases same
      exact plain
    · exact represents.plain other name old
  · intro other name p stored
    rw [OrderedDict.get?_set] at stored
    split at stored
    · rename_i same
      cases same
      cases stored
      rw [nodes,if_neg (apart_paths plain bucket key),if_pos rfl]
    · rename_i different
      have old := represents.plain other name ((OrderedDict.mem_keys _ _).mpr ⟨p,stored⟩)
      exact kept _ _ (apart_paths old bucket key) (paths_differ old plain different).1 (represents.body other name p stored)
  · intro other name p stored
    rw [OrderedDict.get?_set] at stored
    split at stored
    · rename_i same
      cases same
      cases stored
      exact ⟨now,by rw [nodes,if_pos rfl]⟩
    · rename_i different
      have old := represents.plain other name ((OrderedDict.mem_keys _ _).mpr ⟨p,stored⟩)
      obtain ⟨then',found⟩ := represents.described other name p stored
      exact ⟨then',kept _ _ (paths_differ old plain different).2 (apart_paths plain other name).symm found⟩
  · intro other member
    obtain ⟨data,found⟩ := represents.configured other member
    have apart : [other,notificationsFile] ≠ metadataAt bucket key := notifications_apart other bucket key
    by_cases own : [other,notificationsFile] = objectAt bucket key
    · exact ⟨o.body,by rw [nodes,if_neg apart,if_pos own]⟩
    · exact ⟨data,kept _ _ apart own found⟩
  · intro path data found
    rw [nodes] at found
    split at found
    · exact .inl ⟨bucket,key,here,.inr ‹_›⟩
    · split at found
      · exact .inl ⟨bucket,key,here,.inl ‹_›⟩
      · exact accounted_grows keys (fun _ member => member) (represents.files path data (FileTree.mkdirs_file ran found))
  · intro path found
    rw [nodes] at found
    split at found
    · cases found
    · split at found
      · cases found
      · by_cases inside : path <+: (objectFile bucket (parts key)).parent
        · exact .inr (.inl ⟨bucket,key,here,parent_short inside⟩)
        · refine (represents.directories path (FileTree.mkdirs_directory ran found inside)).imp_right ?_
          exact isDirectory_grows keys fun _ member => member

end Put

theorem configuration_cases (bucket : String) (configuration : Json) (t : StorageRoot) :
    (∃ error, putBucketNotificationConfiguration bucket configuration t = (.error error,t)) ∨
    ∃ made written, putBucketNotificationConfiguration bucket configuration t = (.ok (),written) ∧
      bucketRoot bucket = .ok bucket ∧ t.mkdirs [] [bucket] = .ok made ∧ ∀ other, written.node? other =
        if other = [bucket,notificationsFile] then some (.file (Json.encodeUtf8 (Json.dumps configuration))) else made.node? other := by
  unfold putBucketNotificationConfiguration
  cases rooted : bucketRoot bucket with
  | error e => exact .inl ⟨e,rfl⟩
  | ok root =>
    cases bucketRoot_same rooted
    simp only
    split
    · exact .inl ⟨_,rfl⟩
    · cases ran : t.mkdirs [] [bucket] with
      | error e => exact .inl ⟨_,rfl⟩
      | ok made =>
        have parent : made.node? [bucket] = some .directory := (FileTree.mkdirs_made [] [bucket] ran rfl).1
        by_cases there : made.node? [bucket,notificationsFile] = some .directory
        · obtain ⟨rfl,_⟩ := FileTree.mkdirs_taken (p := ⟨[bucket],notificationsFile⟩) ran there
          simp only [made.writeFile_taken ⟨[bucket],notificationsFile⟩ _ parent there]
          exact .inl ⟨_,rfl⟩
        · obtain ⟨written,wrote⟩ := made.writeFile_works ⟨[bucket],notificationsFile⟩
            (Json.encodeUtf8 (Json.dumps configuration)) parent there
          simp only [wrote]
          exact .inr ⟨made,written,rfl,trivial,rfl,(FileTree.writeFile_written wrote).2.2⟩

theorem configured_represents {m : ObjectMap} {t made written : StorageRoot} (represents : Represents m t)
    (free : (bucket,notificationsFile) ∉ m.objects.keys) (ran : t.mkdirs [] [bucket] = .ok made)
    (nodes : ∀ other, written.node? other = if other = [bucket,notificationsFile] then some (.file data) else made.node? other) :
    Represents {m with notified := bucket :: m.notified} written := by
  have kept : ∀ other node, other ≠ [bucket,notificationsFile] → t.node? other = some node → written.node? other = some node := by
    intro other node apart found
    rw [nodes,if_neg apart]
    exact FileTree.mkdirs_keeps ran found
  have grown : ∀ other ∈ m.notified, other ∈ bucket :: m.notified := fun other member => List.mem_cons_of_mem _ member
  refine ⟨represents.plain,?_,?_,?_,?_,?_⟩
  · intro other name o stored
    refine kept _ _ ?_ (represents.body other name o stored)
    intro same
    have member := (OrderedDict.mem_keys _ _).mpr ⟨o,stored⟩
    rw [objectAt_path] at same
    obtain ⟨rfl,below⟩ := List.cons.inj same
    have named : name = notificationsFile := by
      rw [← (represents.plain other name member).canonical,below]
      rfl
    exact free (named ▸ member)
  · intro other name o stored
    obtain ⟨now,found⟩ := represents.described other name o stored
    exact ⟨now,kept _ _ (notifications_apart bucket other name).symm found⟩
  · intro other member
    by_cases same : [other,notificationsFile] = [bucket,notificationsFile]
    · exact ⟨data,by rw [nodes,if_pos same]⟩
    · rcases List.mem_cons.mp member with rfl | old
      · exact absurd rfl same
      · obtain ⟨before,found⟩ := represents.configured other old
        exact ⟨before,kept _ _ same found⟩
  · intro path content found
    rw [nodes] at found
    split at found
    · rename_i here
      exact .inr ⟨bucket,List.mem_cons_self,here⟩
    · exact accounted_grows (m := m) (fun _ member => member) grown (represents.files path content (FileTree.mkdirs_file ran found))
  · intro path found
    rw [nodes] at found
    split at found
    · cases found
    · by_cases inside : path <+: [bucket]
      · rcases List.prefix_concat_iff.mp (show path <+: [] ++ [bucket] from inside) with whole | root
        · exact .inr (.inr ⟨bucket,List.mem_cons_self,whole⟩)
        · exact .inl (List.prefix_nil.mp root)
      · refine (represents.directories path (FileTree.mkdirs_directory ran found inside)).imp_right ?_
        exact isDirectory_grows (m := m) (fun _ member => member) grown

-- What a file below a bucket is listed as.
def summary (wanted : List Char) (file : List String × List UInt8) : Option ObjectSummary :=
  if isMetadataName (file.1.getLastD "") then none
  else if wanted ≠ [] ∧ ¬wanted <+: (Text.join '/' file.1).toList then none
  else some ⟨Text.join '/' file.1,file.2.length⟩

theorem collect_all (wanted : List Char) (maxKeys : Option Int) (unlimited : maxKeys = none ∨ maxKeys = some 0)
    (contents : List ObjectSummary) (files : List (List String × List UInt8)) :
    collect wanted maxKeys contents files = contents ++ files.filterMap (summary wanted) := by
  induction files generalizing contents with
  | nil => simp [collect]
  | cons file rest ih =>
    obtain ⟨path,data⟩ := file
    rw [collect,List.filterMap_cons,summary]
    split
    · exact ih contents
    · simp only
      split
      · exact ih contents
      · have longer := ih (contents ++ [⟨Text.join '/' path,data.length⟩])
        rw [List.append_assoc,List.singleton_append] at longer
        rcases unlimited with rfl | rfl
        · exact longer
        · simp only [ne_eq,not_true_eq_false,false_and,if_false]
          exact longer

theorem collect_first (wanted : List Char) (most : Int) (limited : most ≠ 0) (contents : List ObjectSummary)
    (files : List (List String × List UInt8)) (room : contents.length < (max 1 most).toNat) :
    collect wanted (some most) contents files = (contents ++ files.filterMap (summary wanted)).take (max 1 most).toNat := by
  induction files generalizing contents with
  | nil => rw [collect,List.filterMap_nil,List.append_nil,List.take_of_length_le room.le]
  | cons file rest ih =>
    obtain ⟨path,data⟩ := file
    rw [collect,List.filterMap_cons,summary]
    split
    · exact ih contents room
    · simp only
      split
      · exact ih contents room
      · simp only
        split
        · rename_i full
          have reached : (contents ++ [(⟨Text.join '/' path,data.length⟩ : ObjectSummary)]).length = (max 1 most).toNat := by
            have enough := full.2
            simp only [List.length_append,List.length_singleton] at enough ⊢
            omega
          have whole := List.append_cons contents (⟨Text.join '/' path,data.length⟩ : ObjectSummary) (rest.filterMap (summary wanted))
          rw [← reached,whole,List.take_left]
        · rename_i short
          have more := ih (contents ++ [⟨Text.join '/' path,data.length⟩]) (by
            simp only [List.length_append,List.length_singleton,not_and,not_le] at short ⊢
            have below := short limited
            omega)
          rw [more,List.append_assoc]
          rfl

theorem collect_firstKeys (wanted : List Char) (maxKeys : Option Int) (files : List (List String × List UInt8)) :
    collect wanted maxKeys [] files = firstKeys maxKeys (files.filterMap (summary wanted)) := by
  cases maxKeys with
  | none => exact collect_all wanted none (.inl rfl) [] files
  | some most =>
    rw [firstKeys]
    split
    · rename_i unlimited
      rw [unlimited]
      exact collect_all wanted (some 0) (.inr rfl) [] files
    · rename_i limited
      exact collect_first wanted most limited [] files (by simp only [List.length_nil]; omega)

theorem summary_some (wanted : List Char) (file : List String × List UInt8) (s : ObjectSummary) :
    summary wanted file = some s ↔ isMetadataName (file.1.getLastD "") = false ∧ wanted <+: (Text.join '/' file.1).toList ∧
      s = ⟨Text.join '/' file.1,file.2.length⟩ := by
  unfold summary
  cases isMetadataName (file.1.getLastD "") with
  | true => simp
  | false =>
    by_cases inside : wanted <+: (Text.join '/' file.1).toList
    · simp [inside,eq_comm]
    · have nonempty : wanted ≠ [] := fun none => inside (none ▸ List.nil_prefix)
      simp [inside,nonempty]

theorem plain_last (plain : Plain bucket key) : isMetadataName ((parts key).getLastD "") = false := by
  obtain ⟨front,name,split,file⟩ := objectFile_named bucket (parts key) plain.named
  have object := plain.object
  rw [file] at object
  rw [split,List.getLastD_concat]
  exact object

theorem summaries_unique (m : ObjectMap) (bucket : String) (wanted : List Char) : (summaries m bucket wanted).Nodup := by
  have distinct : m.objects.entries.Pairwise fun a b => a.1 ≠ b.1 := List.pairwise_map.mp m.objects.unique
  refine List.pairwise_map.mpr ((distinct.filter _).imp_of_mem ?_)
  intro a b first second apart same
  have here : a.1.1 = bucket := (of_decide_eq_true (List.mem_filter.mp first).2).1
  have there : b.1.1 = bucket := (of_decide_eq_true (List.mem_filter.mp second).2).1
  exact apart (Prod.ext (here.trans there.symm) (congrArg ObjectSummary.key same))

theorem mem_summaries (m : ObjectMap) (bucket : String) (wanted : List Char) (s : ObjectSummary) :
    s ∈ summaries m bucket wanted ↔ ∃ key o, m.objects.get? (bucket,key) = some o ∧ wanted <+: key.toList ∧
      s = ⟨key,o.body.length⟩ := by
  simp only [summaries,List.mem_map,List.mem_filter,decide_eq_true_eq,← OrderedDict.get?_entry]
  constructor
  · rintro ⟨⟨⟨other,key⟩,o⟩,⟨member,rfl,inside⟩,rfl⟩
    exact ⟨key,o,member,inside,rfl⟩
  · rintro ⟨key,o,member,inside,rfl⟩
    exact ⟨_,⟨member,rfl,inside⟩,rfl⟩

section Listing
variable {m : ObjectMap} {t : StorageRoot} (represents : Represents m t)
include represents

theorem object_listed (wanted : List Char) (stored : m.objects.get? (bucket,key) = some o) (inside : wanted <+: key.toList) :
    (parts key,o.body) ∈ t.files [bucket] ∧ summary wanted (parts key,o.body) = some ⟨key,o.body.length⟩ := by
  have plain := represents.plain bucket key ((OrderedDict.mem_keys _ _).mpr ⟨o,stored⟩)
  have body := represents.body bucket key o stored
  constructor
  · rw [objectAt_path,FileTree.node?_cons] at body
    exact (t.mem_files [bucket] (parts key) o.body).mpr body
  · rw [summary_some,plain.canonical]
    exact ⟨plain_last plain,inside,rfl⟩

theorem listed_object (wanted : List Char)
    (apart : bucket ∈ m.notified → (bucket,notificationsFile) ∈ m.objects.keys ∨ ¬wanted <+: notificationsFile.toList)
    (found : (below,data) ∈ t.files [bucket]) (listed : summary wanted (below,data) = some s) :
    ∃ key o, m.objects.get? (bucket,key) = some o ∧ wanted <+: key.toList ∧ below = parts key ∧ s = ⟨key,o.body.length⟩ := by
  rw [FileTree.mem_files,List.singleton_append,← FileTree.node?_cons] at found
  obtain ⟨object,inside,same⟩ := (summary_some _ _ _).mp listed
  have named : ∀ key o, m.objects.get? (bucket,key) = some o → below = parts key →
      ∃ key o, m.objects.get? (bucket,key) = some o ∧ wanted <+: key.toList ∧ below = parts key ∧ s = ⟨key,o.body.length⟩ := by
    intro key o stored place
    have canonical := (represents.plain bucket key ((OrderedDict.mem_keys _ _).mpr ⟨o,stored⟩)).canonical
    have body := represents.body bucket key o stored
    rw [objectAt_path,← place,found] at body
    cases body
    rw [place,canonical] at inside same
    exact ⟨key,o,stored,inside,place,same⟩
  rcases represents.files _ data found with ⟨other,key,member,here | own⟩ | ⟨other,member,here⟩
  · rw [objectAt_path] at here
    obtain ⟨rfl,place⟩ := List.cons.inj here
    obtain ⟨o,stored⟩ := (OrderedDict.mem_keys _ _).mp member
    exact named key o stored place
  · obtain ⟨front,name,_,file⟩ := objectFile_named other (parts key) (represents.plain other key member).named
    rw [metadataAt,file,metadataPath_full,List.cons_append] at own
    obtain ⟨_,place⟩ := List.cons.inj own
    have last : isMetadataName (below.getLastD "") = true := by
      rw [place,List.getLastD_concat]
      exact metadataPath_named ⟨front,name⟩
    rw [last] at object
    cases object
  · obtain ⟨rfl,place⟩ := List.cons.inj here
    rcases apart member with stored | outside
    · obtain ⟨o,stored⟩ := (OrderedDict.mem_keys _ _).mp stored
      exact named notificationsFile o stored (by rw [place]; rfl)
    · rw [place] at inside
      exact absurd inside outside

theorem list_exact (apart : Apart m (.listObjectsV2 bucket wanted maxKeys)) (rooted : bucketRoot bucket = .ok bucket) :
    ∃ all, all.Perm (summaries m bucket (normalizeObjectPrefix wanted)) ∧
      listObjectsV2 bucket wanted maxKeys t = .ok (firstKeys maxKeys all) := by
  rw [listObjectsV2,rooted]
  by_cases there : t.node? [bucket] = some .directory
  · refine ⟨(t.listing (· ≤ ·) [bucket]).filterMap (summary (normalizeObjectPrefix wanted)),?_,?_⟩
    · refine ((t.listing_perm (· ≤ ·) [bucket]).filterMap _).trans ?_
      refine (List.perm_ext_iff_of_nodup ?_ (summaries_unique m bucket _)).mpr fun s => ?_
      · have distinct : (t.files [bucket]).Pairwise fun a b => a.1 ≠ b.1 := List.pairwise_map.mp (t.files_unique [bucket])
        refine List.pairwise_filterMap.mpr (distinct.imp_of_mem ?_)
        rintro ⟨below,data⟩ ⟨other,content⟩ first second different s listed s' listed' same
        obtain ⟨key,o,_,_,place,made⟩ := listed_object represents _ apart first listed
        obtain ⟨key',o',_,_,place',made'⟩ := listed_object represents _ apart second listed'
        rw [made,made'] at same
        cases congrArg ObjectSummary.key same
        exact different (place.trans place'.symm)
      · rw [mem_summaries,List.mem_filterMap]
        constructor
        · rintro ⟨⟨below,data⟩,found,listed⟩
          obtain ⟨key,o,stored,inside,_,made⟩ := listed_object represents _ apart found listed
          exact ⟨key,o,stored,inside,made⟩
        · rintro ⟨key,o,stored,inside,rfl⟩
          obtain ⟨found,listed⟩ := object_listed represents _ stored inside
          exact ⟨_,found,listed⟩
    · simp only [Except.map,there,collect_firstKeys]
  · refine ⟨[],?_,?_⟩
    · have none : summaries m bucket (normalizeObjectPrefix wanted) = [] := by
        rw [List.eq_nil_iff_forall_not_mem]
        intro s member
        obtain ⟨key,o,stored,_,_⟩ := (mem_summaries _ _ _ _).mp member
        have body := represents.body bucket key o stored
        have named := (represents.plain bucket key ((OrderedDict.mem_keys _ _).mpr ⟨o,stored⟩)).named
        rw [objectAt_path] at body
        exact there (t.node?_above [bucket] (parts key) named body)
      rw [none]
    · have nothing : firstKeys maxKeys [] = [] := by
        cases maxKeys with
        | none => rfl
        | some most => simp [firstKeys]
      rw [nothing]
      simp only [Except.map]

end Listing

end LocalObjectStorage
end RiskPulse
