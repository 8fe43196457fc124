import Mathlib.Data.List.Induction
import RiskPulse.ModelRegistry

namespace RiskPulse

inductive RegistryOperation where
  | registerModel (args : Registration) (artifact : ArtifactOutcome)
  | promoteModel (name version : String) (target : ModelStage) (promotedBy : String)
  | rollbackModel (name promotedBy : String)
  | createAbTest (testName modelName versionA versionB : String) (trafficSplit : JsonValue) (stickyAssignment : Bool)
  | endAbTest (testName : String)

-- A call with its readings of the clock and what comes of its save.
structure RegistryAction where
  operation : RegistryOperation
  now : Nat → String
  saving : SaveOutcome

def Attempt.forget : Attempt α → Attempt Unit
  | .leaves registry result => .leaves registry (result.map fun _ => ())
  | .saves registry _ => .saves registry ()

def Attempt.registry : Attempt α → Registry
  | .leaves registry _ => registry
  | .saves registry _ => registry

namespace ModelRegistry

def attempt (c : ModelRegistry) (now : Nat → String) (r : Registry) : RegistryOperation → Attempt Unit
  | .registerModel args artifact => (c.registerModel args artifact now r).forget
  | .promoteModel name version target promotedBy => (promoteModel name version target promotedBy now r).forget
  | .rollbackModel name promotedBy => (rollbackModel name promotedBy now r).forget
  | .createAbTest testName modelName versionA versionB trafficSplit stickyAssignment =>
    (createAbTest testName modelName versionA versionB trafficSplit stickyAssignment now r).forget
  | .endAbTest testName => (endAbTest testName now r).forget

def perform (c : ModelRegistry) (s : RegistryState) (action : RegistryAction) : Except ModelRegistryError Unit × RegistryState :=
  conclude action.saving s (c.attempt action.now s.registry action.operation)

def step (c : ModelRegistry) (s : RegistryState) (action : RegistryAction) : RegistryState := (c.perform s action).2

def opened : RegistryState := ⟨.empty,none⟩

def reached (c : ModelRegistry) (actions : List RegistryAction) : RegistryState := Runs.run c.step opened actions

-- The version is in production.
def Serves (r : Registry) (name version : String) : Prop := ∃ m, r.metadata name version = some m ∧ m.stage = .production

-- The versions promoted to production, in order.
def served (r : Registry) (name : String) : List String :=
  (r.promotionHistory.filter fun p => decide (p.name = name ∧ p.toStage = .production)).map Promotion.version

theorem conclude_registry (saving : SaveOutcome) (s : RegistryState) (a : Attempt α) : (conclude saving s a).2.registry = a.registry := by
  cases a with
  | leaves registry result => rfl
  | saves registry result => cases saving <;> rfl

theorem forget_registry (a : Attempt α) : a.forget.registry = a.registry := by cases a <;> rfl

theorem step_registry (c : ModelRegistry) (s : RegistryState) (action : RegistryAction) :
    (c.step s action).registry = (c.attempt action.now s.registry action.operation).registry := conclude_registry _ _ _

theorem reached_next (c : ModelRegistry) (earlier : List RegistryAction) (action : RegistryAction) :
    c.reached (earlier ++ [action]) = c.step (c.reached earlier) action := Runs.run_append _ _ _ _

-- What a change leaves of a version besides its stage, status and time of update.
def Kept (before after : ModelMetadata) : Prop :=
  after = {before with stage := after.stage, status := after.status, updatedAt := after.updatedAt}

theorem Kept.own (kept : Kept before after) : after.name = before.name ∧ after.version = before.version := by
  rw [kept]
  exact ⟨rfl,rfl⟩

-- Everything an operation can do to the versions and the promotions: leave them as they
-- are, add a version, or move one to a stage; when it is moved to production, no other
-- one stays there.
inductive Change (c : ModelRegistry) (r after : Registry) : Prop where
  | frame (same : ∀ name version, after.metadata name version = r.metadata name version)
      (history : after.promotionHistory = r.promotionHistory)
  | registered (args : String × String) (m : ModelMetadata) (parsed : ∃ v, c.parse args.2 = .ok v)
      (own : m.name = args.1 ∧ m.version = args.2) (stage : m.stage = .development)
      (becomes : ∀ name version, after.metadata name version = if (name,version) = args then some m else r.metadata name version)
      (new : r.metadata args.1 args.2 = none) (history : after.promotionHistory = r.promotionHistory)
  | moved (p : Promotion) (found : ModelMetadata) (was : r.metadata p.name p.version = some found)
      (others : ∀ name version, (name,version) ≠ (p.name,p.version) → ∀ m, r.metadata name version = some m →
        ∃ m', after.metadata name version = some m' ∧ Kept m m' ∧ (m'.stage = .production → m.stage = .production))
      (none : ∀ name version, r.metadata name version = none → after.metadata name version = none)
      (becomes : ∃ m', after.metadata p.name p.version = some m' ∧ Kept found m' ∧ m'.stage = p.toStage)
      (alone : p.toStage = .production → ∀ version, Serves after p.name version → version = p.version)
      (history : after.promotionHistory = r.promotionHistory ++ [p])

structure Sound (c : ModelRegistry) (r : Registry) : Prop where
  single : ∀ name v w, Serves r name v → Serves r name w → v = w
  stored : ∀ name version m, r.metadata name version = some m → m.name = name ∧ m.version = version ∧ ∃ v, c.parse version = .ok v

theorem metadata_set (r : Registry) (models : OrderedDict String (OrderedDict String ModelMetadata)) (name : String)
    (versions : OrderedDict String ModelMetadata) (other version : String) :
    Registry.metadata {r with models := models.set name versions} other version =
      if other = name then versions.get? version else (models.get? other).bind fun versions => versions.get? version := by
  simp only [Registry.metadata,OrderedDict.get?_set]
  split <;> rfl

theorem promoted_metadata (r : Registry) (name : String) (versions : OrderedDict String ModelMetadata) (promotion : Promotion)
    (other version : String) :
    (r.promoted name versions promotion).metadata other version =
      if other = name then versions.get? version else r.metadata other version :=
  metadata_set r r.models name versions other version

theorem metadata_found (found : r.models.get? name = some versions) (version : String) :
    Registry.metadata r name version = versions.get? version := by
  rw [Registry.metadata,found]
  rfl

-- A version that is empty text does not parse.
theorem parse_empty (c : ModelRegistry) : c.parse "" ≠ .ok v := by
  intro parsed
  have split : (ModelVersion.strip "".toList).splitOn '.' = [[]] := by decide
  rw [parse,split] at parsed
  cases parsed

theorem named_metadata (name : String) (r : Registry) (other version : String) :
    (named name r).metadata other version = r.metadata other version := by
  unfold named
  split
  · rfl
  · rename_i new
    rw [metadata_set]
    split
    · rename_i own
      rw [own,Registry.metadata,(OrderedDict.get?_eq_none _ _).mpr new]
      rfl
    · rfl

theorem named_history (name : String) (r : Registry) : (named name r).promotionHistory = r.promotionHistory := by
  unfold named
  split <;> rfl

theorem named_versions (name : String) (r : Registry) (version : String) :
    ((named name r).versions name).get? version = r.metadata name version := by
  rw [← named_metadata name r,Registry.metadata,Registry.versions,OrderedDict.getD]
  cases (named name r).models.get? name <;> rfl

theorem registered_metadata (args : Registration) (m : ModelMetadata) (r : Registry) (name version : String) :
    ((named args.name r).registered args.name args.version m).metadata name version =
      if (name,version) = (args.name,args.version) then some m else r.metadata name version := by
  rw [Registry.registered,metadata_set,OrderedDict.get?_set,named_versions]
  by_cases own : name = args.name
  · subst own
    by_cases this : version = args.version <;> simp [this]
  · simp only [own,if_false,Prod.mk.injEq,false_and]
    exact named_metadata args.name r name version

theorem registerModel_change (c : ModelRegistry) (args : Registration) (artifact : ArtifactOutcome) (now : Nat → String) (r : Registry) :
    Change c r (c.registerModel args artifact now r).registry := by
  have opened : Change c r (named args.name r) := .frame (named_metadata args.name r) (named_history args.name r)
  unfold registerModel
  cases parsed : c.parse args.version with
  | error e => exact .frame (fun _ _ => rfl) rfl
  | ok v =>
    simp only
    split
    · exact opened
    · rename_i unused
      have new := (OrderedDict.get?_eq_none _ _).mpr unused
      rw [named_versions] at new
      split
      · exact opened
      · exact opened
      · rename_i artifactHash _ _
        exact .registered (args.name,args.version) (newVersion args artifactHash now) ⟨v,parsed⟩ ⟨rfl,rfl⟩ rfl
          (registered_metadata args _ r) new (named_history args.name r)

theorem archiveOthers_lookup (version : String) (now : Nat → String) (n : Nat) (entries : List (String × ModelMetadata)) (other : String) :
    ∃ t, OrderedDict.lookupEntry other (archiveOthers version now n entries) =
      (OrderedDict.lookupEntry other entries).map fun data =>
        if data.stage = .production ∧ other ≠ version then {data with stage := .archived, updatedAt := t} else data := by
  induction entries generalizing n with
  | nil => exact ⟨"",rfl⟩
  | cons head rest ih =>
    obtain ⟨ver,data⟩ := head
    rw [archiveOthers]
    by_cases same : ver = other
    · subst same
      refine ⟨now n,?_⟩
      split
      · rename_i others
        simp [OrderedDict.lookupEntry,others]
      · rename_i kept
        simp [OrderedDict.lookupEntry,kept]
    · split
      · obtain ⟨t,later⟩ := ih (n + 1)
        exact ⟨t,by simpa [OrderedDict.lookupEntry,same] using later⟩
      · obtain ⟨t,later⟩ := ih n
        exact ⟨t,by simpa [OrderedDict.lookupEntry,same] using later⟩

theorem archived_get? (version : String) (now : Nat → String) (versions : OrderedDict String ModelMetadata) (other : String) :
    ∃ t, (archived version now versions).get? other = (versions.get? other).map fun data =>
      if data.stage = .production ∧ other ≠ version then {data with stage := .archived, updatedAt := t} else data :=
  archiveOthers_lookup version now 0 versions.entries other

-- The versions of a name while one of them is promoted.
theorem promoted_others (target : ModelStage) (version : String) (now : Nat → String) (versions : OrderedDict String ModelMetadata)
    (other : String) (found : versions.get? other = some m) :
    ∃ m', (if target = .production then archived version now versions else versions).get? other = some m' ∧ Kept m m' ∧
      (m'.stage = .production → m.stage = .production ∧ (target = .production → other = version)) := by
  split
  · obtain ⟨t,becomes⟩ := archived_get? version now versions other
    rw [found,Option.map_some] at becomes
    refine ⟨_,becomes,?_,?_⟩
    · split <;> rfl
    · intro stays
      split at stays
      · cases stays
      · rename_i kept
        exact ⟨stays,fun _ => not_not.mp fun differs => kept ⟨stays,differs⟩⟩
  · rename_i elsewhere
    exact ⟨m,found,rfl,fun stays => ⟨stays,fun same => absurd same elsewhere⟩⟩

theorem promoted_none (target : ModelStage) (version : String) (now : Nat → String) (versions : OrderedDict String ModelMetadata)
    (other : String) (absent : versions.get? other = none) :
    (if target = .production then archived version now versions else versions).get? other = none := by
  split
  · obtain ⟨t,becomes⟩ := archived_get? version now versions other
    rw [becomes,absent]
    rfl
  · exact absent

-- A version of the name goes to a stage, and the others have kept their stages or left
-- production.
theorem promoted_change (c : ModelRegistry) (p : Promotion) (others : OrderedDict String ModelMetadata)
    (listed : r.models.get? p.name = some versions) (found : versions.get? p.version = some m) (kept : Kept m entry)
    (stage : entry.stage = p.toStage)
    (rest : ∀ version data, version ≠ p.version → versions.get? version = some data → ∃ m', others.get? version = some m' ∧
      Kept data m' ∧ (m'.stage = .production → data.stage = .production ∧ p.toStage ≠ .production))
    (none : ∀ version, versions.get? version = none → others.get? version = none) :
    Change c r (r.promoted p.name (others.set p.version entry) p) := by
  have elsewhere : ∀ name version, (name,version) ≠ (p.name,p.version) →
      (r.promoted p.name (others.set p.version entry) p).metadata name version =
        if name = p.name then others.get? version else r.metadata name version := by
    intro name version differs
    rw [promoted_metadata]
    by_cases own : name = p.name
    · have apart : version ≠ p.version := fun same => differs (by rw [own,same])
      rw [if_pos own,if_pos own,OrderedDict.get?_set,if_neg apart]
    · rw [if_neg own,if_neg own]
  refine .moved p m ?_ ?_ ?_ ?_ ?_ rfl
  · rw [metadata_found listed,found]
  · intro name version differs data held
    rw [elsewhere name version differs]
    split
    · rename_i own
      have apart : version ≠ p.version := fun same => differs (by rw [own,same])
      rw [own,metadata_found listed] at held
      obtain ⟨m',becomes,keeps,stays⟩ := rest version data apart held
      exact ⟨m',becomes,keeps,fun serving => (stays serving).1⟩
    · exact ⟨data,held,rfl,id⟩
  · intro name version absent
    have differs : (name,version) ≠ (p.name,p.version) := by
      intro same
      obtain ⟨rfl,rfl⟩ := Prod.mk.inj same
      rw [metadata_found listed,found] at absent
      cases absent
    rw [elsewhere name version differs]
    split
    · rename_i own
      rw [own,metadata_found listed] at absent
      exact none version absent
    · exact absent
  · refine ⟨entry,?_,kept,stage⟩
    rw [promoted_metadata,if_pos rfl,OrderedDict.get?_set,if_pos rfl]
  · rintro target version ⟨m',held,serving⟩
    by_contra apart
    have differs : (p.name,version) ≠ (p.name,p.version) := fun same => apart (Prod.mk.inj same).2
    rw [elsewhere p.name version differs,if_pos rfl] at held
    cases before : versions.get? version with
    | none =>
      rw [none version before] at held
      cases held
    | some data =>
      obtain ⟨after,becomes,_,stays⟩ := rest version data apart before
      rw [becomes] at held
      cases held
      exact (stays serving).2 target

theorem promoteModel_change (c : ModelRegistry) (name version : String) (target : ModelStage) (promotedBy : String)
    (now : Nat → String) (r : Registry) : Change c r (promoteModel name version target promotedBy now r).registry := by
  unfold promoteModel
  cases listed : r.models.get? name with
  | none => exact .frame (fun _ _ => rfl) rfl
  | some versions =>
    simp only
    cases found : versions.get? version with
    | none => exact .frame (fun _ _ => rfl) rfl
    | some m =>
      refine promoted_change c ⟨name,version,m.stage,target,promotedBy,_,false⟩ _ listed found ?_ ?_ ?_ ?_
      · rfl
      · rfl
      · intro other data apart held
        obtain ⟨m',becomes,kept,stays⟩ := promoted_others target version now versions other held
        exact ⟨m',becomes,kept,fun serving => ⟨(stays serving).1,fun same => apart ((stays serving).2 same)⟩⟩
      · exact fun other absent => promoted_none target version now versions other absent

theorem currentProduction_exact (single : ∀ v w a b, versions.get? v = some a → a.stage = .production → versions.get? w = some b →
    b.stage = .production → v = w) (version : String) :
    currentProduction versions = some version ↔ ∃ m, versions.get? version = some m ∧ m.stage = .production := by
  have inside : ∀ entry, entry ∈ versions.entries.filter (fun entry => decide (entry.2.stage = .production)) ↔
      versions.get? entry.1 = some entry.2 ∧ entry.2.stage = .production := by
    intro entry
    rw [List.mem_filter,decide_eq_true_iff]
    exact and_congr_left fun _ => OrderedDict.get?_entry versions entry.1 entry.2
  rw [currentProduction,Option.map_eq_some_iff]
  constructor
  · intro given
    obtain ⟨entry,last,rfl⟩ := given
    exact ⟨entry.2,(inside entry).mp (List.mem_of_getLast? last)⟩
  · intro given
    obtain ⟨m,held,serving⟩ := given
    have member := (inside (version,m)).mpr ⟨held,serving⟩
    cases last : (versions.entries.filter fun entry => decide (entry.2.stage = .production)).getLast? with
    | none =>
      rw [List.getLast?_eq_none_iff.mp last] at member
      cases member
    | some entry =>
      obtain ⟨found,stage⟩ := (inside entry).mp (List.mem_of_getLast? last)
      exact ⟨entry,rfl,single entry.1 version entry.2 m found stage held serving⟩

theorem latestArchived_mem (versions : OrderedDict String ModelMetadata) (entry : String × ModelMetadata) :
    entry ∈ latestArchived versions ↔ versions.get? entry.1 = some entry.2 ∧ entry.2.stage = .archived := by
  rw [latestArchived,(List.perm_insertionSort _ _).mem_iff,archivedVersions,List.mem_filter,decide_eq_true_iff]
  exact and_congr_left fun _ => OrderedDict.get?_entry versions entry.1 entry.2

theorem archiveCurrent_get? (versions : OrderedDict String ModelMetadata) (current : Option String) (now : String) (version : String) :
    (archiveCurrent versions current now).get? version = (versions.get? version).map fun data =>
      if current = some version ∧ version ≠ "" then {data with stage := .archived, updatedAt := now} else data := by
  unfold archiveCurrent
  cases current with
  | none =>
    show versions.get? version = _
    cases versions.get? version <;> simp
  | some ver =>
    rw [Option.bind_some]
    cases held : versions.get? ver with
    | none =>
      cases other : versions.get? version with
      | none => simp [other]
      | some data =>
        have apart : ver ≠ version := by
          rintro rfl
          rw [held] at other
          cases other
        simp [other,apart]
    | some found =>
      simp only [Option.map_some]
      split
      · rename_i empty
        subst empty
        cases other : versions.get? version with
        | none => rfl
        | some data =>
          by_cases blank : version = "" <;> simp [blank,eq_comm]
      · rename_i filled
        rw [OrderedDict.get?_set]
        split
        · rename_i same
          subst same
          rw [held,Option.map_some,if_pos ⟨rfl,filled⟩]
        · rename_i apart
          cases other : versions.get? version with
          | none => rfl
          | some data =>
            have differs : ver ≠ version := fun same => apart same.symm
            simp [differs]

theorem rollbackModel_change (c : ModelRegistry) (name promotedBy : String) (now : Nat → String) (r : Registry) (sound : Sound c r) :
    Change c r (rollbackModel name promotedBy now r).registry := by
  unfold rollbackModel
  cases listed : r.models.get? name with
  | none => exact .frame (fun _ _ => rfl) rfl
  | some versions =>
    simp only
    cases latest : latestArchived versions with
    | nil => exact .frame (fun _ _ => rfl) rfl
    | cons entry others =>
      obtain ⟨version,m⟩ := entry
      have first : (version,m) ∈ latestArchived versions := by
        rw [latest]
        exact List.mem_cons_self
      obtain ⟨found,stage⟩ := (latestArchived_mem versions _).mp first
      have single : ∀ v w a b, versions.get? v = some a → a.stage = .production → versions.get? w = some b →
          b.stage = .production → v = w := by
        intro v w a b one serving other stays
        apply sound.single name
        · exact ⟨a,by rw [metadata_found listed,one],serving⟩
        · exact ⟨b,by rw [metadata_found listed,other],stays⟩
      refine promoted_change c ⟨name,version,.archived,.production,promotedBy,_,true⟩ _ listed found ?_ ?_ ?_ ?_
      · rfl
      · rfl
      · intro other data apart held
        rw [archiveCurrent_get?,held]
        refine ⟨_,rfl,?_,?_⟩
        · split <;> rfl
        · intro serving
          split at serving
          · cases serving
          · rename_i stays
            have current := (currentProduction_exact single other).mpr ⟨data,held,serving⟩
            refine absurd ⟨current,?_⟩ stays
            rintro rfl
            obtain ⟨_,_,v,parsed⟩ := sound.stored name "" data (by rw [metadata_found listed,held])
            exact parse_empty c parsed
      · intro other absent
        rw [archiveCurrent_get?,absent]
        rfl

theorem attempt_change (c : ModelRegistry) (now : Nat → String) (r : Registry) (operation : RegistryOperation) (sound : Sound c r) :
    Change c r (c.attempt now r operation).registry := by
  cases operation with
  | registerModel args artifact =>
    rw [attempt,forget_registry]
    exact registerModel_change c args artifact now r
  | promoteModel name version target promotedBy =>
    rw [attempt,forget_registry]
    exact promoteModel_change c name version target promotedBy now r
  | rollbackModel name promotedBy =>
    rw [attempt,forget_registry]
    exact rollbackModel_change c name promotedBy now r sound
  | createAbTest testName modelName versionA versionB trafficSplit stickyAssignment =>
    rw [attempt,forget_registry,createAbTest]
    repeat' split
    all_goals exact .frame (fun _ _ => rfl) rfl
  | endAbTest testName =>
    rw [attempt,forget_registry,endAbTest]
    split
    · exact .frame (fun _ _ => rfl) rfl
    · exact .frame (fun _ _ => rfl) rfl

theorem Change.kept (change : Change c r after) (held : r.metadata name version = some m) :
    ∃ m', after.metadata name version = some m' ∧ Kept m m' := by
  cases change with
  | frame same history => exact ⟨m,(same name version).trans held,rfl⟩
  | registered args new parsed own stage becomes absent history =>
    rw [becomes]
    split
    · rename_i this
      subst this
      rw [held] at absent
      cases absent
    · exact ⟨m,held,rfl⟩
  | moved p found was others none becomes alone history =>
    by_cases this : (name,version) = (p.name,p.version)
    · obtain ⟨rfl,rfl⟩ := Prod.mk.inj this
      rw [was] at held
      cases held
      obtain ⟨m',stored,kept,_⟩ := becomes
      exact ⟨m',stored,kept⟩
    · obtain ⟨m',stored,kept,_⟩ := others name version this m held
      exact ⟨m',stored,kept⟩

-- Where a version after a change comes from.
theorem Change.from (change : Change c r after) (held : after.metadata name version = some m) :
    (∃ before, r.metadata name version = some before ∧ Kept before m) ∨
      (m.name = name ∧ m.version = version ∧ (∃ v, c.parse version = .ok v) ∧ after.promotionHistory = r.promotionHistory) := by
  cases before : r.metadata name version with
  | some found =>
    obtain ⟨m',stored,kept⟩ := change.kept before
    rw [held] at stored
    cases stored
    exact .inl ⟨found,rfl,kept⟩
  | none =>
    right
    cases change with
    | frame same history =>
      rw [same,before] at held
      cases held
    | registered args new parsed own stage becomes absent history =>
      rw [becomes] at held
      split at held
      · rename_i this
        subst this
        cases held
        exact ⟨own.1,own.2,parsed,history⟩
      · rw [before] at held
        cases held
    | moved p found was others none becomes alone history =>
      rw [none name version before] at held
      cases held

-- What a change makes of the versions of a name in production: the one that is promoted
-- to it is the only one there, and else none comes to it.
theorem Change.serves (change : Change c r after) (name : String) :
    (∃ version, served after name = served r name ++ [version] ∧ ∀ other, Serves after name other ↔ other = version) ∨
      (served after name = served r name ∧ ∀ other, Serves after name other → Serves r name other) := by
  cases change with
  | frame same history =>
    refine .inr ⟨by rw [served,history]; rfl,?_⟩
    rintro other ⟨m,held,serving⟩
    exact ⟨m,by rw [← same,held],serving⟩
  | registered args new parsed own stage becomes absent history =>
    refine .inr ⟨by rw [served,history]; rfl,?_⟩
    rintro other ⟨m,held,serving⟩
    rw [becomes] at held
    split at held
    · cases held
      rw [stage] at serving
      cases serving
    · exact ⟨m,held,serving⟩
  | moved p found was others none becomes alone history =>
    have recorded : served after name =
        served r name ++ if p.name = name ∧ p.toStage = .production then [p.version] else [] := by
      rw [served,history,List.filter_append,List.map_append]
      by_cases own : p.name = name ∧ p.toStage = .production <;> simp [served,own]
    rw [recorded]
    by_cases own : p.name = name ∧ p.toStage = .production
    · obtain ⟨rfl,target⟩ := own
      refine .inl ⟨p.version,by rw [if_pos ⟨rfl,target⟩],fun other => ⟨alone target other,?_⟩⟩
      rintro rfl
      obtain ⟨m',stored,_,stage⟩ := becomes
      exact ⟨m',stored,stage.trans target⟩
    · refine .inr ⟨by rw [if_neg own,List.append_nil],?_⟩
      rintro other ⟨m,held,serving⟩
      by_cases this : (name,other) = (p.name,p.version)
      · obtain ⟨rfl,rfl⟩ := Prod.mk.inj this
        obtain ⟨m',stored,_,stage⟩ := becomes
        rw [held] at stored
        cases stored
        exact absurd ⟨rfl,stage.symm.trans serving⟩ own
      · cases before : r.metadata name other with
        | none =>
          rw [none name other before] at held
          cases held
        | some found₀ =>
          obtain ⟨m',stored,_,stays⟩ := others name other this found₀ before
          rw [held] at stored
          cases stored
          exact ⟨found₀,before,stays serving⟩

theorem Change.sound (change : Change c r after) (sound : Sound c r) : Sound c after where
  single := by
    intro name v w one other
    rcases change.serves name with ⟨version,_,exact⟩ | ⟨_,earlier⟩
    · rw [(exact v).mp one,(exact w).mp other]
    · exact sound.single name v w (earlier v one) (earlier w other)
  stored := by
    intro name version m held
    rcases change.from held with ⟨before,was,kept⟩ | ⟨own,this,parsed,_⟩
    · obtain ⟨own,this,parsed⟩ := sound.stored name version before was
      exact ⟨kept.own.1.trans own,kept.own.2.trans this,parsed⟩
    · exact ⟨own,this,parsed⟩

theorem step_change (c : ModelRegistry) (s : RegistryState) (action : RegistryAction) (sound : Sound c s.registry) :
    Change c s.registry (c.step s action).registry := by
  rw [step_registry]
  exact attempt_change c action.now s.registry action.operation sound

theorem reached_sound (c : ModelRegistry) (actions : List RegistryAction) : Sound c (c.reached actions).registry := by
  induction actions using List.reverseRecOn with
  | nil =>
    refine ⟨?_,?_⟩
    · rintro name v w ⟨m,held,_⟩
      cases held
    · intro name version m held
      cases held
  | append_singleton earlier action ih =>
    rw [reached_next]
    exact (step_change c _ action ih).sound ih

theorem reached_kept (c : ModelRegistry) (earlier later : List RegistryAction)
    (held : (c.reached earlier).registry.metadata name version = some m) :
    ∃ m', (c.reached (earlier ++ later)).registry.metadata name version = some m' ∧ Kept m m' := by
  induction later using List.reverseRecOn with
  | nil =>
    rw [List.append_nil]
    exact ⟨m,held,rfl⟩
  | append_singleton before action ih =>
    obtain ⟨m',stored,kept⟩ := ih
    rw [← List.append_assoc,reached_next]
    obtain ⟨last,becomes,keeps⟩ := (step_change c _ action (reached_sound c _)).kept stored
    refine ⟨last,becomes,?_⟩
    rw [Kept] at kept keeps ⊢
    rw [keeps,kept]

theorem listModels_production (r : Registry) (named : name ≠ "") :
    listModels (some name) (some .production) r = (((r.models.get? name).map fun versions =>
      (versions.entries.filter fun entry => decide (entry.2.stage = .production)).map Prod.snd).getD []) := by
  rw [← OrderedDict.flatMap_key r.models name]
  unfold listModels
  congr 1
  funext model
  by_cases own : model.1 = name
  · simp only [Option.any_some,own,named,ne_eq,not_true,and_false,decide_false,Bool.false_eq_true,if_false,List.filter_map]
    congr 1
    apply List.filter_congr
    intro entry _
    simp
  · simp [own,named]

theorem one_serving (r : Registry) (sound : Sound c r) (listed : r.models.get? name = some versions)
    (found : versions.get? version = some m) (serving : m.stage = .production) :
    (versions.entries.filter fun entry => decide (entry.2.stage = .production)) = [(version,m)] := by
  have inside : ∀ entry ∈ versions.entries.filter (fun entry => decide (entry.2.stage = .production)), entry = (version,m) := by
    intro entry member
    obtain ⟨held,stage⟩ := List.mem_filter.mp member
    have stored := (OrderedDict.get?_entry versions entry.1 entry.2).mp held
    have same : entry.1 = version := by
      apply sound.single name
      · exact ⟨entry.2,by rw [metadata_found listed,stored],of_decide_eq_true stage⟩
      · exact ⟨m,by rw [metadata_found listed,found],serving⟩
    rw [same,found] at stored
    exact Prod.ext same (Option.some.inj stored).symm
  have unique : ((versions.entries.filter fun entry => decide (entry.2.stage = .production)).map Prod.fst).Nodup :=
    versions.unique.sublist (List.filter_sublist.map Prod.fst)
  have member : (version,m) ∈ versions.entries.filter fun entry => decide (entry.2.stage = .production) := by
    rw [List.mem_filter,OrderedDict.get?_entry]
    exact ⟨found,decide_eq_true serving⟩
  cases all : versions.entries.filter fun entry => decide (entry.2.stage = .production) with
  | nil =>
    rw [all] at member
    cases member
  | cons first rest =>
    rw [all] at inside unique
    cases rest with
    | nil => rw [inside first List.mem_cons_self]
    | cons second others =>
      have one := inside first List.mem_cons_self
      have two := inside second (List.mem_cons_of_mem _ List.mem_cons_self)
      rw [one,two] at unique
      exact absurd List.mem_cons_self (List.nodup_cons.mp unique).1

theorem getProductionModel_serving (c : ModelRegistry) (r : Registry) (sound : Sound c r) (named : name ≠ "")
    (held : r.metadata name version = some m) (serving : m.stage = .production) : c.getProductionModel name r = .ok (some m) := by
  obtain ⟨versions,listed,found⟩ := Option.bind_eq_some_iff.mp held
  obtain ⟨_,this,v,parsed⟩ := sound.stored name version m held
  have models : listModels (some name) (some .production) r = [m] := by
    rw [listModels_production r named,listed,Option.map_some,one_serving r sound listed found serving]
    rfl
  rw [getProductionModel,models]
  simp only [List.mapM_cons,List.mapM_nil,this,parsed]
  rfl

theorem getProductionModel_none (c : ModelRegistry) (r : Registry) (named : name ≠ "") (idle : ∀ version, ¬Serves r name version) :
    c.getProductionModel name r = .ok none := by
  have models : listModels (some name) (some .production) r = [] := by
    rw [listModels_production r named]
    cases listed : r.models.get? name with
    | none => rfl
    | some versions =>
      rw [Option.map_some,Option.getD_some,List.map_eq_nil_iff,List.filter_eq_nil_iff]
      intro entry member
      rw [decide_eq_true_iff]
      intro serving
      have stored := (OrderedDict.get?_entry versions entry.1 entry.2).mp member
      exact idle entry.1 ⟨entry.2,by rw [metadata_found listed,stored],serving⟩
  rw [getProductionModel,models]
  rfl

-- In every run: a name has at most one version in production, get_production_model
-- returns it for every name that is not empty, and no version is ever lost.
theorem single_production_version (c : ModelRegistry) (actions : List RegistryAction) :
    (∀ name v w, Serves (c.reached actions).registry name v → Serves (c.reached actions).registry name w → v = w) ∧
      (∀ name, name ≠ "" →
        (∀ version m, (c.reached actions).registry.metadata name version = some m → m.stage = .production →
          c.getProductionModel name (c.reached actions).registry = .ok (some m)) ∧
        ((∀ version, ¬Serves (c.reached actions).registry name version) →
          c.getProductionModel name (c.reached actions).registry = .ok none)) ∧
      ∀ later name version m, (c.reached actions).registry.metadata name version = some m →
        ∃ m', (c.reached (actions ++ later)).registry.metadata name version = some m' ∧ Kept m m' := by
  have sound := reached_sound c actions
  refine ⟨sound.single,?_,?_⟩
  · intro name named
    exact ⟨fun version m => getProductionModel_serving c _ sound named,getProductionModel_none c _ named⟩
  · intro later name version m held
    exact reached_kept c actions later held

-- A registry whose versions have single digits, and calls that save.
def digits : ModelRegistry where
  int text := (text.toList.head?.bind Json.hexDigit).map fun n => (n : Int)
  recursionLimit := 900
  plain := by decide

def allTraffic : JsonValue := ⟨.int 1,rfl⟩

def saving (operation : RegistryOperation) : RegistryAction := ⟨operation,fun _ => "2026-01-01T00:00:00+00:00",.saved⟩

def register (name version : String) : RegistryOperation :=
  .registerModel ⟨name,version,"models","xgboost",none,none,none,"",none,"",none⟩ ⟨.ok (),.ok ""⟩

def twoModels : List RegistryAction :=
  [register "" "1.0.0",.promoteModel "" "1.0.0" .production "system",register "b" "2.0.0",
    .promoteModel "b" "2.0.0" .production "system"].map saving

-- With the empty name get_production_model looks at the versions of every model.
theorem empty_name_not_served : ∃ m,
    (digits.reached twoModels).registry.metadata "" "1.0.0" = some m ∧ m.stage = .production ∧
      digits.getProductionModel "" (digits.reached twoModels).registry ≠ .ok (some m) := by
  refine ⟨_,rfl,rfl,?_⟩
  intro found
  have names : (digits.getProductionModel "" (digits.reached twoModels).registry).map (Option.map ModelMetadata.name) =
      .ok (some "b") := rfl
  rw [found] at names
  exact absurd names (by decide)

end ModelRegistry
end RiskPulse
