import RiskPulse.RegistryStages

namespace RiskPulse
open Json

theorem optionalText_representable (text : Option String) : (optionalText text).representable = true := by
  cases text <;> rfl

theorem optionalText_depth (text : Option String) : (optionalText text).depth = 0 := by cases text <;> rfl

theorem texts_representable (texts : List String) : (Json.array (texts.map .str)).representable = true := by
  rw [representable,representableItems_exact]
  intro v member
  obtain ⟨text,_,rfl⟩ := List.mem_map.mp member
  rfl

theorem texts_depth (texts : List String) : depthItems (texts.map .str) ≤ 0 := by
  rw [depthItems_le]
  intro v member
  obtain ⟨text,_,rfl⟩ := List.mem_map.mp member
  rfl

-- A dict is printed as an object of its own keys.
theorem entries_representable (d : OrderedDict String α) (print : α → Json)
    (each : ∀ key v, d.get? key = some v → (print v).representable = true) :
    (Json.object (d.entries.map fun entry => (entry.1,print entry.2))).representable = true := by
  rw [representable_object]
  refine ⟨?_,?_⟩
  · rw [List.map_map]
    exact d.unique
  · intro member inside
    obtain ⟨entry,held,rfl⟩ := List.mem_map.mp inside
    exact each entry.1 entry.2 ((OrderedDict.get?_entry d entry.1 entry.2).mp held)

theorem entries_depth (d : OrderedDict String α) (print : α → Json) (n : Nat)
    (each : ∀ key v, d.get? key = some v → (print v).depth ≤ n) :
    (Json.object (d.entries.map fun entry => (entry.1,print entry.2))).depth ≤ 1 + n := by
  have inside : depthMembers (d.entries.map fun entry => (entry.1,print entry.2)) ≤ n := by
    rw [depthMembers_le]
    intro member inside
    obtain ⟨entry,held,rfl⟩ := List.mem_map.mp inside
    exact each entry.1 entry.2 ((OrderedDict.get?_entry d entry.1 entry.2).mp held)
  rw [depth]
  omega

theorem JsonDict.representable (d : JsonDict) : d.toJson.representable = true :=
  entries_representable d Subtype.val fun _ v _ => v.property

theorem ModelMetadata.representable (m : ModelMetadata) : m.toDict.representable = true := by
  have keys : ["name","version","stage","status","artifact_path","model_type","created_at","updated_at","metrics","parameters",
      "tags","description","artifact_hash","feature_names","training_dataset","parent_version"].Nodup := by decide
  rw [toDict,representable_object]
  refine ⟨keys,?_⟩
  simp only [List.forall_mem_cons,JsonDict.representable,texts_representable,optionalText_representable]
  simp [Json.representable]

theorem ABTestConfig.representable (t : ABTestConfig) : t.toDict.representable = true := by
  have keys : ["name","model_a_version","model_b_version","traffic_split","sticky_assignment","start_time","end_time","is_active",
      "metrics_a","metrics_b"].Nodup := by decide
  rw [toDict,representable_object]
  refine ⟨keys,?_⟩
  simp only [List.forall_mem_cons,JsonDict.representable,optionalText_representable,t.trafficSplit.property]
  simp [Json.representable]

theorem Promotion.representable (p : Promotion) : p.toDict.representable = true := by
  rw [toDict,representable_object]
  cases p.isRollback <;> exact ⟨by simp,by simp [Json.representable]⟩

-- The document of every registry is one that can be printed.
theorem Registry.document_representable (r : Registry) : r.document.representable = true := by
  have models : (Json.object (r.models.entries.map fun model => (model.1,Json.object (model.2.entries.map fun entry =>
      (entry.1,entry.2.toDict))))).representable = true :=
    entries_representable r.models (fun versions => Json.object (versions.entries.map fun entry => (entry.1,entry.2.toDict)))
      fun _ versions _ => entries_representable versions ModelMetadata.toDict fun _ m _ => m.representable
  have tests : (Json.object (r.abTests.entries.map fun test => (test.1,test.2.toDict))).representable = true :=
    entries_representable r.abTests ABTestConfig.toDict fun _ t _ => t.representable
  have history : (Json.array (r.promotionHistory.map Promotion.toDict)).representable = true := by
    rw [Json.representable,representableItems_exact]
    intro v member
    obtain ⟨p,_,rfl⟩ := List.mem_map.mp member
    exact p.representable
  rw [document,representable_object]
  refine ⟨by simp,?_⟩
  simp only [List.forall_mem_cons,models,tests,history]
  simp

-- The values of a dict are nested no deeper.
def JsonDict.Within (d : JsonDict) (n : Nat) : Prop := ∀ entry ∈ d.entries, entry.2.val.depth ≤ n

theorem JsonDict.depth_le (d : JsonDict) (n : Nat) (within : d.Within n) : d.toJson.depth ≤ 1 + n :=
  entries_depth d Subtype.val n fun key v held => within (key,v) ((OrderedDict.get?_entry d key v).mpr held)

theorem ModelMetadata.depth_le (m : ModelMetadata) (n : Nat) (metrics : m.metrics.Within n) (parameters : m.parameters.Within n)
    (tags : m.tags.Within n) : m.toDict.depth ≤ 2 + n := by
  have one := m.metrics.depth_le n metrics
  have two := m.parameters.depth_le n parameters
  have three := m.tags.depth_le n tags
  have names := texts_depth m.featureNames
  have parent := optionalText_depth m.parentVersion
  have inside : depthMembers [("name",.str m.name),("version",.str m.version),("stage",.str m.stage.value),
      ("status",.str m.status.value),("artifact_path",.str m.artifactPath),("model_type",.str m.modelType),
      ("created_at",.str m.createdAt),("updated_at",.str m.updatedAt),("metrics",m.metrics.toJson),
      ("parameters",m.parameters.toJson),("tags",m.tags.toJson),("description",.str m.description),
      ("artifact_hash",.str m.artifactHash),("feature_names",.array (m.featureNames.map .str)),
      ("training_dataset",.str m.trainingDataset),("parent_version",optionalText m.parentVersion)] ≤ 1 + n := by
    rw [depthMembers_le]
    simp only [List.forall_mem_cons,Json.depth]
    refine ⟨?_,?_,?_,?_,?_,?_,?_,?_,one,two,three,?_,?_,?_,?_,?_,by simp⟩ <;> omega
  rw [toDict,Json.depth]
  omega

theorem ABTestConfig.depth_le (t : ABTestConfig) (flat : t.trafficSplit.val.depth = 0) (metricsA : t.metricsA.Within 0)
    (metricsB : t.metricsB.Within 0) : t.toDict.depth ≤ 2 := by
  have one := t.metricsA.depth_le 0 metricsA
  have two := t.metricsB.depth_le 0 metricsB
  have ending := optionalText_depth t.endTime
  have inside : depthMembers [("name",.str t.name),("model_a_version",.str t.modelAVersion),("model_b_version",.str t.modelBVersion),
      ("traffic_split",t.trafficSplit.val),("sticky_assignment",.bool t.stickyAssignment),("start_time",.str t.startTime),
      ("end_time",optionalText t.endTime),("is_active",.bool t.isActive),("metrics_a",t.metricsA.toJson),
      ("metrics_b",t.metricsB.toJson)] ≤ 1 := by
    rw [depthMembers_le]
    simp only [List.forall_mem_cons,Json.depth]
    refine ⟨?_,?_,?_,?_,?_,?_,?_,?_,one,two,by simp⟩ <;> omega
  rw [toDict,Json.depth]
  omega

theorem Promotion.depth_eq (p : Promotion) : p.toDict.depth = 1 := by
  rw [toDict]
  cases p.isRollback <;> rfl

-- The metadata and the tests leave room for the levels of the document around them.
structure Registry.Shallow (r : Registry) (limit : Nat) : Prop where
  versions : ∀ name version m, r.metadata name version = some m → 3 + m.toDict.depth ≤ limit
  tests : ∀ name t, r.abTests.get? name = some t → t.toDict.depth ≤ 2 ∧ t.trafficSplit.val.depth = 0 ∧
    t.metricsA.Within 0 ∧ t.metricsB.Within 0

theorem Registry.document_depth (r : Registry) (limit : Nat) (plain : 5 ≤ limit) (shallow : r.Shallow limit) :
    r.document.depth ≤ limit := by
  have models : (Json.object (r.models.entries.map fun model => (model.1,Json.object (model.2.entries.map fun entry =>
      (entry.1,entry.2.toDict))))).depth ≤ 1 + (1 + (limit - 3)) := by
    apply entries_depth r.models fun versions => Json.object (versions.entries.map fun entry => (entry.1,entry.2.toDict))
    intro name versions listed
    apply entries_depth versions ModelMetadata.toDict
    intro version m found
    have room := shallow.versions name version m (by rw [metadata,listed]; exact found)
    omega
  have tests : (Json.object (r.abTests.entries.map fun test => (test.1,test.2.toDict))).depth ≤ 1 + 2 := by
    apply entries_depth r.abTests ABTestConfig.toDict
    intro name t found
    exact (shallow.tests name t found).1
  have history : depthItems (r.promotionHistory.map Promotion.toDict) ≤ 1 := by
    rw [depthItems_le]
    intro v member
    obtain ⟨p,_,rfl⟩ := List.mem_map.mp member
    rw [p.depth_eq]
  have inside : depthMembers [("models",.object (r.models.entries.map fun model =>
      (model.1,.object (model.2.entries.map fun entry => (entry.1,entry.2.toDict))))),
      ("ab_tests",.object (r.abTests.entries.map fun test => (test.1,test.2.toDict))),
      ("promotion_history",.array (r.promotionHistory.map Promotion.toDict))] ≤ limit - 1 := by
    rw [depthMembers_le]
    simp only [List.forall_mem_cons]
    refine ⟨by omega,by omega,?_,by simp⟩
    rw [Json.depth]
    omega
  rw [document,Json.depth]
  omega

namespace ModelRegistry

-- The metrics, parameters and tags of a registration can be read back where they are to
-- stand in the document.
def Registration.Shallow (args : Registration) (limit : Nat) : Prop :=
  (args.metrics.getD .empty).Within (limit - 5) ∧ (args.parameters.getD .empty).Within (limit - 5) ∧
    (args.tags.getD .empty).Within (limit - 5)

-- The condition on a call: its save does not fail, what it registers is not nested too
-- deep, and no first version of a name fails while its artifact is signed or hashed.
def Undisturbed (c : ModelRegistry) (s : RegistryState) (action : RegistryAction) : Prop :=
  (∀ registry, c.attempt action.now s.registry action.operation = .saves registry () → action.saving = .saved) ∧
    match action.operation with
    | .registerModel args artifact => Registration.Shallow args c.recursionLimit ∧
      ((∃ v, c.parse args.version = .ok v) → args.name ∈ s.registry.models.keys ∨
        (artifact.signed = .ok () ∧ ∃ hash, artifact.hashed = .ok hash))
    | _ => True

theorem metadata_shallow (args : Registration) (hash : String) (now : Nat → String) (limit : Nat) (plain : 5 ≤ limit)
    (shallow : Registration.Shallow args limit) : 3 + (newVersion args hash now).toDict.depth ≤ limit := by
  have room := (newVersion args hash now).depth_le (limit - 5) shallow.1 shallow.2.1 shallow.2.2
  omega

theorem Kept.depth (kept : Kept before after) : after.toDict.depth = before.toDict.depth := by
  rw [kept]
  simp [ModelMetadata.toDict,Json.depth,Json.depthMembers]

theorem named_known (known : name ∈ r.models.keys) : named name r = r := if_pos known

-- Only a name that is there has a version.
theorem named_used (used : version ∈ ((named name r).versions name).keys) : name ∈ r.models.keys := by
  obtain ⟨m,held⟩ := (OrderedDict.mem_keys _ _).mp used
  rw [named_versions] at held
  obtain ⟨versions,listed,_⟩ := Option.bind_eq_some_iff.mp held
  exact (OrderedDict.mem_keys _ _).mpr ⟨versions,listed⟩

theorem number_flat (counted : number v = some q) : v.depth = 0 := by
  cases v with
  | null | bool | int | float | str => rfl
  | array items => cases counted
  | object members => cases counted

-- An undisturbed call that does not come to its save has changed nothing.
theorem attempt_leaves (undisturbed : Undisturbed c s action)
    (left : c.attempt action.now s.registry action.operation = .leaves registry result) : registry = s.registry := by
  obtain ⟨operation,now,saving⟩ := action
  cases operation with
  | registerModel args artifact =>
    have condition := undisturbed.2.2
    simp only [attempt,registerModel] at left
    split at left
    · cases left
      rfl
    · rename_i v parsed
      split at left
      · rename_i used
        cases left
        exact named_known (named_used used)
      · rcases condition ⟨v,parsed⟩ with known | ⟨signed,hash,hashed⟩
        · split at left
          · cases left
            exact named_known known
          · cases left
            exact named_known known
          · cases left
        · simp only [signed,hashed] at left
          cases left
  | promoteModel name version target promotedBy =>
    simp only [attempt,promoteModel] at left
    repeat' split at left
    all_goals cases left <;> rfl
  | rollbackModel name promotedBy =>
    simp only [attempt,rollbackModel] at left
    repeat' split at left
    all_goals cases left <;> rfl
  | createAbTest testName modelName versionA versionB trafficSplit stickyAssignment =>
    simp only [attempt,createAbTest] at left
    repeat' split at left
    all_goals cases left <;> rfl
  | endAbTest testName =>
    simp only [attempt,endAbTest] at left
    repeat' split at left
    all_goals cases left <;> rfl

theorem promoted_shallow (change : Change c r (r.promoted name versions p)) (shallow : r.Shallow limit) :
    (r.promoted name versions p).Shallow limit where
  versions := by
    intro other version m held
    rcases change.from held with ⟨before,was,kept⟩ | ⟨_,_,_,history⟩
    · rw [kept.depth]
      exact shallow.versions other version before was
    · exact absurd (congrArg List.length history) (by simp [Registry.promoted])
  tests := shallow.tests

theorem registered_shallow (c : ModelRegistry) (args : Registration) (hash : String) (now : Nat → String)
    (room : Registration.Shallow args c.recursionLimit) (shallow : Registry.Shallow r c.recursionLimit) :
    ((named args.name r).registered args.name args.version (newVersion args hash now)).Shallow c.recursionLimit where
  versions := by
    intro name version m held
    rw [registered_metadata] at held
    split at held
    · cases held
      exact metadata_shallow args hash now c.recursionLimit c.plain room
    · exact shallow.versions name version m held
  tests := by
    intro name t held
    apply shallow.tests name t
    rw [← held]
    unfold named
    split <;> rfl

theorem tested_shallow (shallow : Registry.Shallow r limit) (testName : String) (config : ABTestConfig)
    (flat : config.trafficSplit.val.depth = 0) (metricsA : config.metricsA.Within 0) (metricsB : config.metricsB.Within 0) :
    Registry.Shallow {r with abTests := r.abTests.set testName config} limit where
  versions := shallow.versions
  tests := by
    intro name t held
    rw [OrderedDict.get?_set] at held
    split at held
    · cases held
      exact ⟨ABTestConfig.depth_le _ flat metricsA metricsB,flat,metricsA,metricsB⟩
    · exact shallow.tests name t held

theorem attempt_shallow (sound : Sound c s.registry) (shallow : s.registry.Shallow c.recursionLimit)
    (undisturbed : Undisturbed c s action) (saves : c.attempt action.now s.registry action.operation = .saves registry ()) :
    registry.Shallow c.recursionLimit := by
  obtain ⟨operation,now,saving⟩ := action
  have change := attempt_change c now s.registry operation sound
  cases operation with
  | registerModel args artifact =>
    have room := undisturbed.2.1
    simp only [attempt,registerModel] at saves
    repeat' split at saves
    all_goals try cases saves
    exact registered_shallow c args _ now room shallow
  | promoteModel name version target promotedBy =>
    rw [saves] at change
    simp only [attempt,promoteModel] at saves
    split at saves
    · cases saves
    · split at saves
      · cases saves
      · cases saves
        exact promoted_shallow change shallow
  | rollbackModel name promotedBy =>
    rw [saves] at change
    simp only [attempt,rollbackModel] at saves
    split at saves
    · cases saves
    · split at saves
      · cases saves
      · cases saves
        exact promoted_shallow change shallow
  | createAbTest testName modelName versionA versionB trafficSplit stickyAssignment =>
    simp only [attempt,createAbTest] at saves
    repeat' split at saves
    all_goals try cases saves
    rename_i counted _ _ _ _ _ _
    have empty : JsonDict.Within .empty 0 := fun _ member => by cases member
    exact tested_shallow shallow testName _ (number_flat counted) empty empty
  | endAbTest testName =>
    simp only [attempt,endAbTest] at saves
    split at saves
    · cases saves
    · rename_i config found
      cases saves
      obtain ⟨_,flat,metricsA,metricsB⟩ := shallow.tests testName config found
      exact tested_shallow shallow testName _ flat metricsA metricsB

-- The file holds what is in memory.
structure Stored (c : ModelRegistry) (s : RegistryState) : Prop where
  sound : Sound c s.registry
  shallow : s.registry.Shallow c.recursionLimit
  reloads : c.loadRegistry s.file = .ok s.registry.document

theorem opened_stored (c : ModelRegistry) : Stored c opened where
  sound := reached_sound c []
  shallow := by
    refine ⟨?_,?_⟩
    · intro name version m held
      cases held
    · intro name t held
      cases held
  reloads := rfl

-- A call that raises leaves the memory as it was, and after every call the file holds
-- what is in memory.
def Durable (c : ModelRegistry) (s : RegistryState) (action : RegistryAction) : Prop :=
  (∀ e, (c.perform s action).1 = .error e → (c.step s action).registry = s.registry) ∧
    c.loadRegistry (c.step s action).file = .ok (c.step s action).registry.document

theorem step_stored (stored : Stored c s) (undisturbed : Undisturbed c s action) : Stored c (c.step s action) ∧ Durable c s action := by
  have sound := (step_change c s action stored.sound).sound stored.sound
  cases came : c.attempt action.now s.registry action.operation with
  | leaves registry result =>
    have same := attempt_leaves undisturbed came
    have stays : c.step s action = s := by
      rw [step,perform,came,same]
      rfl
    exact ⟨by rw [stays]; exact stored,by rw [Durable,stays]; exact ⟨fun _ _ => rfl,stored.reloads⟩⟩
  | saves registry result =>
    have saved := undisturbed.1 registry came
    have shallow := attempt_shallow stored.sound stored.shallow undisturbed came
    have performed : c.perform s action = (.ok (),⟨registry,some (Json.dumps registry.document)⟩) := by
      rw [perform,came,saved]
      rfl
    have after : c.step s action = ⟨registry,some (Json.dumps registry.document)⟩ := by rw [step,performed]
    have reloads : c.loadRegistry (some (Json.dumps registry.document)) = .ok registry.document :=
      Json.loads_dumps registry.document registry.document_representable c.recursionLimit
        (registry.document_depth c.recursionLimit c.plain shallow)
    rw [after] at sound
    refine ⟨by rw [after]; exact ⟨sound,shallow,reloads⟩,?_,by rw [after]; exact reloads⟩
    intro e failed
    rw [performed] at failed
    cases failed

-- In every run of undisturbed calls, every call is durable.
theorem registry_durable (c : ModelRegistry) (actions : List RegistryAction)
    (undisturbed : Runs.Along c.step (Undisturbed c) opened actions) : Runs.Along c.step (Durable c) opened actions := by
  have keeps : ∀ s action, Stored c s → Undisturbed c s action → Stored c (c.step s action) :=
    fun s action stored calm => (step_stored stored calm).1
  have gives : ∀ s action, Stored c s → Undisturbed c s action → Durable c s action :=
    fun s action stored calm => (step_stored stored calm).2
  exact Runs.along_gives keeps gives (opened_stored c) undisturbed

theorem first_registration_durable :
    Runs.Along digits.step (Durable digits) opened [saving (register "m" "1.0.0"),saving (.promoteModel "m" "1.0.0" .production "system")] := by
  apply registry_durable
  have empty : JsonDict.Within .empty (digits.recursionLimit - 5) := fun _ member => by cases member
  refine ⟨⟨fun _ _ => rfl,⟨empty,empty,empty⟩,fun _ => .inr ⟨rfl,_,rfl⟩⟩,⟨fun _ _ => rfl,trivial⟩,trivial⟩

-- A signing that raises leaves the new name behind, and a disk that is full the version
-- in memory and an empty file.
theorem failures_leave_changes :
    ¬Runs.Along digits.step (Durable digits) opened
      [saving (.registerModel ⟨"m","1.0.0","models","xgboost",none,none,none,"",none,"",none⟩ ⟨.error "no artifact",.ok ""⟩)] ∧
    ¬Runs.Along digits.step (Durable digits) opened [⟨register "m" "1.0.0",fun _ => "0",.writeFails 0 "disk full"⟩] := by
  refine ⟨?_,?_⟩
  · rintro ⟨⟨atomic,_⟩,_⟩
    have same := atomic (.artifact "no artifact") rfl
    have names := congrArg (fun r : Registry => r.models.keys) same
    exact absurd names (by decide)
  · rintro ⟨⟨atomic,_⟩,_⟩
    have same := atomic (.save "disk full") rfl
    have names := congrArg (fun r : Registry => r.models.keys) same
    exact absurd names (by decide)

end ModelRegistry
end RiskPulse
