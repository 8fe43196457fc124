import RiskPulse.RegistryStages

namespace RiskPulse

def Attempt.accepted : Attempt α → Bool
  | .leaves _ _ => false
  | .saves _ _ => true

theorem Attempt.forget_accepted (a : Attempt α) : a.forget.accepted = a.accepted := by cases a <;> rfl

def Registry.withTests (r : Registry) (tests : OrderedDict String ABTestConfig) : Registry := {r with abTests := tests}

namespace ModelRegistry

-- What is asked of a new test does not depend on the tests there are.
theorem createAbTest_cases (testName modelName versionA versionB : String) (trafficSplit : JsonValue) (sticky : Bool)
    (now : Nat → String) (r : Registry) :
    (∃ e, ∀ tests, createAbTest testName modelName versionA versionB trafficSplit sticky now (r.withTests tests) =
      .leaves (r.withTests tests) (.error e)) ∨
    (∃ config split, number config.trafficSplit.val = some split ∧
      ∀ tests, createAbTest testName modelName versionA versionB trafficSplit sticky now (r.withTests tests) =
        .saves (r.withTests (tests.set testName config)) config) := by
  unfold createAbTest Registry.withTests
  cases numeric : number trafficSplit.val with
  | none => exact .inl ⟨_,fun _ => rfl⟩
  | some split =>
    by_cases bounds : 0 ≤ split ∧ split ≤ 1
    · simp only [bounds]
      cases r.models.get? modelName with
      | none => exact .inl ⟨_,fun _ => rfl⟩
      | some versions =>
        by_cases first : versionA ∉ versions.keys
        · simp only [first]
          exact .inl ⟨_,fun _ => rfl⟩
        · by_cases second : versionB ∉ versions.keys
          · simp only [first,second,if_false]
            exact .inl ⟨_,fun _ => rfl⟩
          · simp only [first,second,if_false]
            exact .inr ⟨_,split,numeric,fun _ => rfl⟩
    · simp only [bounds,not_false_iff,if_true]
      exact .inl ⟨_,fun _ => rfl⟩

-- The same two outcomes for the tests a registry has itself.
theorem createAbTest_registry (testName modelName versionA versionB : String) (trafficSplit : JsonValue) (sticky : Bool)
    (now : Nat → String) (r : Registry) :
    (createAbTest testName modelName versionA versionB trafficSplit sticky now r).registry = r ∨
    (∃ config split, number config.trafficSplit.val = some split ∧
      (createAbTest testName modelName versionA versionB trafficSplit sticky now r).registry =
        r.withTests (r.abTests.set testName config)) := by
  have self : r.withTests r.abTests = r := rfl
  rcases createAbTest_cases testName modelName versionA versionB trafficSplit sticky now r with
    ⟨e,refused⟩ | ⟨config,split,number,created⟩
  · have here := refused r.abTests
    rw [self] at here
    exact .inl (congrArg Attempt.registry here)
  · have here := created r.abTests
    rw [self] at here
    exact .inr ⟨config,split,number,congrArg Attempt.registry here⟩

theorem endAbTest_cases (testName : String) (now : Nat → String) (r : Registry) :
    (r.abTests.get? testName = none ∧ endAbTest testName now r = .leaves r (.ok none)) ∨
    (∃ config ended, r.abTests.get? testName = some config ∧ ended = {config with isActive := false, endTime := some (now 0)} ∧
      endAbTest testName now r = .saves (r.withTests (r.abTests.set testName ended)) (some ended)) := by
  unfold endAbTest
  cases r.abTests.get? testName with
  | none => exact .inl ⟨rfl,rfl⟩
  | some config => exact .inr ⟨config,_,rfl,rfl,rfl⟩

def ofTests : RegistryOperation → Bool
  | .createAbTest _ _ _ _ _ _ => true
  | .endAbTest _ => true
  | _ => false

theorem withTests_models (r : Registry) (tests : OrderedDict String ABTestConfig) : (r.withTests tests).models = r.models := rfl

theorem named_withTests (name : String) (r : Registry) (tests : OrderedDict String ABTestConfig) :
    named name (r.withTests tests) = (named name r).withTests tests := by
  unfold named Registry.withTests
  split <;> rfl

theorem attempt_withTests (c : ModelRegistry) (now : Nat → String) (r : Registry) (tests : OrderedDict String ABTestConfig)
    (op : RegistryOperation) (other : ofTests op = false) :
    (c.attempt now (r.withTests tests) op).registry = (c.attempt now r op).registry.withTests tests := by
  cases op with
  | registerModel args artifact =>
    rw [attempt,attempt,forget_registry,forget_registry]
    unfold registerModel
    cases c.parse args.version with
    | error e => rfl
    | ok v =>
      rw [named_withTests]
      simp only
      change Attempt.registry (if args.version ∈ ((named args.name r).versions args.name).keys then _ else _) = _
      split
      · rfl
      · cases artifact.signed with
        | error message => rfl
        | ok _ => cases artifact.hashed <;> rfl
  | promoteModel name version target promotedBy =>
    rw [attempt,attempt,forget_registry,forget_registry]
    unfold promoteModel
    rw [withTests_models]
    cases r.models.get? name with
    | none => rfl
    | some versions => cases found : versions.get? version <;> simp only [found] <;> rfl
  | rollbackModel name promotedBy =>
    rw [attempt,attempt,forget_registry,forget_registry]
    unfold rollbackModel
    rw [withTests_models]
    cases r.models.get? name with
    | none => rfl
    | some versions => cases found : latestArchived versions <;> simp only [found] <;> rfl
  | createAbTest => cases other
  | endAbTest => cases other


-- Every test divides its traffic by a number.
def NumericSplits (r : Registry) : Prop :=
  ∀ name config, r.abTests.get? name = some config → ∃ split, number config.trafficSplit.val = some split

theorem numericSplits_set (numeric : NumericSplits r) (split : number config.trafficSplit.val = some s) :
    NumericSplits (r.withTests (r.abTests.set testName config)) := by
  intro name other found
  rw [Registry.withTests,OrderedDict.get?_set] at found
  split at found
  · cases found
    exact ⟨_,split⟩
  · exact numeric name other found

theorem attempt_numericSplits (c : ModelRegistry) (now : Nat → String) (op : RegistryOperation) (numeric : NumericSplits r) :
    NumericSplits (c.attempt now r op).registry := by
  cases test : ofTests op with
  | false =>
    have kept : (c.attempt now r op).registry = (c.attempt now r op).registry.withTests r.abTests :=
      attempt_withTests c now r r.abTests op test
    rw [kept]
    exact numeric
  | true =>
    cases op with
    | createAbTest testName modelName versionA versionB trafficSplit sticky =>
      rw [attempt,forget_registry]
      rcases createAbTest_registry testName modelName versionA versionB trafficSplit sticky now r with
        same | ⟨config,split,number,created⟩
      · rw [same]
        exact numeric
      · rw [created]
        exact numericSplits_set numeric number
    | endAbTest testName =>
      rw [attempt,forget_registry]
      rcases endAbTest_cases testName now r with ⟨_,result⟩ | ⟨config,ended,found,made,result⟩
      · rw [result]
        exact numeric
      · obtain ⟨split,number⟩ := numeric testName config found
        rw [result]
        apply numericSplits_set numeric
        rw [made]
        exact number
    | registerModel => cases test
    | promoteModel => cases test
    | rollbackModel => cases test

-- The promotions and rollbacks so far, of whatever model.
def changes (r : Registry) : Nat := r.promotionHistory.length

def productionVersions (versions : OrderedDict String ModelMetadata) : List ModelMetadata :=
  (versions.entries.map Prod.snd).filter fun m => decide (m.stage = .production)

theorem listModels_set (r : Registry) (name : String) (versions : OrderedDict String ModelMetadata)
    (serving : productionVersions versions = productionVersions (r.versions name)) (wanted : Option String) :
    listModels wanted (some .production) {r with models := r.models.set name versions} = listModels wanted (some .production) r := by
  have production : (fun m : ModelMetadata => !(some ModelStage.production).any fun wanted => decide (m.stage ≠ wanted)) =
      fun m => decide (m.stage = .production) := by
    funext m
    simp
  unfold listModels
  rw [production]
  apply OrderedDict.flatMap_set
  rw [Registry.versions,OrderedDict.getD] at serving
  cases found : r.models.get? name with
  | none =>
    rw [found] at serving
    simp only [Option.map_none,Option.getD_none]
    split
    · rfl
    · exact serving
  | some old =>
    rw [found] at serving
    simp only [Option.map_some,Option.getD_some]
    split
    · rfl
    · exact serving

theorem productionVersions_added (versions : OrderedDict String ModelMetadata) (new : version ∉ versions.keys) (m : ModelMetadata)
    (stage : m.stage ≠ .production) : productionVersions (versions.set version m) = productionVersions versions := by
  have apart : ∀ versions : OrderedDict String ModelMetadata, productionVersions versions =
      versions.entries.flatMap fun entry => if entry.2.stage = .production then [entry.2] else [] := by
    intro versions
    unfold productionVersions
    induction versions.entries with
    | nil => rfl
    | cons head rest ih =>
      rw [List.map_cons,List.filter_cons,List.flatMap_cons,ih]
      by_cases serving : head.2.stage = .production <;> simp [serving]
  rw [apart,apart]
  apply OrderedDict.flatMap_set
  rw [(OrderedDict.get?_eq_none _ _).mpr new]
  simp [stage]

theorem named_production (name : String) (r : Registry) (wanted : Option String) :
    listModels wanted (some .production) (named name r) = listModels wanted (some .production) r := by
  unfold named
  split
  · rfl
  · rename_i new
    apply listModels_set
    rw [Registry.versions,OrderedDict.getD,(OrderedDict.get?_eq_none _ _).mpr new]
    rfl

theorem registerModel_production (c : ModelRegistry) (args : Registration) (artifact : ArtifactOutcome) (now : Nat → String)
    (r : Registry) (wanted : Option String) :
    listModels wanted (some .production) (c.registerModel args artifact now r).registry = listModels wanted (some .production) r := by
  have opened := named_production args.name r wanted
  unfold registerModel
  cases c.parse args.version with
  | error e => rfl
  | ok v =>
    simp only
    split
    · exact opened
    · rename_i new
      split
      · exact opened
      · exact opened
      · refine Eq.trans ?_ opened
        apply listModels_set
        exact productionVersions_added _ new _ (by simp [newVersion])

theorem registerModel_changes (c : ModelRegistry) (args : Registration) (artifact : ArtifactOutcome) (now : Nat → String)
    (r : Registry) : changes (c.registerModel args artifact now r).registry = changes r := by
  have opened : changes (named args.name r) = changes r := congrArg List.length (named_history args.name r)
  unfold registerModel
  cases c.parse args.version with
  | error e => rfl
  | ok v =>
    simp only
    split
    · exact opened
    · split
      · exact opened
      · exact opened
      · exact opened

theorem promoteModel_registry (name version : String) (target : ModelStage) (promotedBy : String) (now : Nat → String) (r : Registry) :
    (promoteModel name version target promotedBy now r).registry = r ∨
      ∃ versions promotion, (promoteModel name version target promotedBy now r).registry = r.promoted name versions promotion := by
  unfold promoteModel
  split
  · exact .inl rfl
  · split
    · exact .inl rfl
    · exact .inr ⟨_,_,rfl⟩

theorem rollbackModel_registry (name promotedBy : String) (now : Nat → String) (r : Registry) :
    (rollbackModel name promotedBy now r).registry = r ∨
      ∃ versions promotion, (rollbackModel name promotedBy now r).registry = r.promoted name versions promotion := by
  unfold rollbackModel
  split
  · exact .inl rfl
  · split
    · exact .inl rfl
    · exact .inr ⟨_,_,rfl⟩

-- Either the same versions stay in production, or a promotion or a rollback is recorded.
theorem attempt_production (c : ModelRegistry) (now : Nat → String) (r : Registry) (op : RegistryOperation) :
    (changes (c.attempt now r op).registry = changes r ∧ ∀ wanted,
      listModels wanted (some .production) (c.attempt now r op).registry = listModels wanted (some .production) r) ∨
    changes (c.attempt now r op).registry = changes r + 1 := by
  have grown : ∀ name versions promotion, changes (r.promoted name versions promotion) = changes r + 1 :=
    fun _ _ _ => List.length_append
  cases op with
  | registerModel args artifact =>
    rw [attempt,forget_registry]
    exact .inl ⟨registerModel_changes c args artifact now r,registerModel_production c args artifact now r⟩
  | promoteModel name version target promotedBy =>
    rw [attempt,forget_registry]
    rcases promoteModel_registry name version target promotedBy now r with same | ⟨versions,promotion,moved⟩
    · rw [same]
      exact .inl ⟨rfl,fun _ => rfl⟩
    · rw [moved]
      exact .inr (grown _ _ _)
  | rollbackModel name promotedBy =>
    rw [attempt,forget_registry]
    rcases rollbackModel_registry name promotedBy now r with same | ⟨versions,promotion,moved⟩
    · rw [same]
      exact .inl ⟨rfl,fun _ => rfl⟩
    · rw [moved]
      exact .inr (grown _ _ _)
  | createAbTest testName modelName versionA versionB trafficSplit sticky =>
    rw [attempt,forget_registry]
    rcases createAbTest_registry testName modelName versionA versionB trafficSplit sticky now r with
      same | ⟨config,split,number,created⟩
    · rw [same]
      exact .inl ⟨rfl,fun _ => rfl⟩
    · rw [created]
      exact .inl ⟨rfl,fun _ => rfl⟩
  | endAbTest testName =>
    rw [attempt,forget_registry]
    rcases endAbTest_cases testName now r with ⟨_,result⟩ | ⟨config,ended,found,made,result⟩
    · rw [result]
      exact .inl ⟨rfl,fun _ => rfl⟩
    · rw [result]
      exact .inl ⟨rfl,fun _ => rfl⟩

theorem getProductionModel_same (c : ModelRegistry) (name : String)
    (same : listModels (some name) (some .production) after = listModels (some name) (some .production) r) :
    c.getProductionModel name after = c.getProductionModel name r := by
  rw [getProductionModel,getProductionModel,same]

end ModelRegistry
end RiskPulse
