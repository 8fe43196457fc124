import RiskPulse.PipelineStages

namespace RiskPulse

def transactionColumns : List String :=
  ["transaction_id","external_transaction_id","account_id","customer_id","merchant_id","merchant_name",
    "merchant_category_code","transaction_amount","transaction_currency","transaction_type","channel","card_type",
    "card_last_four","ip_address","device_id","device_type","geo_latitude","geo_longitude","geo_country","geo_city",
    "is_international","transaction_timestamp","processed_timestamp","status","created_at","updated_at"]

def internalPrefixes : List String := ["_pipeline_","_validation_","_rules_","_enrichment_"]

def startswith (text start : String) : Bool := start.toList.isPrefixOf text.toList

def internal (key : String) : Bool := internalPrefixes.any (startswith key)

-- Prepare a record for PostgreSQL insertion: the fields with an internal prefix
-- are left out, the others copied in order.
def preparePostgresRecord (record : Record) : Record :=
  record.entries.foldl (fun built entry => if internal entry.1 then built else built.set entry.1 entry.2) .empty

theorem mem_prepared (record : Record) (key : String) :
    key ∈ (preparePostgresRecord record).keys ↔ key ∈ record.keys ∧ internal key = false := by
  have folded : ∀ (entries : List (String × Value)) (built : Record),
      key ∈ (entries.foldl (fun built entry => if internal entry.1 then built else built.set entry.1 entry.2)
        built).keys ↔ (key ∈ entries.map Prod.fst ∧ internal key = false) ∨ key ∈ built.keys := by
    intro entries
    induction entries with
    | nil => simp
    | cons head rest ih =>
      intro built
      rw [List.foldl_cons,ih,List.map_cons,List.mem_cons]
      split
      · rename_i inside
        by_cases same : key = head.1
        · subst same; simp [inside]
        · simp [same]
      · rename_i outside
        rw [OrderedDict.mem_keys_set]
        by_cases same : key = head.1
        · subst same; simp [outside]
        · simp [same]
  have absent : key ∉ (OrderedDict.empty : Record).keys := by simp [OrderedDict.keys,OrderedDict.empty]
  rw [preparePostgresRecord,folded]
  simp only [absent,or_false]
  exact Iff.rfl

namespace PipelineOrchestrator
open Effect
variable {W : Type}

-- What the feature stage leaves in a record it passes on, whatever happened.
def FeatureMarked (record : Record) : Prop :=
  "_feature_count" ∈ record.keys ∨ "_feature_engineering_error" ∈ record.keys

def Passes (good : Record → Prop) (out : Option Record) : Prop := ∀ record, out = some record → good record

theorem FeatureMarked.set (marked : FeatureMarked record) (key : String) (v : Value) :
    FeatureMarked (OrderedDict.set record key v) :=
  marked.imp (fun found => (OrderedDict.mem_keys_set _ _ _ _).mpr (.inr found))
    fun found => (OrderedDict.mem_keys_set _ _ _ _).mpr (.inr found)

theorem FeatureMarked.merge (marked : FeatureMarked record) (report : Option Record) :
    FeatureMarked (merge record report) := by
  cases report with
  | none => exact marked
  | some changes =>
    exact marked.imp (fun found => (OrderedDict.mem_keys_update _ _ _).mpr (.inr found))
      fun found => (OrderedDict.mem_keys_update _ _ _).mpr (.inr found)

theorem handleStageError_passes {good : Record → Prop} (p : PipelineOrchestrator W) (stage : String) (record : Record)
    (error : String) (mark : good (record.set ("_" ++ stage ++ "_error") (.str error))) :
    Yields (Passes good) (handleStageError p stage record error) := by
  unfold handleStageError
  split
  · refine yields_bind fun _ => yields_pure ?_
    intro r absurdity
    cases absurdity
  · refine yields_pure ?_
    intro r same
    cases same
    exact mark

theorem runFeatureEngineering_marks (p : PipelineOrchestrator W) (record : Record) :
    Yields (Passes FeatureMarked) (runFeatureEngineering p record) := by
  have skipped : ∀ error, FeatureMarked (record.set ("_" ++ PipelineStage.featureEngineering.value ++ "_error")
      (.str error)) := fun error => .inr ((OrderedDict.mem_keys_set _ _ _ _).mpr (.inl rfl))
  refine yields_bind fun start => Yields.attempt ?_ fun e => handleStageError_passes _ _ _ _ (skipped e)
  refine yields_bind fun result => yields_bind fun now => ?_
  split
  · exact yields_bind fun _ => handleStageError_passes _ _ _ _ (skipped _)
  · refine yields_bind fun _ => yields_pure ?_
    intro r same
    cases same
    exact .inl ((OrderedDict.mem_keys_set _ _ _ _).mpr (.inl rfl))

theorem mergeReports_marked (steps : List (Record → Pipeline W (Option Record))) (marked : FeatureMarked record)
    (s : PipelineState W) : FeatureMarked (mergeReports steps record s).1.1 := by
  induction steps generalizing record s with
  | nil => exact marked
  | cons step rest ih =>
    rcases ran : step record s with ⟨outcome,t⟩
    cases outcome with
    | error e => simpa only [mergeReports,ran] using marked
    | ok report =>
      simp only [mergeReports,ran]
      exact ih (marked.merge report) t

theorem runEnrichment_marked (p : PipelineOrchestrator W) (marked : FeatureMarked record) :
    Yields (Passes FeatureMarked) (runEnrichment p record) := by
  have merging : Yields (fun merged : Record × Option String => FeatureMarked merged.1) (mergeAll p record) := by
    intro s merged t ran
    cases ran
    exact mergeReports_marked _ marked s
  rw [runEnrichment_eq]
  refine yields_bind fun start => merging.bind fun merged kept => ?_
  obtain ⟨left,raised⟩ := merged
  cases raised with
  | some e => exact handleStageError_passes _ _ _ _ (kept.set _ _)
  | none =>
    refine yields_bind fun now => yields_bind fun _ => yields_pure ?_
    intro r same
    cases same
    exact kept.set _ _

def SuccessMarked (result : PipelineResult) : Prop := result.success = true → FeatureMarked result.record

theorem orFail_passes {good : Record → Prop} {p : PipelineOrchestrator W} {ran : Pipeline W (Option Record)}
    {next : Record → Pipeline W PipelineResult} (stage : Yields (Passes good) ran)
    (rest : ∀ record, good record → Yields SuccessMarked (next record)) :
    Yields SuccessMarked (orFail p txnId place error start ran next) := by
  refine stage.bind fun outcome passed => ?_
  cases outcome with
  | none =>
    refine yields_bind fun now => yields_pure ?_
    intro success
    cases success
  | some record => exact rest record (passed record rfl)

theorem anything_passes (ran : Pipeline W (Option Record)) : Yields (Passes fun _ => True) ran :=
  fun _ _ _ _ _ _ => trivial

theorem processRecord_marked_success (p : PipelineOrchestrator W) (record : Record) :
    Yields SuccessMarked (processRecord p record) := by
  refine yields_bind fun start => yields_bind fun txnId => Yields.attempt ?_ fun e => ?_
  · refine orFail_passes (anything_passes _) fun record _ => orFail_passes (anything_passes _) fun record _ => ?_
    refine orFail_passes (anything_passes _) fun record _ => orFail_passes (anything_passes _) fun record _ => ?_
    refine orFail_passes (runFeatureEngineering_marks p record) fun record marked => ?_
    refine orFail_passes (runEnrichment_marked p marked) fun record marked => ?_
    exact yields_bind fun stamp => yields_bind fun now => yields_pure fun _ => (marked.set _ _).set _ _
  · refine yields_bind fun now => yields_bind fun _ => yields_pure ?_
    intro success
    cases success

theorem featureMarks_unmapped : ∀ key ∈ ["_feature_count","_feature_engineering_error"],
    internal key = false ∧ key ∉ transactionColumns := by decide +kernel

-- Whatever record process_record reports success with: the mark of the feature
-- stage has none of the stripped prefixes and is not a column.
theorem prepared_record_unmapped (p : PipelineOrchestrator W) (record : Record) (s t : PipelineState W)
    (result : PipelineResult) (ran : processRecord p record s = (.ok result,t)) (success : result.success = true) :
    ¬∀ key ∈ (preparePostgresRecord result.record).keys, key ∈ transactionColumns := by
  intro mapped
  rcases processRecord_marked_success p record s result t ran success with counted | skipped
  · obtain ⟨kept,other⟩ := featureMarks_unmapped "_feature_count" (by simp)
    exact other (mapped _ ((mem_prepared _ _).mpr ⟨counted,kept⟩))
  · obtain ⟨kept,other⟩ := featureMarks_unmapped "_feature_engineering_error" (by simp)
    exact other (mapped _ ((mem_prepared _ _).mpr ⟨skipped,kept⟩))

-- A purchase with the columns' own fields only.
def purchase : Record :=
  .ofList [("external_transaction_id",.str "t-1001"),("account_id",.str "a-77"),("customer_id",.str "c-9"),
    ("transaction_amount",.str "125.50"),("transaction_currency",.str "USD"),("transaction_type",.str "purchase"),
    ("channel",.str "online"),("transaction_timestamp",.str "2026-01-15T10:30:00Z")]

theorem prepared_purchase_unmapped : ∃ result t,
    processRecord (W:=Unit) accepting purchase (.start ()) = (.ok result,t) ∧ result.success = true ∧
      ¬∀ key ∈ (preparePostgresRecord result.record).keys, key ∈ transactionColumns :=
  ⟨_,_,rfl,rfl,prepared_record_unmapped accepting purchase (.start ()) _ _ rfl rfl⟩

theorem purchase_not_constructible : ∃ result t,
    processRecord (W:=Unit) accepting purchase (.start ()) = (.ok result,t) ∧ result.success = true ∧
      "_feature_count" ∈ (preparePostgresRecord result.record).keys ∧ "_feature_count" ∉ transactionColumns :=
  ⟨_,_,rfl,rfl,by decide +kernel,by decide +kernel⟩

end PipelineOrchestrator
end RiskPulse
