import RiskPulse.PipelineStages

namespace RiskPulse

inductive Enricher where
  | geo
  | device
  | merchant
  | velocity
  deriving DecidableEq

-- The keys each enricher reports, in the order its to_dict writes them.
def Enricher.fields : Enricher → List String
  | .geo => ["geo_country_code","geo_country_name","geo_city","geo_latitude","geo_longitude","geo_is_vpn",
      "geo_is_proxy","geo_is_tor","geo_distance_from_home_miles","geo_country_risk_score","geo_is_high_risk_country",
      "geo_travel_speed_mph","geo_is_impossible_travel"]
  | .device => ["device_id","device_type","device_fingerprint_hash","device_os_family","device_browser_family",
      "device_is_emulator","device_is_rooted","device_is_known","device_age_days","device_is_new","device_trust_score",
      "device_accounts_count","device_is_multi_account","device_transactions_count","device_risk_score"]
  | .merchant => ["merchant_id","merchant_name","merchant_mcc","merchant_category_name","merchant_risk_category",
      "merchant_mcc_risk_score","merchant_fraud_rate","merchant_is_high_fraud","merchant_is_new","merchant_age_days",
      "merchant_risk_score"]
  | .velocity => ["velocity_txn_count_1min","velocity_txn_count_5min","velocity_txn_count_1hour",
      "velocity_txn_count_24hour","velocity_amount_sum_1min","velocity_amount_sum_5min","velocity_amount_sum_1hour",
      "velocity_amount_sum_24hour","velocity_unique_merchants_1hour","velocity_unique_merchants_24hour",
      "velocity_avg_amount_1hour","velocity_max_amount_1hour","velocity_risk_score","velocity_breach_count",
      "velocity_has_warning","velocity_has_critical","velocity_breaches"]

theorem Enricher.fields_apart (a b : Enricher) (different : a ≠ b) : ∀ key ∈ a.fields, key ∉ b.fields := by
  cases a <;> cases b
  all_goals first
    | exact absurd rfl different
    | decide +kernel

def blank (key : String) (value : Value) : List String := if value = .none then [key] else []

-- The fields a successful result reports as None: all of a lookup that found
-- nothing, and what was missing in one that did.
def GeoEnrichmentResult.blanks (result : GeoEnrichmentResult) : List String :=
  (match result.location with
    | none => ["geo_country_code","geo_country_name","geo_city","geo_latitude","geo_longitude"]
    | some location => blank "geo_country_code" location.countryCode ++
        blank "geo_country_name" location.countryName ++ blank "geo_city" location.city) ++
    (if result.distanceFromHomeMiles.isNone then ["geo_distance_from_home_miles"] else []) ++
    (if result.travelSpeedMph.isNone then ["geo_travel_speed_mph"] else [])

def DeviceEnrichmentResult.blanks (result : DeviceEnrichmentResult) : List String :=
  (match result.deviceInfo with
    | none => ["device_id","device_fingerprint_hash","device_os_family","device_browser_family"]
    | some info => blank "device_id" info.deviceId ++ blank "device_os_family" info.osFamily ++
        blank "device_browser_family" info.browserFamily ++ blank "device_is_emulator" info.isEmulator ++
        blank "device_is_rooted" info.isRooted) ++
    (if result.deviceAgeDays.isNone then ["device_age_days"] else [])

def MerchantEnrichmentResult.blanks (result : MerchantEnrichmentResult) : List String :=
  (match result.merchantInfo with
    | none => ["merchant_id","merchant_name","merchant_mcc","merchant_category_name"]
    | some info => blank "merchant_id" info.merchantId ++ blank "merchant_name" info.merchantName ++
        blank "merchant_mcc" info.mcc ++ blank "merchant_category_name" info.categoryName ++
        blank "merchant_risk_category" info.riskCategory) ++
    (if result.merchantAgeDays.isNone then ["merchant_age_days"] else [])

theorem mem_blank : key ∈ blank field value ↔ key = field ∧ .none = value := by
  unfold blank
  split <;> simp_all [eq_comm]

theorem GeoEnrichmentResult.toDict_keys (result : GeoEnrichmentResult) (key : String) :
    key ∈ result.toDict.keys ↔ key ∈ Enricher.geo.fields := OrderedDict.mem_keys_ofList _ key

theorem DeviceEnrichmentResult.toDict_keys (result : DeviceEnrichmentResult) (key : String) :
    key ∈ result.toDict.keys ↔ key ∈ Enricher.device.fields := OrderedDict.mem_keys_ofList _ key

theorem MerchantEnrichmentResult.toDict_keys (result : MerchantEnrichmentResult) (key : String) :
    key ∈ result.toDict.keys ↔ key ∈ Enricher.merchant.fields := OrderedDict.mem_keys_ofList _ key

theorem VelocityResult.toDict_keys (result : VelocityResult) (key : String) :
    key ∈ result.toDict.keys ↔ key ∈ Enricher.velocity.fields := by
  unfold toDict VelocityMetrics.toDict
  rw [OrderedDict.mem_keys_update,OrderedDict.mem_keys_ofList,OrderedDict.mem_keys_ofList,or_comm,← List.mem_append]
  exact Iff.rfl

theorem GeoEnrichmentResult.toDict_blank (result : GeoEnrichmentResult) (key : String) :
    (key ∈ result.toDict.keys ∧ Record.value result.toDict key = .none) ↔ key ∈ result.blanks := by
  unfold toDict
  rw [Record.ofList_blank _ (by simp only [List.map_cons,List.map_nil]; decide +kernel)]
  obtain ⟨location,distance,_,_,speed,_,_⟩ := result
  unfold blanks optionalFloat
  cases location <;> cases distance <;> cases speed <;> simp [mem_blank]

theorem DeviceEnrichmentResult.toDict_blank (result : DeviceEnrichmentResult) (key : String) :
    (key ∈ result.toDict.keys ∧ Record.value result.toDict key = .none) ↔ key ∈ result.blanks := by
  unfold toDict
  rw [Record.ofList_blank _ (by simp only [List.map_cons,List.map_nil]; decide +kernel)]
  obtain ⟨info,_,age,_,_,_,_,_,_,_⟩ := result
  unfold blanks optionalFloat
  cases info <;> cases age <;> simp [mem_blank]

theorem MerchantEnrichmentResult.toDict_blank (result : MerchantEnrichmentResult) (key : String) :
    (key ∈ result.toDict.keys ∧ Record.value result.toDict key = .none) ↔ key ∈ result.blanks := by
  unfold toDict
  rw [Record.ofList_blank _ (by simp only [List.map_cons,List.map_nil]; decide +kernel)]
  obtain ⟨info,_,_,_,_,age,_,_⟩ := result
  unfold blanks optionalFloat
  cases info <;> cases age <;> simp [mem_blank]

theorem VelocityResult.toDict_blank (result : VelocityResult) (key : String)
    (written : key ∈ result.toDict.keys) : Record.value result.toDict key ≠ .none := by
  intro none
  unfold toDict at written none
  rw [Record.value_update] at none
  split at none
  · rename_i own
    have entry := (Record.ofList_blank _ (by simp only [List.map_cons,List.map_nil]; decide +kernel) key).mp ⟨own,none⟩
    simp at entry
  · rename_i other
    have own := ((OrderedDict.mem_keys_update _ _ _).mp written).resolve_left other
    have entry := (Record.ofList_blank _ (by simp only [List.map_cons,List.map_nil]; decide +kernel) key).mp ⟨own,none⟩
    simp at entry

namespace Observation

def enricher? : Observation → Option Enricher
  | .geoEnriched _ _ => some .geo
  | .deviceEnriched _ _ => some .device
  | .merchantEnriched _ _ => some .merchant
  | .velocityEvaluated _ _ => some .velocity
  | _ => none

-- What the enrichment stage merges of a call: the report of a successful result.
def report? : Observation → Option Record
  | .geoEnriched _ (.ok result) => if result.isSuccess then some result.toDict else none
  | .deviceEnriched _ (.ok result) => if result.isSuccess then some result.toDict else none
  | .merchantEnriched _ (.ok result) => if result.isSuccess then some result.toDict else none
  | .velocityEvaluated _ (.ok result) => if result.isSuccess then some result.toDict else none
  | _ => none

def blanks : Observation → List String
  | .geoEnriched _ (.ok result) => if result.isSuccess then result.blanks else []
  | .deviceEnriched _ (.ok result) => if result.isSuccess then result.blanks else []
  | .merchantEnriched _ (.ok result) => if result.isSuccess then result.blanks else []
  | _ => []

-- Every report writes the fields of its enricher, and its blanks are the ones
-- it writes None to.
theorem report_parts (call : Observation) (reported : call.report? = some report) :
    (∃ kind, call.enricher? = some kind ∧ ∀ key, key ∈ report.keys ↔ key ∈ kind.fields) ∧
      ∀ key, (key ∈ report.keys ∧ Record.value report key = .none) ↔ key ∈ call.blanks := by
  cases call with
  | geoEnriched _ outcome | deviceEnriched _ outcome | merchantEnriched _ outcome =>
    cases outcome with
    | error e => cases reported
    | ok result =>
      simp only [report?,Option.ite_none_right_eq_some,Option.some.injEq] at reported
      obtain ⟨success,rfl⟩ := reported
      exact ⟨⟨_,rfl,result.toDict_keys⟩,fun key => by rw [result.toDict_blank]; simp [blanks,success]⟩
  | velocityEvaluated _ outcome =>
    cases outcome with
    | error e => cases reported
    | ok result =>
      simp only [report?,Option.ite_none_right_eq_some,Option.some.injEq] at reported
      obtain ⟨success,rfl⟩ := reported
      refine ⟨⟨.velocity,rfl,result.toDict_keys⟩,fun key => ?_⟩
      simp only [blanks,List.not_mem_nil,iff_false]
      rintro ⟨written,none⟩
      exact result.toDict_blank key written none
  | _ => cases reported

theorem blanks_reported (call : Observation) (blank : key ∈ call.blanks) : ∃ report, call.report? = some report := by
  cases call with
  | geoEnriched _ outcome | deviceEnriched _ outcome | merchantEnriched _ outcome =>
    cases outcome with
    | error e => cases blank
    | ok result =>
      cases success : result.isSuccess with
      | true => exact ⟨_,by simp only [report?,success,if_true]; rfl⟩
      | false => simp [blanks,success] at blank
  | _ => cases blank

end Observation

def ReportsApart (calls : List Observation) : Prop :=
  calls.Pairwise fun first second => ∀ a, first.report? = some a → ∀ b, second.report? = some b →
    ∀ key ∈ a.keys, key ∉ b.keys

theorem reports_apart (calls : List Observation) (once : (calls.map Observation.enricher?).Nodup) :
    ReportsApart calls := by
  refine (List.pairwise_map.mp once).imp ?_
  intro first second different a reported b other key written
  obtain ⟨⟨kind,ofFirst,fields⟩,_⟩ := first.report_parts reported
  obtain ⟨⟨kind',ofSecond,fields'⟩,_⟩ := second.report_parts other
  have apart : kind ≠ kind' := by
    rintro rfl
    exact different (ofFirst.trans ofSecond.symm)
  rw [fields']
  exact kind.fields_apart kind' apart key ((fields key).mp written)

namespace PipelineOrchestrator
open Effect
variable {W : Type}

def ReportStep (kind : Enricher) (step : Record → Pipeline W (Option Record)) : Prop :=
  ∀ record s, ∃ call, (step record s).2.seen = s.seen ++ [call] ∧ call.enricher? = some kind ∧
    (step record s).2.dlq = s.dlq ∧
    ((∃ e, (step record s).1 = .error e ∧ call.report? = none) ∨ (step record s).1 = .ok call.report?)

theorem oneReport (component : Component W Record β) (observe : Record → Except String β → Observation)
    (report : β → Option Record) (of : ∀ r out, (observe r out).enricher? = some kind)
    (given : ∀ r b, (observe r (.ok b)).report? = report b) (raised : ∀ r e, (observe r (.error e)).report? = none) :
    ReportStep kind fun record => callComponent component record (observe record) >>= fun b => pure (report b) := by
  intro record s
  beta_reduce
  have called := callComponent_run component record (observe record) s
  rcases outcome : (component record s.world).1 with e | b
  · rw [outcome] at called
    rw [bind_error _ called]
    exact ⟨_,rfl,of _ _,rfl,.inl ⟨e,rfl,raised _ _⟩⟩
  · rw [outcome] at called
    rw [bind_ok _ called]
    exact ⟨_,rfl,of _ _,rfl,.inr (by rw [given]; rfl)⟩

theorem enrichers_report (p : PipelineOrchestrator W) :
    List.Forall₂ ReportStep [.geo,.device,.merchant,.velocity] (enrichers p) := by
  refine .cons ?_ (.cons ?_ (.cons ?_ (.cons ?_ .nil)))
  · exact oneReport p.geoEnricher .geoEnriched _ (fun _ _ => rfl) (fun _ _ => rfl) fun _ _ => rfl
  · exact oneReport p.deviceEnricher .deviceEnriched _ (fun _ _ => rfl) (fun _ _ => rfl) fun _ _ => rfl
  · exact oneReport p.merchantEnricher .merchantEnriched _ (fun _ _ => rfl) (fun _ _ => rfl) fun _ _ => rfl
  · exact oneReport p.velocityCalculator .velocityEvaluated _ (fun _ _ => rfl) (fun _ _ => rfl) fun _ _ => rfl

-- By induction on the enrichers still to come: the record they leave is the old
-- one with the reports of the calls made written over it in order.
theorem mergeReports_merged {kinds : List Enricher} {steps : List (Record → Pipeline W (Option Record))}
    (each : List.Forall₂ ReportStep kinds steps) (record : Record) (s : PipelineState W) :
    ∃ calls, (mergeReports steps record s).2.seen = s.seen ++ calls ∧ (mergeReports steps record s).2.dlq = s.dlq ∧
      (mergeReports steps record s).1.1 = (calls.filterMap Observation.report?).foldl OrderedDict.update record ∧
      calls.map Observation.enricher? <+: kinds.map some := by
  induction each generalizing record s with
  | nil => exact ⟨[],by simp [mergeReports],rfl,rfl,List.prefix_refl _⟩
  | @cons kind step kinds steps first rest ih =>
    obtain ⟨call,seen,ofKind,letters,outcome⟩ := first record s
    rcases ran : step record s with ⟨answer,t⟩
    rw [ran] at seen letters outcome
    rcases outcome with ⟨e,raised,unreported⟩ | reported
    · simp only at raised
      subst raised
      simp only [mergeReports,ran]
      refine ⟨[call],seen,letters,by simp [unreported],?_⟩
      simp [ofKind]
    · simp only at reported
      subst reported
      obtain ⟨calls,further,same,merged,kindsSeen⟩ := ih (merge record call.report?) t
      simp only [mergeReports,ran]
      have start : t.seen = s.seen ++ [call] := seen
      refine ⟨call :: calls,by rw [further,start,List.append_assoc]; rfl,Eq.trans same letters,?_,?_⟩
      · rw [merged]
        cases reports : call.report? with
        | none => simp [merge,reports]
        | some report => simp [merge,reports]
      · simpa [ofKind] using kindsSeen

def HandsOn (s : PipelineState W) (out : Option Record) (t : PipelineState W) (after : Record) : Prop :=
  out = some after ∨ (out = none ∧ ∃ entry, t.dlq = s.dlq ++ [entry] ∧ entry.originalRecord = after)

-- Past the merging the stage only writes a mark of its own, never None.
def LeftAs (left after : Record) : Prop :=
  after = left ∨ ∃ mark v, after = left.set mark v ∧ v ≠ .none ∧ ∀ kind : Enricher, mark ∉ kind.fields

theorem handleStageError_hands (p : PipelineOrchestrator W) (left : Record) (error : String) (s : PipelineState W) :
    ∃ out t after, handleStageError p PipelineStage.enrichment.value left error s = (.ok out,t) ∧ t.seen = s.seen ∧
      HandsOn s out t after ∧ LeftAs left after := by
  unfold handleStageError
  split
  · obtain ⟨w,routed⟩ := routeToDlq_run p left PipelineStage.enrichment.value error s
    exact ⟨none,_,left,bind_ok _ routed,rfl,.inr ⟨rfl,_,rfl,rfl⟩,.inl rfl⟩
  · refine ⟨_,s,_,rfl,rfl,.inl rfl,.inr ⟨_,_,rfl,by simp,?_⟩⟩
    intro kind
    cases kind <;> decide +kernel

theorem runEnrichment_hands (p : PipelineOrchestrator W) (record : Record) (s : PipelineState W) :
    ∃ out t after calls, runEnrichment p record s = (.ok out,t) ∧ t.seen = s.seen ++ calls ∧ HandsOn s out t after ∧
      LeftAs ((calls.filterMap Observation.report?).foldl OrderedDict.update record) after ∧
      (calls.map Observation.enricher?).Nodup := by
  obtain ⟨calls,seen,letters,merged,kinds⟩ := mergeReports_merged (enrichers_report p) record s
  have once : (calls.map Observation.enricher?).Nodup := kinds.sublist.nodup (by decide)
  rcases outcome : mergeReports (enrichers p) record s with ⟨⟨left,raised⟩,u⟩
  rw [outcome] at seen letters merged
  have ran : mergeAll p record s = (.ok (left,raised),u) := by rw [mergeAll,outcome]
  have same : left = _ := merged
  rw [runEnrichment_eq,clock,read_bind,bind_ok _ ran]
  cases raised with
  | some e =>
    obtain ⟨out,t,after,handled,quiet,hands,leftAs⟩ := handleStageError_hands p left e u
    refine ⟨out,t,after,calls,handled,Eq.trans quiet seen,?_,by rw [← same]; exact leftAs,once⟩
    have start : u.dlq = s.dlq := letters
    unfold HandsOn at hands ⊢
    rwa [start] at hands
  | none =>
    have quiet := fun change => stageMetrics_seen (W:=W) PipelineStage.enrichment.value change u
    refine ⟨_,_,_,calls,rfl,Eq.trans (quiet _) seen,.inl rfl,.inr ⟨_,_,by rw [← same],by simp,?_⟩,once⟩
    intro kind
    cases kind <;> decide +kernel

theorem leftAs_known (leftAs : LeftAs left after) (known : Record.known left key) : Record.known after key := by
  rcases leftAs with rfl | ⟨mark,v,rfl,some,_⟩
  · exact known
  · unfold Record.known at known ⊢
    rw [Record.value_set]
    split
    · exact some
    · exact known

theorem leftAs_value (leftAs : LeftAs left after) (kind : Enricher) (field : key ∈ kind.fields) :
    Record.value after key = Record.value left key := by
  rcases leftAs with rfl | ⟨mark,v,rfl,_,other⟩
  · rfl
  · rw [Record.value_set,if_neg]
    rintro rfl
    exact other kind field

-- The exact condition, for every record and every outcome of the enrichers: no
-- merged report leaves None a field that the record knows.
theorem enrichment_preserves (p : PipelineOrchestrator W) (record : Record) (s : PipelineState W) :
    ∃ out t after calls, runEnrichment p record s = (.ok out,t) ∧ t.seen = s.seen ++ calls ∧ HandsOn s out t after ∧
      ReportsApart calls ∧
      ((∀ key, Record.known record key → Record.known after key) ↔
        ∀ call ∈ calls, ∀ key ∈ call.blanks, ¬Record.known record key) := by
  obtain ⟨out,t,after,calls,ran,seen,hands,leftAs,once⟩ := runEnrichment_hands p record s
  have apart := reports_apart calls once
  have separate : (calls.filterMap Observation.report?).Pairwise fun a b => ∀ key ∈ a.keys, key ∉ b.keys :=
    List.pairwise_filterMap.mpr apart
  refine ⟨out,t,after,calls,ran,seen,hands,apart,?_⟩
  constructor
  · -- a blank field of a merged report ends as None, so it was not known before
    intro kept call member key blank known
    obtain ⟨report,reported⟩ := call.blanks_reported blank
    obtain ⟨⟨kind,_,fields⟩,blanks⟩ := call.report_parts reported
    obtain ⟨written,none⟩ := (blanks key).mpr blank
    have merged := Record.value_updates _ record separate (List.mem_filterMap.mpr ⟨call,member,reported⟩) written
    have lost : Record.value after key = .none := by
      rw [leftAs_value leftAs kind ((fields key).mp written),merged,none]
    exact kept key known lost
  · intro unblanked key known
    refine leftAs_known leftAs ?_
    by_cases written : ∃ report ∈ calls.filterMap Observation.report?, key ∈ report.keys
    · obtain ⟨report,member,writes⟩ := written
      obtain ⟨call,called,reported⟩ := List.mem_filterMap.mp member
      obtain ⟨_,blanks⟩ := call.report_parts reported
      unfold Record.known
      rw [Record.value_updates _ record separate member writes]
      intro none
      exact unblanked call called key ((blanks key).mp ⟨writes,none⟩) known
    · have unwritten : ∀ report ∈ calls.filterMap Observation.report?, key ∉ report.keys :=
        fun report member writes => written ⟨report,member,writes⟩
      unfold Record.known
      rw [Record.value_updates_other _ record key unwritten]
      exact known

-- The geo enricher on a record without coordinates: it succeeds and locates nothing.
def unlocated : PipelineOrchestrator Unit :=
  {accepting with geoEnricher := answer ⟨none,none,.finite 0,false,none,false,none⟩}

def cityOnly : Record := .ofList [("external_transaction_id",.str "t-1001"),("geo_city",.str "Lyon")]

theorem enrichment_clears_city :
    ∃ out t, runEnrichment unlocated cityOnly (.start ()) = (.ok (some out),t) ∧
      Record.known cityOnly "geo_city" ∧ ¬Record.known out "geo_city" :=
  ⟨_,_,rfl,by decide +kernel,by decide +kernel⟩

end PipelineOrchestrator
end RiskPulse
