import RiskPulse.AnomalyDetector
import RiskPulse.Library.Fallible

namespace RiskPulse

structure AnomalyVerdict where
  anomalyScore : PyFloat
  isAnomaly : Bool
  confidence : PyFloat
  deriving DecidableEq

def AnomalyDetection.verdict (r : AnomalyDetection) : AnomalyVerdict := ⟨r.anomalyScore,r.isAnomaly,r.confidence⟩

namespace AnomalyDetector
variable (d : AnomalyDetector) (h : AnomalyHost)

def fitted (model : Forest) (scaler : FrameScaler) : AnomalyDetector := {d with artifacts := some (model,scaler)}

-- What is stored of a detector and loaded again gives each transaction the same verdict.
def RoundTrips : Prop := ∀ features,
  Fallible.Same ((d.save h >>= load h >>= fun loaded => loaded.predict h features).map AnomalyDetection.verdict)
    ((d.predict h features).map AnomalyDetection.verdict)

-- A transaction gets the same verdict alone and as the one row of a frame.
def BatchAgrees (features : Record) : Prop :=
  Fallible.Same ((d.predict h features).map fun r => [r.verdict])
    ((d.predictBatch h (.one features)).map (List.map AnomalyDetection.verdict))

-- float() and to_numeric read the value as the same number, where what the one refuses and
-- what is nan for the other counts as 0.
def ReadAlike (v : Value) : Prop := ∃ x, readFloat h v = .ok x ∧ (h.toNumeric v).map fillna = .ok x

def Given (features : Record) (v : Value) : Prop := ∃ name ∈ d.featureNames, features.get? name = some v

-- Either the transaction has some of the features, each of them once and each value read
-- alike, or both paths raise on its values.
def ReadsAlike (features : Record) : Prop :=
  (d.featureNames.Nodup ∧ (∃ v, d.Given features v) ∧ ∀ v, d.Given features v → ReadAlike h v) ∨
    (∃ v, d.Given features v ∧ h.float v = .error .overflow) ∧ ∃ v e, d.Given features v ∧ h.toNumeric v = .error e

def judge (rawScore : PyFloat) : AnomalyVerdict :=
  ⟨clipSigned rawScore,d.decideAnomaly rawScore (clipSigned rawScore),computeConfidence (clipSigned rawScore)⟩

variable {d h}

theorem contribution_returns (rawVector deviations : Row) (idx : Nat) (named : idx < d.featureNames.length)
    (valued : idx < rawVector.length) : ∃ found, d.contribution rawVector deviations idx = .ok found := by
  unfold contribution
  split
  · rw [List.getElem?_eq_getElem named,List.getElem?_eq_getElem valued]
    exact ⟨_,rfl⟩
  · exact ⟨_,rfl⟩

-- The explanation never raises: the scaler gives as many numbers as there are names.
theorem identify_returns (rawVector scaledVector : Row) (raw : rawVector.length = d.featureNames.length)
    (scaled : scaledVector.length = d.featureNames.length) :
    ∃ found, d.identifyContributingFeatures h rawVector scaledVector = .ok found := by
  unfold identifyContributingFeatures
  have each : ∃ parts, (((h.argsort (scaledVector.map PyFloat.abs)).reverse.take 5).mapM
      (d.contribution rawVector (scaledVector.map PyFloat.abs))) = .ok parts := by
    apply (Fallible.mapM_succeeds _).mpr
    intro idx member
    have inside := h.inside (List.mem_reverse.mp (List.mem_of_mem_take member))
    rw [List.length_map,scaled] at inside
    exact contribution_returns _ _ idx inside (raw ▸ inside)
  obtain ⟨parts,made⟩ := each
  exact ⟨parts.flatten,Fallible.map_ok.mpr ⟨parts,made,rfl⟩⟩

-- What the scaler is given on each path.
def singleRow (d : AnomalyDetector) (h : AnomalyHost) (features : Record) : Except String FrameRow :=
  (d.extractFeatureVector h features).map d.featureNames.zip

def batchRow (d : AnomalyDetector) (h : AnomalyHost) (features : Record) : Except String FrameRow :=
  if d.featureNames.filter (fun f => f ∈ features.keys) = [] then .error "No matching features found."
  else d.selectRow h features.keys features

theorem predict_exact (model : Forest) (scaler : FrameScaler) (features : Record) (v : AnomalyVerdict) :
    ((d.fitted model scaler).predict h features).map AnomalyDetection.verdict = .ok v ↔
      ∃ row, d.singleRow h features = .ok row ∧ ∃ xScaled, scaler.transform row = .ok xScaled ∧
        ∃ raw, model xScaled = .ok raw ∧ v = d.judge raw := by
  rw [Fallible.map_ok]
  constructor
  · intro ⟨r,ran,same⟩
    obtain ⟨artifacts,held,ran⟩ := Fallible.bind_ok.mp ran
    cases held
    obtain ⟨vector,read,ran⟩ := Fallible.bind_ok.mp ran
    obtain ⟨xScaled,scaled,ran⟩ := Fallible.bind_ok.mp ran
    obtain ⟨raw,scored,ran⟩ := Fallible.bind_ok.mp ran
    obtain ⟨contributing,_,ran⟩ := Fallible.bind_ok.mp ran
    cases ran
    exact ⟨_,Fallible.map_ok.mpr ⟨vector,read,rfl⟩,xScaled,scaled,raw,scored,same⟩
  · intro ⟨row,single,xScaled,scaled,raw,scored,same⟩
    obtain ⟨vector,read,zipped⟩ := Fallible.map_ok.mp single
    subst zipped
    have count := (Fallible.mapM_ok read).length_eq.symm
    have width := scaler.width scaled
    rw [List.length_zip,count,Nat.min_self] at width
    obtain ⟨contributing,found⟩ := identify_returns (d := d.fitted model scaler) (h := h) vector xScaled count width
    exact ⟨_,Fallible.bind_ok.mpr ⟨_,rfl,Fallible.bind_ok.mpr ⟨vector,read,Fallible.bind_ok.mpr ⟨xScaled,scaled,
      Fallible.bind_ok.mpr ⟨raw,scored,Fallible.bind_ok.mpr ⟨contributing,found,rfl⟩⟩⟩⟩⟩,same⟩

theorem selected_one (features : Record) (rows : List FrameRow) :
    d.selectFeatures h (.one features) = .ok rows ↔ ∃ row, d.batchRow h features = .ok row ∧ rows = [row] := by
  unfold selectFeatures batchRow Frame.one
  simp only
  split
  · simp
  · exact Fallible.mapM_one

theorem batch_exact (model : Forest) (scaler : FrameScaler) (features : Record) (verdicts : List AnomalyVerdict) :
    ((d.fitted model scaler).predictBatch h (.one features)).map (List.map AnomalyDetection.verdict) = .ok verdicts ↔
      ∃ row, d.batchRow h features = .ok row ∧ ∃ xScaled, scaler.transform row = .ok xScaled ∧
        ∃ raw, model xScaled = .ok raw ∧ verdicts = [d.judge raw] := by
  rw [Fallible.map_ok]
  constructor
  · intro ⟨results,ran,same⟩
    obtain ⟨artifacts,held,ran⟩ := Fallible.bind_ok.mp ran
    cases held
    obtain ⟨rows,selected,ran⟩ := Fallible.bind_ok.mp ran
    obtain ⟨scaledRows,scaled,ran⟩ := Fallible.bind_ok.mp ran
    obtain ⟨raws,scored,ran⟩ := Fallible.bind_ok.mp ran
    obtain ⟨row,chosen,one⟩ := (selected_one features rows).mp selected
    subst one
    obtain ⟨xScaled,here,one⟩ := Fallible.mapM_one.mp scaled
    subst one
    obtain ⟨raw,there,one⟩ := Fallible.mapM_one.mp scored
    subst one
    cases ran
    exact ⟨row,chosen,xScaled,here,raw,there,same⟩
  · intro ⟨row,chosen,xScaled,here,raw,there,same⟩
    have selected := (selected_one features [row]).mpr ⟨row,chosen,rfl⟩
    have scaled : scaleFrame scaler [row] = .ok [xScaled] := Fallible.mapM_one.mpr ⟨xScaled,here,rfl⟩
    have scored : [xScaled].mapM model = .ok [raw] := Fallible.mapM_one.mpr ⟨raw,there,rfl⟩
    exact ⟨_,Fallible.bind_ok.mpr ⟨_,rfl,Fallible.bind_ok.mpr ⟨_,selected,Fallible.bind_ok.mpr ⟨_,scaled,
      Fallible.bind_ok.mpr ⟨_,scored,rfl⟩⟩⟩⟩,same⟩

-- What the two paths make of the value of a name, given or not.
def alone (h : AnomalyHost) (features : Record) (name : String) : Except String PyFloat :=
  readFloat h (features.getD name (.float (.finite 0)))

def inColumn (h : AnomalyHost) (features : Record) (name : String) : Except String PyFloat :=
  if name ∈ features.keys then (h.toNumeric (features.getD name (.float .nan))).map fillna else .ok (.finite 0)

theorem given_keys (features : Record) : (∃ v, d.Given features v) ↔ ∃ name ∈ d.featureNames, name ∈ features.keys := by
  constructor
  · intro ⟨v,name,member,found⟩
    exact ⟨name,member,(features.mem_keys name).mpr ⟨v,found⟩⟩
  · intro ⟨name,member,key⟩
    obtain ⟨v,found⟩ := (features.mem_keys name).mp key
    exact ⟨v,name,member,found⟩

theorem singleRow_exact (features : Record) (row : FrameRow) : d.singleRow h features = .ok row ↔
    ∃ vector, d.featureNames.mapM (alone h features) = .ok vector ∧ row = d.featureNames.zip vector := Fallible.map_ok

theorem selectRow_cells (features : Record) (cells : FrameRow) :
    d.featureNames.mapM (fun feat => if feat ∈ features.keys then
        (h.toNumeric (features.getD feat (.float .nan))).map fun x => (feat,fillna x) else .ok (feat,.finite 0)) = .ok cells ↔
      ∃ values, d.featureNames.mapM (inColumn h features) = .ok values ∧ cells = d.featureNames.zip values := by
  have step : (fun feat => if feat ∈ features.keys then
      (h.toNumeric (features.getD feat (.float .nan))).map fun x => (feat,fillna x) else .ok (feat,.finite 0)) =
      fun feat => (inColumn h features feat).map (Prod.mk feat) := by
    funext feat
    unfold inColumn
    split
    · cases h.toNumeric (features.getD feat (.float .nan)) <;> rfl
    · rfl
  rw [step]
  exact Fallible.mapM_with Prod.mk d.featureNames cells

theorem batchRow_exact (features : Record) (row : FrameRow) : d.batchRow h features = .ok row ↔
    (∃ v, d.Given features v) ∧ ∃ values, d.featureNames.mapM (inColumn h features) = .ok values ∧
      row = (OrderedDict.ofList (d.featureNames.zip values)).entries := by
  rw [given_keys]
  unfold batchRow
  split
  · rename_i absent
    refine ⟨fun came => (nomatch came),?_⟩
    intro ⟨⟨name,member,key⟩,_⟩
    have none : name ∉ d.featureNames.filter (fun f => f ∈ features.keys) := by
      rw [absent]
      exact List.not_mem_nil
    exact absurd (List.mem_filter.mpr ⟨member,by simpa using key⟩) none
  · rename_i some
    obtain ⟨name,found⟩ := List.exists_mem_of_ne_nil _ some
    obtain ⟨member,key⟩ := List.mem_filter.mp found
    unfold selectRow
    rw [Fallible.bind_ok]
    constructor
    · intro ⟨cells,made,last⟩
      obtain ⟨values,read,same⟩ := (selectRow_cells features cells).mp made
      subst same
      cases last
      exact ⟨⟨name,member,by simpa using key⟩,values,read,rfl⟩
    · intro ⟨_,values,read,same⟩
      exact ⟨_,(selectRow_cells features _).mpr ⟨values,read,rfl⟩,by rw [same]; rfl⟩

theorem zip_names {names : List String} {values : List PyFloat} (length : values.length = names.length) :
    (names.zip values).map Prod.fst = names := List.map_fst_zip length.ge

theorem alone_given {features : Record} (found : features.get? name = some v) : alone h features name = readFloat h v := by
  unfold alone
  rw [OrderedDict.getD,found,Option.getD_some]

theorem alone_missing {features : Record} (absent : features.get? name = none) : alone h features name = .ok (.finite 0) := by
  unfold alone readFloat
  rw [OrderedDict.getD,absent,Option.getD_none,h.floatFloat]

theorem inColumn_given {features : Record} (found : features.get? name = some v) :
    inColumn h features name = (h.toNumeric v).map fillna := by
  unfold inColumn
  rw [if_pos ((features.mem_keys name).mpr ⟨v,found⟩),OrderedDict.getD,found,Option.getD_some]

theorem inColumn_missing {features : Record} (absent : features.get? name = none) : inColumn h features name = .ok (.finite 0) :=
  if_neg ((features.get?_eq_none name).mp absent)

theorem readFloat_raises (v : Value) : (¬∃ x, readFloat h v = .ok x) ↔ h.float v = .error .overflow := by
  unfold readFloat
  constructor
  · intro never
    split at never
    · exact absurd ⟨_,rfl⟩ never
    · exact absurd ⟨_,rfl⟩ never
    · assumption
  · intro overflow
    rw [overflow]
    intro ⟨x,came⟩
    cases came

-- The value of a name is read alike on both paths, for a name that is not given as well.
theorem name_alike (features : Record) (name : String) :
    (∃ x, alone h features name = .ok x ∧ inColumn h features name = .ok x) ↔
      ∀ v, features.get? name = some v → ReadAlike h v := by
  cases found : features.get? name with
  | none =>
    rw [alone_missing found,inColumn_missing found]
    simp
  | some v =>
    rw [alone_given found,inColumn_given found]
    simp [ReadAlike]

theorem alone_raises (features : Record) (name : String) :
    (¬∃ x, alone h features name = .ok x) ↔ ∃ v, features.get? name = some v ∧ h.float v = .error .overflow := by
  cases found : features.get? name with
  | none =>
    rw [alone_missing found]
    simp
  | some v =>
    rw [alone_given found,readFloat_raises]
    simp

theorem inColumn_raises (features : Record) (name : String) :
    (¬∃ x, inColumn h features name = .ok x) ↔ ∃ v e, features.get? name = some v ∧ h.toNumeric v = .error e := by
  cases found : features.get? name with
  | none =>
    rw [inColumn_missing found]
    simp
  | some v =>
    rw [inColumn_given found]
    cases read : h.toNumeric v <;> simp [read,Except.map]

-- Both paths have the same row: the names come once each and every value is read alike.
theorem rows_same (features : Record) : (∃ row, d.singleRow h features = .ok row ∧ d.batchRow h features = .ok row) ↔
    d.featureNames.Nodup ∧ (∃ v, d.Given features v) ∧ ∀ v, d.Given features v → ReadAlike h v := by
  have given : (∀ v, d.Given features v → ReadAlike h v) ↔
      ∃ values, d.featureNames.mapM (alone h features) = .ok values ∧ d.featureNames.mapM (inColumn h features) = .ok values := by
    rw [Fallible.mapM_agree]
    constructor
    · intro alike name member
      exact (name_alike features name).mpr fun v found => alike v ⟨name,member,found⟩
    · intro alike v ⟨name,member,found⟩
      exact (name_alike features name).mp (alike name member) v found
  rw [given]
  constructor
  · intro ⟨row,single,batch⟩
    obtain ⟨vector,read,same⟩ := (singleRow_exact features row).mp single
    obtain ⟨present,values,column,other⟩ := (batchRow_exact features row).mp batch
    have vectorLength := (Fallible.mapM_ok read).length_eq.symm
    have valuesLength := (Fallible.mapM_ok column).length_eq.symm
    have unique : d.featureNames.Nodup := by
      have keys := (OrderedDict.ofList (d.featureNames.zip values)).unique
      rw [← other,same,zip_names vectorLength] at keys
      exact keys
    rw [OrderedDict.ofList_entries _ (by rw [zip_names valuesLength]; exact unique),same] at other
    have equal := congrArg (List.map Prod.snd) other
    rw [List.map_snd_zip vectorLength.le,List.map_snd_zip valuesLength.le] at equal
    exact ⟨unique,present,values,equal ▸ read,column⟩
  · intro ⟨unique,present,values,read,column⟩
    have length := (Fallible.mapM_ok read).length_eq.symm
    refine ⟨d.featureNames.zip values,(singleRow_exact features _).mpr ⟨values,read,rfl⟩,
      (batchRow_exact features _).mpr ⟨present,values,column,?_⟩⟩
    rw [OrderedDict.ofList_entries _ (by rw [zip_names length]; exact unique)]

theorem single_raises (features : Record) :
    (¬∃ row, d.singleRow h features = .ok row) ↔ ∃ v, d.Given features v ∧ h.float v = .error .overflow := by
  have reads : (∃ row, d.singleRow h features = .ok row) ↔ ∃ vector, d.featureNames.mapM (alone h features) = .ok vector := by
    simp only [singleRow_exact]
    exact ⟨fun ⟨_,vector,read,_⟩ => ⟨vector,read⟩,fun ⟨vector,read⟩ => ⟨_,vector,read,rfl⟩⟩
  rw [reads,Fallible.mapM_succeeds]
  constructor
  · intro never
    simp only [not_forall] at never
    obtain ⟨name,member,raises⟩ := never
    obtain ⟨v,found,overflow⟩ := (alone_raises features name).mp raises
    exact ⟨v,⟨name,member,found⟩,overflow⟩
  · intro ⟨v,⟨name,member,found⟩,overflow⟩ all
    exact (alone_raises features name).mpr ⟨v,found,overflow⟩ (all name member)

theorem batch_raises (features : Record) (present : ∃ v, d.Given features v) :
    (¬∃ row, d.batchRow h features = .ok row) ↔ ∃ v e, d.Given features v ∧ h.toNumeric v = .error e := by
  have reads : (∃ row, d.batchRow h features = .ok row) ↔ ∃ values, d.featureNames.mapM (inColumn h features) = .ok values := by
    simp only [batchRow_exact]
    exact ⟨fun ⟨_,_,values,read,_⟩ => ⟨values,read⟩,fun ⟨values,read⟩ => ⟨_,present,values,read,rfl⟩⟩
  rw [reads,Fallible.mapM_succeeds]
  constructor
  · intro never
    simp only [not_forall] at never
    obtain ⟨name,member,raises⟩ := never
    obtain ⟨v,e,found,refused⟩ := (inColumn_raises features name).mp raises
    exact ⟨v,e,⟨name,member,found⟩,refused⟩
  · intro ⟨v,e,⟨name,member,found⟩,refused⟩ all
    exact (inColumn_raises features name).mpr ⟨v,e,found,refused⟩ (all name member)

theorem rows_alike (features : Record) :
    Fallible.Same (d.singleRow h features) (d.batchRow h features) ↔ d.ReadsAlike h features := by
  rw [Fallible.same_cases,rows_same,single_raises]
  unfold ReadsAlike
  apply or_congr_right
  constructor
  · intro ⟨⟨v,given,overflow⟩,never⟩
    exact ⟨⟨v,given,overflow⟩,(batch_raises features ⟨v,given⟩).mp never⟩
  · intro ⟨⟨v,given,overflow⟩,refused⟩
    exact ⟨⟨v,given,overflow⟩,(batch_raises features ⟨v,given⟩).mpr refused⟩

-- A model of one row: it scores that row 1 and any other 0.
def marking (row : FrameRow) : FrameScaler where
  transform other := .ok (other.map fun _ => .finite (if other = row then 1 else 0))
  width := by
    intro other scaled made
    cases made
    exact List.length_map _

def firstColumn : Forest := fun xScaled => .ok (xScaled.headD (.finite 0))

theorem marked_score (row other : FrameRow) (xScaled : Row) (raw : PyFloat) (scaled : (marking row).transform other = .ok xScaled)
    (scored : firstColumn xScaled = .ok raw) (one : clipSigned raw = .finite 1) : other = row := by
  cases scaled
  cases scored
  cases other with
  | nil => cases one
  | cons cell rest =>
    by_contra apart
    simp only [if_neg apart,List.map_cons,List.headD_cons] at one
    cases one

theorem single_filled {features : Record} (made : d.singleRow h features = .ok row) : row ≠ [] := by
  obtain ⟨vector,read,same⟩ := (singleRow_exact features row).mp made
  intro empty
  apply d.named
  rw [← zip_names (Fallible.mapM_ok read).length_eq.symm,← same,empty]
  rfl

-- A verdict comes from a row that the scaler takes and the model scores.
def Scores (d : AnomalyDetector) (model : Forest) (scaler : FrameScaler) (row : FrameRow) (verdicts : List AnomalyVerdict) : Prop :=
  ∃ xScaled, scaler.transform row = .ok xScaled ∧ ∃ raw, model xScaled = .ok raw ∧ verdicts = [d.judge raw]

theorem agrees_exact (model : Forest) (scaler : FrameScaler) (features : Record) : (d.fitted model scaler).BatchAgrees h features ↔
    ∀ verdicts, (∃ row, d.singleRow h features = .ok row ∧ d.Scores model scaler row verdicts) ↔
      ∃ row, d.batchRow h features = .ok row ∧ d.Scores model scaler row verdicts := by
  unfold BatchAgrees Fallible.Same
  apply forall_congr'
  intro verdicts
  rw [batch_exact]
  apply iff_congr
  · rw [Fallible.map_ok]
    constructor
    · intro ⟨r,ran,same⟩
      obtain ⟨row,read,xScaled,scaled,raw,scored,judged⟩ := (predict_exact model scaler features _).mp (Fallible.map_ok.mpr ⟨r,ran,rfl⟩)
      exact ⟨row,read,xScaled,scaled,raw,scored,by rw [same,judged]⟩
    · intro ⟨row,read,xScaled,scaled,raw,scored,same⟩
      obtain ⟨r,ran,judged⟩ := Fallible.map_ok.mp ((predict_exact model scaler features _).mpr ⟨row,read,xScaled,scaled,raw,scored,rfl⟩)
      exact ⟨r,ran,by rw [same,judged]⟩
  · exact Iff.rfl

theorem batch_alike (features : Record) :
    (∀ model scaler, (d.fitted model scaler).BatchAgrees h features) ↔ d.ReadsAlike h features := by
  simp only [agrees_exact]
  rw [← rows_alike]
  constructor
  · intro agree
    have forward : ∀ row, d.singleRow h features = .ok row → d.batchRow h features = .ok row := by
      intro row single
      have marked : d.Scores firstColumn (marking row) row [d.judge (.finite 1)] := by
        refine ⟨_,rfl,.finite 1,?_,rfl⟩
        obtain ⟨cell,rest,filled⟩ := List.exists_cons_of_ne_nil (single_filled single)
        rw [filled]
        simp [firstColumn]
      obtain ⟨other,batch,xScaled,scaled,raw,scored,same⟩ := (agree firstColumn (marking row) _).mp ⟨row,single,marked⟩
      have one := congrArg AnomalyVerdict.anomalyScore (List.singleton_inj.mp same)
      rw [← marked_score row other xScaled raw scaled scored one.symm]
      exact batch
    intro row
    refine ⟨forward row,?_⟩
    intro batch
    obtain ⟨other,single,_⟩ := (agree (fun _ => .ok (.finite 0)) (marking row) _).mpr ⟨row,batch,_,rfl,_,rfl,rfl⟩
    cases (forward other single).symm.trans batch
    exact single
  · intro same model scaler verdicts
    exact exists_congr fun row => and_congr_left fun _ => same row

-- What a loaded detector has of the constructor's defaults.
def reset (d : AnomalyDetector) : AnomalyDetector := {d with
  maxFeatures := .finite (8 / 10)
  thresholdOverride := none}

theorem load_save (model : Forest) (scaler : FrameScaler) :
    ((d.fitted model scaler).save h >>= load h) = .ok (d.reset.fitted model scaler) := by
  have names : (some d.featureNames).filter (fun names => names ≠ []) = some d.featureNames := by
    simp [Option.filter,d.named]
  refine Fallible.bind_ok.mpr ⟨_,rfl,?_⟩
  unfold load
  simp only [ne_eq,not_true_eq_false,and_false,if_false]
  unfold init reset fitted
  simp only [names,Option.getD_some]

theorem clipSigned_negative (raw : PyFloat) : (PyFloat.finite 0).greater (clipSigned raw) = (PyFloat.finite 0).greater raw := by
  unfold clipSigned
  cases raw with
  | nan => rfl
  | infinity negative => cases negative <;> rfl
  | finite q =>
    simp only [PyFloat.greater]
    by_cases low : q < -1
    · have negative : q < 0 := by grind
      simp [low,negative]
    · by_cases high : 1 < q
      · have positive : ¬q < 0 := by grind
        simp [low,high,positive]
      · simp [low,high]

theorem clipSigned_within (q : Rat) (low : -1 ≤ q) (high : q ≤ 1) : clipSigned (.finite q) = .finite q := by
  unfold clipSigned
  simp [PyFloat.greater,not_lt.mpr low,not_lt.mpr high]

-- A threshold decides as the sign of the raw score does only if it is 0.
theorem sign_threshold (threshold : PyFloat) :
    (∀ raw, (PyFloat.finite 0).greater raw = threshold.greater (clipSigned raw)) ↔ threshold = .finite 0 := by
  constructor
  · intro same
    have atZero := same (.finite 0)
    have below := same (.finite (-1))
    cases threshold with
    | nan => cases below
    | infinity negative =>
      cases negative with
      | false => cases atZero
      | true => cases below
    | finite q =>
      rw [clipSigned_within 0 (by decide) (by decide)] at atZero
      have notAbove : ¬0 < q := by simpa [PyFloat.greater] using atZero
      by_contra apart
      have negative : q < 0 := by
        have other : q ≠ 0 := fun zero => apart (by rw [zero])
        grind
      have inside := same (.finite (max q (-1)))
      rw [clipSigned_within _ (le_max_right _ _) (by grind)] at inside
      have under : max q (-1) < 0 := max_lt negative (by decide)
      have reached : ¬max q (-1) < q := not_lt.mpr (le_max_left _ _)
      simp [PyFloat.greater,under,reached] at inside
  · intro zero raw
    rw [zero,clipSigned_negative]

theorem judge_reset : (∀ raw, d.reset.judge raw = d.judge raw) ↔
    d.thresholdOverride = none ∨ d.thresholdOverride = some (.finite 0) := by
  have decided : (∀ raw, d.reset.judge raw = d.judge raw) ↔
      ∀ raw, (PyFloat.finite 0).greater raw = d.decideAnomaly raw (clipSigned raw) := by
    apply forall_congr'
    intro raw
    simp [judge,reset,decideAnomaly]
  rw [decided]
  unfold decideAnomaly
  cases d.thresholdOverride with
  | none => simp
  | some threshold => simpa using sign_threshold threshold

theorem reload_exact (model : Forest) (scaler : FrameScaler) : (d.fitted model scaler).RoundTrips h ↔ ∀ features,
    Fallible.Same (((d.reset.fitted model scaler).predict h features).map AnomalyDetection.verdict)
      (((d.fitted model scaler).predict h features).map AnomalyDetection.verdict) := by
  unfold RoundTrips
  rw [load_save]
  exact Iff.rfl

theorem blank_row : ∃ row, d.singleRow h .empty = .ok row := by
  obtain ⟨vector,read⟩ := (Fallible.mapM_succeeds (f := alone h .empty) d.featureNames).mpr
    fun name _ => ⟨_,alone_missing (OrderedDict.get?_empty name)⟩
  exact ⟨_,(singleRow_exact .empty _).mpr ⟨vector,read,rfl⟩⟩

def plainScaler : FrameScaler where
  transform row := .ok (row.map Prod.snd)
  width := by
    intro row scaled made
    cases made
    exact List.length_map _

theorem reloaded_judges (same : (d.fitted (fun _ => .ok raw) plainScaler).RoundTrips h) : d.reset.judge raw = d.judge raw := by
  obtain ⟨row,blank⟩ := blank_row (d := d) (h := h)
  have given := (predict_exact (d := d.reset) (fun _ => .ok raw) plainScaler .empty _).mpr ⟨row,blank,_,rfl,raw,rfl,rfl⟩
  have saved := ((reload_exact _ _).mp same _ _).mp given
  obtain ⟨_,_,_,_,_,scored,judged⟩ := (predict_exact (fun _ => .ok raw) plainScaler .empty _).mp saved
  cases scored
  exact judged

theorem round_trip : (∀ model scaler, (d.fitted model scaler).RoundTrips h) ↔
    d.thresholdOverride = none ∨ d.thresholdOverride = some (.finite 0) := by
  rw [← judge_reset]
  constructor
  · intro same raw
    exact reloaded_judges (same _ _)
  · intro same model scaler
    rw [reload_exact]
    intro features v
    rw [predict_exact,predict_exact]
    simp only [same]
    exact Iff.rfl

theorem nan_unlike : ¬ReadAlike h (.float .nan) := by
  unfold ReadAlike readFloat
  rw [h.floatFloat,h.numericFloat]
  intro ⟨x,single,batch⟩
  cases single
  cases batch

-- Floats other than nan are read alike.
theorem floats_alike (features : Record) (unique : d.featureNames.Nodup) (present : ∃ v, d.Given features v)
    (floats : ∀ v, d.Given features v → ∃ x, v = .float x ∧ x ≠ .nan) : d.ReadsAlike h features := by
  refine .inl ⟨unique,present,?_⟩
  intro v given
  obtain ⟨x,same,number⟩ := floats v given
  subst same
  unfold ReadAlike readFloat
  rw [h.floatFloat,h.numericFloat]
  exact ⟨x,rfl,congrArg Except.ok (if_neg number)⟩

theorem nan_never (features : Record) (nan : d.Given features (.float .nan))
    (readable : ∀ v, d.Given features v → h.float v ≠ .error .overflow) : ¬d.ReadsAlike h features := by
  intro given
  obtain ⟨_,_,alike⟩ | ⟨⟨v,given,overflow⟩,_⟩ := given
  · exact nan_unlike (alike _ nan)
  · exact readable v given overflow

-- What the loaded detector answers is what the saved one does, and one row of a frame is
-- answered as the transaction alone.
theorem detector_agreement (h : AnomalyHost) (d : AnomalyDetector) :
    ((∀ model scaler, (d.fitted model scaler).RoundTrips h) ↔
        d.thresholdOverride = none ∨ d.thresholdOverride = some (.finite 0)) ∧
      ∀ features, (∀ model scaler, (d.fitted model scaler).BatchAgrees h features) ↔ d.ReadsAlike h features :=
  ⟨round_trip,batch_alike⟩

def exampleHost : AnomalyHost where
  float v := match v with
    | .float x => .ok x
    | .int n => .ok (.finite n)
    | _ => .error .refused
  toNumeric v := match v with
    | .float x => .ok x
    | .int n => .ok (.finite n)
    | _ => .ok .nan
  argsort row := List.range row.length
  inside := List.mem_range.mp
  idText _ _ := "nan"
  checksum _ := "9f86d081884c7d65"
  fitScaler _ := .ok plainScaler
  fitForest _ _ _ := .ok firstColumn
  floatFloat := rfl
  numericFloat := rfl

def exampleDetector : AnomalyDetector :=
  init ⟨200,.str "auto",.finite (1 / 50),42⟩ (.finite (8 / 10)) (some (.finite (1 / 10))) (some ["transaction_amount"])

-- A forest that takes no nan.
def wary : Forest := fun xScaled => if .nan ∈ xScaled then .error "Input X contains NaN." else .ok (.finite (1 / 20))

theorem threshold_and_nan_lost :
    ¬(exampleDetector.fitted (fun _ => .ok (.finite (1 / 20))) plainScaler).RoundTrips exampleHost ∧
      ¬(exampleDetector.fitted wary plainScaler).BatchAgrees exampleHost (.ofList [("transaction_amount",.float .nan)]) := by
  constructor
  · intro same
    have judged := reloaded_judges same
    revert judged
    decide +kernel
  · intro agree
    obtain ⟨row,single,xScaled,scaled,raw,scored,_⟩ := ((agrees_exact _ _ _).mp agree _).mpr
      ⟨_,rfl,_,rfl,.finite (1 / 20),rfl,rfl⟩
    cases single
    cases scaled
    cases scored

end AnomalyDetector
end RiskPulse
