import RiskPulse.FeatureCoherence
import RiskPulse.Library.Fallible
import RiskPulse.RiskScorer

namespace RiskPulse

section Stages
variable {raws : List PyFloat}

theorem RiskModel.rawScores_batch (model : RiskModel) (x : List Row) (raws : List PyFloat) :
    model.getRawScoresBatch x = .ok raws ↔ x.mapM model.getRawScore = .ok raws := by
  cases model with
  | predictProba classifier =>
    unfold RiskModel.getRawScoresBatch RiskModel.getRawScore
    rw [Fallible.mapM_stages,Fallible.bind_ok]
    by_cases several : 1 < classifier.classes
    · simp only [if_pos several]
    · simp only [if_neg several]
  | decisionFunction score => exact Iff.rfl
  | predict score => exact Iff.rfl

theorem ModelArtifact.scaleBatch_rows (artifact : ModelArtifact) (rows : List Row) :
    artifact.scaleBatch rows = rows.mapM artifact.scale := by
  unfold ModelArtifact.scaleBatch ModelArtifact.scale
  cases artifact.scaler with
  | some transform => rfl
  | none =>
    have kept := List.mapM_pure (m := Except String) (l := rows) (f := id)
    rw [List.map_id] at kept
    exact kept.symm

-- The probability of a row, where the calibrator gives one.
def Classifier.second (classifier : Classifier) (x : Row) : Except String PyFloat := classifier.proba x >>= classifier.column 1

-- The calibrators that give the whole list what they give each row: one that gives every row
-- a probability, or none of them; and of those that only transform, one that changes no score.
def ModelArtifact.PlainCalibration (artifact : ModelArtifact) (rows : List Row) : Prop :=
  match artifact.calibrator with
  | some (.predictProba classifier) =>
    (∀ x ∈ rows, ∃ p, classifier.second x = .ok p) ∨ ∀ x ∈ rows, ¬∃ p, classifier.second x = .ok p
  | some (.transform apply) => ∀ raw score, apply raw = .ok score → clip score = clip raw
  | _ => True

theorem Classifier.second_batch (classifier : Classifier) (rows : List Row) (probabilities : List PyFloat) :
    (rows.mapM classifier.proba >>= fun proba => proba.mapM (classifier.column 1)) = .ok probabilities ↔
      rows.mapM classifier.second = .ok probabilities := by
  rw [Fallible.bind_ok,← Fallible.mapM_stages]
  exact Iff.rfl

theorem zipWith_left {f : α → β → γ} {g : α → γ} {as : List α} {bs : List β} (length : as.length = bs.length)
    (same : ∀ b ∈ bs, ∀ a, f a b = g a) : List.zipWith f as bs = as.map g := by
  induction as generalizing bs with
  | nil => rfl
  | cons a rest ih =>
    cases bs with
    | nil => cases length
    | cons b others =>
      obtain ⟨here,later⟩ := List.forall_mem_cons.mp same
      rw [List.zipWith_cons_cons,List.map_cons,here a,ih (Nat.succ.inj length) later]

namespace ModelArtifact
variable (artifact : ModelArtifact) {rows : List Row}

theorem calibrateScore_second (chosen : artifact.calibrator = some (.predictProba classifier)) (raw : PyFloat) (x : Row) :
    artifact.calibrateScore raw x = match classifier.second x with
      | .ok probability => clip probability
      | .error _ => clip raw := by
  cases artifact
  cases chosen
  rfl

theorem calibrateScore_transform (chosen : artifact.calibrator = some (.transform apply)) (raw : PyFloat) (x : Row) :
    artifact.calibrateScore raw x = match apply raw with
      | .ok score => clip score
      | .error _ => clip raw := by
  cases artifact
  cases chosen
  rfl

-- A plain calibration of a list is the calibration of each of its rows.
theorem calibrate_plain (plain : artifact.PlainCalibration rows) (length : raws.length = rows.length) :
    artifact.calibrateScoresBatch raws rows = List.zipWith artifact.calibrateScore raws rows := by
  unfold PlainCalibration at plain
  unfold calibrateScoresBatch
  cases chosen : artifact.calibrator with
  | none =>
    refine (zipWith_left length ?_).symm
    intro x _ raw
    unfold calibrateScore
    rw [chosen]
  | some calibrator =>
    rw [chosen] at plain
    cases calibrator with
    | other =>
      refine (zipWith_left length ?_).symm
      intro x _ raw
      unfold calibrateScore
      rw [chosen]
    | transform apply =>
      refine (zipWith_left length ?_).symm
      intro x _ raw
      rw [artifact.calibrateScore_transform chosen]
      cases given : apply raw with
      | error e => rfl
      | ok score => exact plain raw score given
    | predictProba classifier =>
      simp only
      cases made : rows.mapM classifier.proba >>= fun proba => proba.mapM (classifier.column 1) with
      | ok probabilities =>
        have each := Fallible.mapM_ok ((classifier.second_batch rows probabilities).mp made)
        clear made plain
        simp only
        induction each generalizing raws with
        | nil =>
          cases List.length_eq_zero_iff.mp length
          rfl
        | @cons x p rest others here _ ih =>
          cases raws with
          | nil => cases length
          | cons raw later =>
            rw [List.map_cons,List.zipWith_cons_cons,artifact.calibrateScore_second chosen,here,← ih (Nat.succ.inj length)]
      | error e =>
        refine (zipWith_left length ?_).symm
        intro x member raw
        rw [artifact.calibrateScore_second chosen]
        rcases plain with every | none
        · obtain ⟨probabilities,all⟩ := (Fallible.mapM_succeeds rows).mpr every
          rw [(classifier.second_batch rows probabilities).mpr all] at made
          cases made
        · cases found : classifier.second x with
          | error e => rfl
          | ok p => exact absurd ⟨p,found⟩ (none x member)

theorem calibrate_length (rows : List Row) (length : raws.length = rows.length) :
    (artifact.calibrateScoresBatch raws rows).length = rows.length := by
  unfold calibrateScoresBatch
  split
  · split
    · rename_i classifier _ _ probabilities made
      have each := Fallible.mapM_ok ((classifier.second_batch rows probabilities).mp made)
      rw [List.length_map,each.length_eq]
    · rw [List.length_map,length]
  · rw [List.length_map,length]

-- A calibration that gives a list of equal scores what it gives each of them is plain.
theorem plain_calibration (filled : rows ≠ [])
    (same : ∀ raw, artifact.calibrateScoresBatch (rows.map fun _ => raw) rows = rows.map (artifact.calibrateScore raw)) :
    artifact.PlainCalibration rows := by
  obtain ⟨first,member⟩ := List.exists_mem_of_ne_nil rows filled
  unfold calibrateScoresBatch at same
  unfold PlainCalibration
  cases chosen : artifact.calibrator with
  | none => trivial
  | some calibrator =>
    rw [chosen] at same
    cases calibrator with
    | other => trivial
    | transform apply =>
      intro raw score given
      have equal := same raw
      simp only [List.map_map] at equal
      have here := List.map_inj_left.mp equal first member
      rw [artifact.calibrateScore_transform chosen,given] at here
      exact here.symm
    | predictProba classifier =>
      simp only at same ⊢
      cases made : rows.mapM classifier.proba >>= fun proba => proba.mapM (classifier.column 1) with
      | ok probabilities =>
        exact .inl ((Fallible.mapM_succeeds rows).mp ⟨probabilities,(classifier.second_batch rows probabilities).mp made⟩)
      | error e =>
        refine .inr ?_
        intro x inside ⟨p,found⟩
        have unchanged : ∀ raw, clip raw = clip p := by
          intro raw
          have equal := same raw
          rw [made] at equal
          simp only [List.map_map] at equal
          have here := List.map_inj_left.mp equal x inside
          rw [artifact.calibrateScore_second chosen,found] at here
          exact here
        have apart : clip (.finite 0) = clip (.finite 1) := (unchanged _).trans (unchanged _).symm
        revert apart
        decide

end ModelArtifact

namespace RiskScorer

structure Grade where
  riskScore : PyFloat
  rawScore : PyFloat
  riskLevel : String
  confidence : PyFloat
  featureQuality : String
  deriving DecidableEq

def RiskScore.grade (r : RiskScore) : Grade := ⟨r.riskScore,r.rawScore,r.riskLevel,r.confidence,r.featureQuality⟩

variable (s : RiskScorer) (artifact : ModelArtifact)

-- Both paths give each transaction the same, or both raise.
def Agrees (transactions : List Record) : Prop :=
  Fallible.Same ((s.predictBatch transactions).map (List.map RiskScore.grade)) ((transactions.mapM s.predict).map (List.map RiskScore.grade))

def loaded (model : RiskModel) : RiskScorer := {s with artifact := some {artifact with model := model}}

-- What the model is given for a transaction, and the quality of its features.
def batchInput (txn : Record) : Except String (Row × String) := do
  let fv ← s.featureStore.getFeatures (txn.getD "transaction_id" (txn.getD "external_transaction_id" (.str ""))) (txn.getD "customer_id" (.str "")) txn
  (artifact.scale (fv.toArray artifact.featureNames)).map fun x => (x,s.assessFeatureQuality artifact.featureNames fv)

def singleInput (txn : Record) : Except String (Row × String) := do
  let fv ← s.featureStore.getFeatures (txn.getD "transaction_id" (txn.getD "external_transaction_id" (.str "unknown")))
    (txn.getD "customer_id" (.str "unknown")) txn
  let x ← artifact.scale (fv.toArray artifact.featureNames)
  (s.explainPrediction x fv).map fun _ => (x,s.assessFeatureQuality artifact.featureNames fv)

def graded (score raw : PyFloat) (quality : String) : Grade :=
  ⟨score,raw,s.classifyRisk score,s.computeConfidence score quality,quality⟩

structure BatchUniform (transactions : List Record) : Prop where
  nonempty : transactions ≠ []
  inputs : Fallible.Same (transactions.mapM (s.batchInput artifact)) (transactions.mapM (s.singleInput artifact))
  calibrated : ∀ inputs, transactions.mapM (s.batchInput artifact) = .ok inputs → artifact.PlainCalibration (inputs.map Prod.fst)

variable {s} {artifact}

theorem predict_graded (held : s.artifact = some artifact) (txn : Record) :
    Fallible.Same ((s.predict txn).map RiskScore.grade) (s.singleInput artifact txn >>= fun input =>
      (artifact.model.getRawScore input.1).map fun raw => s.graded (artifact.calibrateScore raw input.1) raw input.2) := by
  unfold predict singleInput requireArtifact
  rw [held]
  simp only [bind,Except.bind]
  intro g
  cases s.featureStore.getFeatures (txn.getD "transaction_id" (txn.getD "external_transaction_id" (.str "unknown")))
      (txn.getD "customer_id" (.str "unknown")) txn with
  | error e => simp [Except.map]
  | ok fv =>
    simp only
    cases artifact.scale (fv.toArray artifact.featureNames) with
    | error e => simp [Except.map]
    | ok x =>
      simp only
      cases s.explainPrediction x fv with
      | error e => cases artifact.model.getRawScore x <;> simp [Except.map]
      | ok explained =>
        simp only [Except.map]
        cases artifact.model.getRawScore x with
        | error e => simp
        | ok raw => simp [pure,Except.pure,RiskScore.grade,graded]

-- What one call at a time gives for a list.
theorem single_exact (held : s.artifact = some artifact) (transactions : List Record) (grades : List Grade) :
    (transactions.mapM s.predict).map (List.map RiskScore.grade) = .ok grades ↔
      ∃ inputs raws, transactions.mapM (s.singleInput artifact) = .ok inputs ∧
        (inputs.map Prod.fst).mapM artifact.model.getRawScore = .ok raws ∧
        grades = List.zipWith (fun input raw => s.graded (artifact.calibrateScore raw input.1) raw input.2) inputs raws := by
  rw [Fallible.mapM_map,Fallible.mapM_same transactions (fun txn _ => predict_graded held txn) grades,Fallible.mapM_stages]
  simp only [Fallible.mapM_with,List.mapM_map]
  constructor
  · intro ⟨inputs,given,raws,scored,same⟩
    exact ⟨inputs,raws,given,scored,same⟩
  · intro ⟨inputs,raws,given,scored,same⟩
    exact ⟨inputs,given,raws,scored,same⟩

theorem batch_inputs (transactions : List Record) (inputs : List (Row × String)) :
    transactions.mapM (s.batchInput artifact) = .ok inputs ↔
      ∃ vectors, s.featureStore.getFeaturesBatch transactions = .ok vectors ∧
        ∃ x, artifact.scaleBatch (vectors.map fun fv => fv.toArray artifact.featureNames) = .ok x ∧
        inputs = List.zipWith (fun fv x => (x,s.assessFeatureQuality artifact.featureNames fv)) vectors x := by
  unfold batchInput FeatureStore.getFeaturesBatch
  simp only [Fallible.mapM_stages,Fallible.mapM_with,ModelArtifact.scaleBatch_rows,List.mapM_map]
  exact Iff.rfl

theorem inputs_split (q : FeatureVector → String) {vectors : List FeatureVector} {x : List Row} (length : x.length = vectors.length) :
    (List.zipWith (fun fv x => (x,q fv)) vectors x).map Prod.fst = x ∧
      (List.zipWith (fun fv x => (x,q fv)) vectors x).map Prod.snd = vectors.map q := by
  rw [List.map_zipWith,List.map_zipWith]
  constructor
  · have kept : (vectors.zip x).map Prod.snd = x := List.map_snd_zip length.le
    rwa [List.map_zip_eq_zipWith] at kept
  · have kept : (vectors.zip x).map Prod.fst = vectors := List.map_fst_zip length.ge
    have named := congrArg (List.map q) kept
    rwa [List.map_zip_eq_zipWith,List.map_zipWith] at named

theorem batch_results {transactions : List Record} {vectors : List FeatureVector} {x : List Row} (scores : List (PyFloat × PyFloat))
    (read : vectors.length = transactions.length) (scaled : x.length = vectors.length) :
    ((transactions.zipIdx.zip (vectors.zip scores)).map fun ((txn,i),fv,rawScore,score) =>
        s.batchResult artifact txn i fv rawScore score).map RiskScore.grade =
      List.zipWith (fun input (scores : PyFloat × PyFloat) => s.graded scores.2 scores.1 input.2)
        (List.zipWith (fun fv x => (x,s.assessFeatureQuality artifact.featureNames fv)) vectors x) scores := by
  have inside : (vectors.zip scores).length ≤ transactions.zipIdx.length := by
    rw [List.length_zip,List.length_zipIdx,← read]
    exact Nat.min_le_left _ _
  let one := fun item : FeatureVector × PyFloat × PyFloat =>
    s.graded item.2.2 item.2.1 (s.assessFeatureQuality artifact.featureNames item.1)
  have qualities := (inputs_split (s.assessFeatureQuality artifact.featureNames) scaled).2
  calc
    _ = ((transactions.zipIdx.zip (vectors.zip scores)).map Prod.snd).map one := by
      rw [List.map_map,List.map_map]
      rfl
    _ = (vectors.zip scores).map one := by rw [List.map_snd_zip inside]
    _ = List.zipWith (fun quality (scores : PyFloat × PyFloat) => s.graded scores.2 scores.1 quality)
        (vectors.map (s.assessFeatureQuality artifact.featureNames)) scores := by
      rw [List.zipWith_map_left,List.map_zip_eq_zipWith]
      rfl
    _ = _ := by rw [← qualities,List.zipWith_map_left]

theorem batch_lengths (read : s.featureStore.getFeaturesBatch transactions = .ok vectors)
    (scaled : artifact.scaleBatch (vectors.map fun fv => fv.toArray artifact.featureNames) = .ok x) :
    vectors.length = transactions.length ∧ x.length = vectors.length := by
  rw [ModelArtifact.scaleBatch_rows] at scaled
  have rows := (Fallible.mapM_ok scaled).length_eq
  rw [List.length_map] at rows
  exact ⟨(Fallible.mapM_ok read).length_eq.symm,rows.symm⟩

-- What one call gives for a list.
theorem batch_exact (held : s.artifact = some artifact) (transactions : List Record) (grades : List Grade) :
    (s.predictBatch transactions).map (List.map RiskScore.grade) = .ok grades ↔
      ∃ inputs raws, transactions.mapM (s.batchInput artifact) = .ok inputs ∧ inputs ≠ [] ∧
        (inputs.map Prod.fst).mapM artifact.model.getRawScore = .ok raws ∧
        grades = List.zipWith (fun input (scores : PyFloat × PyFloat) => s.graded scores.2 scores.1 input.2) inputs
          (raws.zip (artifact.calibrateScoresBatch raws (inputs.map Prod.fst))) := by
  have opened : s.requireArtifact = .ok artifact := by
    unfold requireArtifact
    rw [held]
  unfold predictBatch
  rw [opened,Fallible.map_ok]
  simp only [Fallible.bind_ok,Except.ok.injEq,exists_eq_left',batch_inputs]
  constructor
  · intro ⟨results,⟨vectors,read,rows,stacked,x,scaled,raws,scored,made⟩,same⟩
    unfold vstack at stacked
    split at stacked
    · cases stacked
    rename_i nonempty
    cases stacked
    cases made
    obtain ⟨known,equal⟩ := batch_lengths read scaled
    have rows := (inputs_split (s.assessFeatureQuality artifact.featureNames) equal).1
    refine ⟨_,raws,⟨vectors,read,x,scaled,rfl⟩,?_,?_,?_⟩
    · intro empty
      rw [empty] at rows
      apply nonempty
      apply List.length_eq_zero_iff.mp
      rw [List.length_map,← equal,← rows]
      rfl
    · rw [rows]
      exact (artifact.model.rawScores_batch x raws).mp scored
    · rw [same,rows]
      exact batch_results _ known equal
  · intro ⟨inputs,raws,⟨vectors,read,x,scaled,same⟩,nonempty,scored,grades⟩
    subst same
    obtain ⟨known,equal⟩ := batch_lengths read scaled
    have rows := (inputs_split (s.assessFeatureQuality artifact.featureNames) equal).1
    rw [rows] at scored grades
    have filled : vectors.map (fun fv => fv.toArray artifact.featureNames) ≠ [] := by
      intro empty
      rw [List.map_eq_nil_iff.mp empty] at nonempty
      exact nonempty rfl
    refine ⟨_,⟨vectors,read,_,if_neg filled,x,scaled,raws,(artifact.model.rawScores_batch x raws).mpr scored,rfl⟩,?_⟩
    rw [grades,batch_results _ known equal]

theorem constant_scores (f : Row → PyFloat) (rows : List Row) :
    rows.mapM (RiskModel.predict fun x => .ok (f x)).getRawScore = .ok (rows.map f) :=
  List.mapM_pure

theorem single_parts (inputs : List (Row × String)) (f : Row → PyFloat) :
    (List.zipWith (fun input raw => s.graded (artifact.calibrateScore raw input.1) raw input.2) inputs ((inputs.map Prod.fst).map f)) =
      inputs.map fun input => s.graded (artifact.calibrateScore (f input.1) input.1) (f input.1) input.2 := by
  rw [List.map_map,List.zipWith_map_right,List.zipWith_self]
  rfl

-- What the grades of a list say of the scores and the qualities that they were made from.
theorem batch_parts {inputs : List (Row × String)} {scores : List (PyFloat × PyFloat)} (length : scores.length = inputs.length) :
    let grades := List.zipWith (fun input (scores : PyFloat × PyFloat) => s.graded scores.2 scores.1 input.2) inputs scores
    grades.map Grade.rawScore = scores.map Prod.fst ∧ grades.map Grade.riskScore = scores.map Prod.snd ∧
      grades.map Grade.featureQuality = inputs.map Prod.snd := by
  intro grades
  refine ⟨?_,?_,?_⟩
  · rw [List.map_zipWith,List.zipWith_comm]
    exact zipWith_left length fun _ _ _ => rfl
  · rw [List.map_zipWith,List.zipWith_comm]
    exact zipWith_left length fun _ _ _ => rfl
  · rw [List.map_zipWith]
    exact zipWith_left length.symm fun _ _ _ => rfl

-- Where the paths agree on a model that returns, they agree on what it is given and on the
-- calibration of what it returns.
theorem agree_total {transactions : List Record} {first second : List (Row × String)} (f : Row → PyFloat)
    (agree : (s.loaded artifact (.predict fun x => .ok (f x))).Agrees transactions)
    (batch : transactions.mapM (s.batchInput artifact) = .ok first) (filled : first ≠ [])
    (single : transactions.mapM (s.singleInput artifact) = .ok second) :
    (first.map Prod.fst).map f = (second.map Prod.fst).map f ∧
      artifact.calibrateScoresBatch ((first.map Prod.fst).map f) (first.map Prod.fst) =
        (second.map Prod.fst).map (fun x => artifact.calibrateScore (f x) x) ∧
      first.map Prod.snd = second.map Prod.snd := by
  have one := (batch_exact (s := s.loaded artifact (.predict fun x => .ok (f x))) rfl transactions _).mpr
    ⟨first,_,batch,filled,constant_scores f _,rfl⟩
  obtain ⟨inputs,raws,given,scored,same⟩ := (single_exact rfl transactions _).mp ((agree _).mp one)
  cases given.symm.trans single
  cases scored.symm.trans (constant_scores f _)
  have equal := same.trans (single_parts second f)
  have rows : (artifact.calibrateScoresBatch ((first.map Prod.fst).map f) (first.map Prod.fst)).length = first.length := by
    rw [artifact.calibrate_length (first.map Prod.fst) (List.length_map _),List.length_map]
  have raws : ((first.map Prod.fst).map f).length = first.length := by
    rw [List.length_map,List.length_map]
  have length : (((first.map Prod.fst).map f).zip
      (artifact.calibrateScoresBatch ((first.map Prod.fst).map f) (first.map Prod.fst))).length = first.length := by
    rw [List.length_zip,raws,rows,Nat.min_self]
  obtain ⟨raw,score,quality⟩ := batch_parts (s := s.loaded artifact (.predict fun x => .ok (f x))) length
  rw [List.map_fst_zip (by rw [raws,rows])] at raw
  rw [List.map_snd_zip (by rw [raws,rows])] at score
  refine ⟨raw.symm.trans ?_,score.symm.trans ?_,quality.symm.trans ?_⟩
  · refine (congrArg (List.map Grade.rawScore) equal).trans ?_
    rw [List.map_map,List.map_map]
    rfl
  · refine (congrArg (List.map Grade.riskScore) equal).trans ?_
    rw [List.map_map,List.map_map]
    rfl
  · refine (congrArg (List.map Grade.featureQuality) equal).trans ?_
    rw [List.map_map]
    rfl

theorem rows_separated (first second : List Row) (same : ∀ f : Row → PyFloat, first.map f = second.map f) : first = second := by
  induction first generalizing second with
  | nil => exact (List.map_eq_nil_iff.mp (same fun _ => .nan).symm).symm
  | cons x rest ih =>
    cases second with
    | nil => cases same fun _ => .nan
    | cons y others =>
      have heads := (List.cons.inj (same fun z => if z = x then .finite 1 else .finite 0)).1
      have equal : y = x := by
        by_contra apart
        simp only [if_neg apart,reduceIte] at heads
        revert heads
        decide
      rw [equal,ih others fun f => (List.cons.inj (same f)).2]

theorem agree_inputs {transactions : List Record} {first second : List (Row × String)}
    (agree : ∀ model, (s.loaded artifact model).Agrees transactions)
    (batch : transactions.mapM (s.batchInput artifact) = .ok first) (filled : first ≠ [])
    (single : transactions.mapM (s.singleInput artifact) = .ok second) : first = second := by
  have rows := rows_separated _ _ fun f => (agree_total f (agree _) batch filled single).1
  have qualities := (agree_total (fun _ => .nan) (agree _) batch filled single).2.2
  rw [← List.zip_unzip first,← List.zip_unzip second,List.unzip_eq_map,List.unzip_eq_map,rows,qualities]

theorem plain_grades {inputs : List (Row × String)} {raws : List PyFloat} (plain : artifact.PlainCalibration (inputs.map Prod.fst))
    (length : raws.length = inputs.length) :
    List.zipWith (fun input (scores : PyFloat × PyFloat) => s.graded scores.2 scores.1 input.2) inputs
        (raws.zip (artifact.calibrateScoresBatch raws (inputs.map Prod.fst))) =
      List.zipWith (fun input raw => s.graded (artifact.calibrateScore raw input.1) raw input.2) inputs raws := by
  rw [artifact.calibrate_plain plain (length.trans (List.length_map _).symm)]
  clear plain
  induction inputs generalizing raws with
  | nil => rfl
  | cons input rest ih =>
    cases raws with
    | nil => cases length
    | cons raw later =>
      rw [List.map_cons,List.zipWith_cons_cons,List.zip_cons_cons,List.zipWith_cons_cons,List.zipWith_cons_cons,
        ih (Nat.succ.inj length)]

-- The two paths read the same features where the transactions name themselves and their
-- customers.
theorem named_inputs (transactions : List Record) (named : ∀ txn ∈ transactions, "customer_id" ∈ txn.keys ∧
      ("transaction_id" ∈ txn.keys ∨ "external_transaction_id" ∈ txn.keys))
    (explained : ∀ x fv, ∃ top, s.explainPrediction x fv = .ok top) :
    Fallible.Same (transactions.mapM (s.batchInput artifact)) (transactions.mapM (s.singleInput artifact)) := by
  have held : ∀ (txn : Record) key a b, key ∈ txn.keys → txn.getD key a = txn.getD key b := by
    intro txn key a b member
    obtain ⟨v,found⟩ := (txn.mem_keys key).mp member
    rw [OrderedDict.getD,OrderedDict.getD,found,Option.getD_some,Option.getD_some]
  apply Fallible.mapM_same transactions
  intro txn member input
  obtain ⟨customer,transaction⟩ := named txn member
  have id : txn.getD "transaction_id" (txn.getD "external_transaction_id" (.str "")) =
      txn.getD "transaction_id" (txn.getD "external_transaction_id" (.str "unknown")) := by
    rcases transaction with given | external
    · exact held txn _ _ _ given
    · rw [held txn "external_transaction_id" _ (.str "unknown") external]
  unfold batchInput singleInput
  rw [id,held txn "customer_id" (.str "") (.str "unknown") customer,Fallible.bind_ok,Fallible.bind_ok]
  apply exists_congr
  intro fv
  apply and_congr_right
  intro _
  rw [Fallible.map_ok,Fallible.bind_ok]
  apply exists_congr
  intro x
  apply and_congr_right
  intro _
  obtain ⟨top,none⟩ := explained x fv
  rw [none]
  exact ⟨fun same => by rw [same]; rfl,fun same => by cases same; rfl⟩

def exampleScorer : RiskScorer where
  featureStore := FeatureStore.exampleStore
  plus := PyFloat.exactly fun a b => a + b
  computeVersion _ := "v1"
  explainPrediction _ _ := .ok []
  thresholds := .ofList [("low",.finite (3 / 10)),("medium",.finite (1 / 2)),("high",.finite (8 / 10)),("critical",.finite (95 / 100))]
  artifact := none

def exampleArtifact (calibrator : Option Calibrator) : ModelArtifact where
  model := .predict fun _ => .ok (.finite (1 / 2))
  scaler := none
  calibrator
  featureNames := featureCatalog
  modelVersion := "v1"
  modelType := "xgboost"
  thresholds := .empty

end RiskScorer
end Stages
end RiskPulse
