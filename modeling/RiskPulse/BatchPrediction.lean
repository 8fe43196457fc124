import RiskPulse.ModelServer
import RiskPulse.Library.NdArray

namespace RiskPulse

inductive PredictionError where
  | vstack (message : String)
  | server (error : ModelServerError)

namespace ModelServer
variable {α : Type}

-- A server whose arrays are NumPy's.
def numpyServer (registry : ModelRegistry) (modelName : String) (sha256 : String → Nat) : ModelServer (NdArray α) where
  registry := registry
  modelName := modelName
  sha256 := sha256
  column := NdArray.column
  asarray := .ok

def requestSize (arr : NdArray α) : Nat := if arr.ndim > 1 then arr.length else 1

-- One array of all the requests: those of a batch that starts with one row are made rows.
def combined (batch : List (NdArray α)) : Except String (NdMatrix α) :=
  match batch with
  | .vector _ :: _ => NdArray.vstack (batch.map NdArray.flat)
  | _ => NdArray.vstack (batch.map NdArray.atLeast2d)

def splitBack (sizes : List Nat) (predictions : NdArray α) : List (NdArray α) :=
  (NdArray.spans sizes 0).map fun span => predictions.slice span.1 span.2

-- The predictions come with the model they were made with, as those of predict do.
def predictBatch (c : ModelServer (NdArray α)) (loader : ModelLoader (NdArray α)) (draw : String → Rat)
    (batch : List (NdArray α)) (userId : Option String) (r : Registry) (s : ModelServerState (NdArray α)) :
    Except PredictionError (Option (Candidate (NdArray α)) × List (NdArray α)) × ModelServerState (NdArray α) :=
  if batch.isEmpty then (.ok (none,[]),s)
  else
    match combined batch with
    | .error message => (.error (.vstack message),s)
    | .ok features =>
      match c.predict loader draw (.matrix features) userId r s with
      | (.error e,t) => (.error (.server e),t)
      | (.ok (candidate,predictions),t) => (.ok (some candidate,splitBack (batch.map requestSize) predictions),t)

-- A method that gives each row of an array with so many columns a number of its own.
def Scores (columns : Nat) (method : NdArray α → Except String (NdArray α)) : Prop :=
  ∃ f : List α → α, ∀ grid : NdMatrix α, grid.columns = columns → method (.matrix grid) = .ok (.vector (grid.rows.map f))

-- A method that gives each of them a row of its own.
def Tabulates (columns width : Nat) (method : NdArray α → Except String (NdArray α)) : Prop :=
  ∃ f : List α → List α, ∃ even : ∀ row, row.length = columns → (f row).length = width,
    ∀ (grid : NdMatrix α) (fit : grid.columns = columns),
      method (.matrix grid) = .ok (.matrix (grid.mapRows width f fun row long => even row (long.trans fit)))

-- The method that a prediction calls works row by row and does not raise. Of the
-- probabilities the server takes the second column, which must be there.
def RowWise (columns : Nat) (model : LoadedModel (NdArray α)) : Prop :=
  match model.predictProba,model.decisionFunction with
  | some predictProba,_ => ∃ width, 1 < width ∧ Tabulates columns width predictProba
  | none,some decisionFunction => Scores columns decisionFunction ∨ ∃ width, Tabulates columns width decisionFunction
  | none,none => Scores columns model.predict ∨ ∃ width, Tabulates columns width model.predict

-- No random number is drawn for the user: there is none, or every active test is sticky.
def StickyOrAbsent (userId : Option String) (r : Registry) : Prop :=
  ∀ user, userId = some user → user ≠ "" → ∀ test ∈ r.abTests.entries, test.2.isActive = true → test.2.stickyAssignment = true

section routing
variable {Nd : Type} (c : ModelServer Nd)

theorem abModel_kept (provided : c.abModel loader version r s = (some model,t)) :
    c.abModel loader version r t = (some model,t) := by
  unfold abModel at provided ⊢
  cases cached : s.abModels.get? version with
  | some held =>
    simp only [cached,Prod.mk.injEq] at provided
    obtain ⟨same,rfl⟩ := provided
    simp only [cached,same]
  | none =>
    simp only [cached] at provided
    unfold loadAbModel at provided
    split at provided
    · cases provided
    · split at provided
      · cases provided
      · obtain ⟨same,rfl⟩ := Prod.mk.inj provided
        simp only [OrderedDict.get?_set,if_pos,same]

theorem abModel_missing (missing : (c.abModel loader version r s).1 = none)
    (provided : c.abModel loader other r s = (some model,t)) : c.abModel loader version r t = (none,t) := by
  have different : version ≠ other := by
    rintro rfl
    rw [provided] at missing
    cases missing
  have uncached : s.abModels.get? version = none := by
    unfold abModel at missing
    split at missing
    · cases missing
    · assumption
  have unloaded : ∀ u, u.abModels.get? version = none → c.abModel loader version r u = (none,u) := by
    intro u absent
    unfold abModel at missing ⊢
    rw [uncached] at missing
    rw [absent]
    simp only at missing ⊢
    unfold loadAbModel at missing ⊢
    split
    · rfl
    · rename_i metadata read
      rw [read] at missing
      simp only at missing
      split
      · rfl
      · rename_i loaded came
        rw [came] at missing
        cases missing
  apply unloaded
  unfold abModel at provided
  split at provided
  · obtain ⟨_,rfl⟩ := Prod.mk.inj provided
    exact uncached
  · unfold loadAbModel at provided
    split at provided
    · cases provided
    · split at provided
      · cases provided
      · obtain ⟨_,rfl⟩ := Prod.mk.inj provided
        simp only [OrderedDict.get?_set,if_neg different,uncached]

-- The model a request was routed by routes it again.
theorem routeTests_again (tests : List (String × ABTestConfig))
    (done : c.routeTests loader draw userId r tests s = (.ok found,t)) :
    (c.routeTests loader draw userId r tests t).1 = .ok found := by
  induction tests with
  | nil =>
    cases done
    rfl
  | cons test rest ih =>
    obtain ⟨testName,config⟩ := test
    rw [routeTests] at done ⊢
    split at done
    · rename_i inactive
      rw [if_pos inactive]
      exact ih done
    · rename_i active
      rw [if_neg active]
      cases assigned : ModelRegistry.resolveAbAssignment c.sha256 testName userId (draw testName) r with
      | error e =>
        simp only [assigned] at done
        cases done
      | ok version =>
        simp only [assigned] at done ⊢
        have unchanged : (c.abModel loader version r s).1 = none → (c.abModel loader version r s).2 = s := c.abModel_none
        rcases model : c.abModel loader version r s with ⟨_ | model,after⟩
        · rw [model] at done unchanged
          have same : after = s := unchanged rfl
          subst same
          simp only at done
          have missing : (c.abModel loader version r after).1 = none := by rw [model]
          have absent : c.abModel loader version r t = (none,t) := by
            obtain ⟨offered,kept,variant⟩ := c.routeTests_offered rest done
            cases found with
            | none => rw [kept rfl,model]
            | some candidate =>
              obtain ⟨_,_,_,_,here,_⟩ := List.findSome?_eq_some_iff.mp offered.symm
              obtain ⟨_,other,provided,rfl,_,_⟩ := c.offer_cases here
              exact c.abModel_missing missing (variant _ _ _ rfl)
          rw [absent]
          exact ih done
        · rw [model] at done
          cases done
          rw [c.abModel_kept model]

-- A sticky test assigns the same version whatever is drawn.
theorem assignment_steady (sticky : ∀ config, r.abTests.get? testName = some config → config.isActive = true →
      config.stickyAssignment = true) (draw other : Rat) :
    ModelRegistry.resolveAbAssignment c.sha256 testName userId draw r =
      ModelRegistry.resolveAbAssignment c.sha256 testName userId other r := by
  unfold ModelRegistry.resolveAbAssignment
  cases held : ModelRegistry.getAbTest testName r with
  | none => rfl
  | some config =>
    simp only
    cases active : config.isActive with
    | false => rfl
    | true => simp only [sticky config held active,if_true]

theorem routeTests_steady (tests : List (String × ABTestConfig))
    (sticky : ∀ testName config, r.abTests.get? testName = some config → config.isActive = true → config.stickyAssignment = true)
    (loader : ModelLoader Nd) (draw other : String → Rat) (s : ModelServerState Nd) :
    c.routeTests loader draw userId r tests s = c.routeTests loader other userId r tests s := by
  induction tests generalizing s with
  | nil => rfl
  | cons test rest ih =>
    obtain ⟨testName,config⟩ := test
    rw [routeTests,routeTests,c.assignment_steady (sticky testName) (draw testName) (other testName)]
    split
    · exact ih s
    · split
      · rfl
      · split
        · rfl
        · exact ih _

theorem routed_steady (steady : StickyOrAbsent userId r) (loader : ModelLoader Nd) (draw other : String → Rat)
    (s : ModelServerState Nd) : c.routed loader draw userId r s = c.routed loader other userId r s := by
  cases userId with
  | none => rfl
  | some user =>
    unfold routed
    by_cases blank : user = ""
    · simp only [blank,if_true]
    · simp only [blank,if_false]
      apply c.routeTests_steady
      intro testName config held active
      exact steady user rfl blank _ ((OrderedDict.get?_entry r.abTests testName config).mpr held) active

theorem resolveModel_steady (steady : StickyOrAbsent userId r) (loader : ModelLoader Nd) (draw other : String → Rat)
    (s : ModelServerState Nd) : c.resolveModel loader draw userId r s = c.resolveModel loader other userId r s := by
  unfold resolveModel
  rw [c.routed_steady steady loader draw other s]

-- The model a request was resolved to is the one it is resolved to again.
theorem resolveModel_again (resolved : c.resolveModel loader draw userId r s = (.ok found,t)) :
    (c.resolveModel loader draw userId r t).1 = .ok found := by
  have frame := c.resolveModel_frame loader draw userId r s
  have again : ∀ routing u, c.routed loader draw userId r s = (.ok routing,u) →
      (c.routed loader draw userId r u).1 = .ok routing := by
    intro routing u done
    cases userId with
    | none =>
      cases done
      rfl
    | some user =>
      unfold routed at done ⊢
      by_cases blank : user = ""
      · simp only [blank,if_true] at done ⊢
        cases done
        rfl
      · simp only [blank,if_false] at done ⊢
        exact c.routeTests_again _ done
  rw [resolved] at frame
  unfold resolveModel at resolved ⊢
  rcases routing : c.routed loader draw userId r s with ⟨e | _ | candidate,u⟩
  · rw [routing] at resolved
    cases resolved
  · rw [routing] at resolved
    cases resolved
    have once := again _ _ routing
    rcases twice : c.routed loader draw userId r t with ⟨routing,v⟩
    have kept := c.resolveModel_frame loader draw userId r t
    unfold resolveModel at kept
    rw [twice] at once kept
    subst once
    simp only
    rw [kept.1]
  · rw [routing] at resolved
    cases resolved
    have once := again _ _ routing
    rcases twice : c.routed loader draw userId r t with ⟨routing,v⟩
    rw [twice] at once
    subst once
    rfl

theorem predict_answered (resolved : (c.resolveModel loader draw userId r s).1 = .ok (some candidate))
    (answered : c.tryModel candidate.model features = .ok predictions) :
    (c.predict loader draw features userId r s).1 = .ok (candidate,predictions) ∧
      (c.predict loader draw features userId r s).2 = (c.resolveModel loader draw userId r s).2 := by
  unfold predict
  rcases found : c.resolveModel loader draw userId r s with ⟨resolution,t⟩
  rw [found] at resolved
  subst resolved
  simp only [answered]
  exact ⟨trivial,trivial⟩

end routing

variable (c : ModelServer (NdArray α))

theorem combined_matrices (grids : List (NdMatrix α)) :
    combined (grids.map .matrix) = NdArray.vstack grids := by
  have same : (grids.map NdArray.matrix).map NdArray.atLeast2d = grids := by
    rw [List.map_map]
    exact List.map_id grids
  cases grids with
  | nil => rfl
  | cons first rest =>
    change NdArray.vstack ((NdArray.matrix first :: rest.map NdArray.matrix).map NdArray.atLeast2d) = _
    rw [← List.map_cons,same]

-- The rows of a request stand in the combined array after those of the requests before it.
theorem rows_middle {β : Type} (f : List α → β) (split : grids = before ++ grid :: after) :
    ((((grids.map NdMatrix.rows).flatten.map f).drop ((before.map fun g => g.rows.length).sum)).take grid.rows.length) =
      grid.rows.map f := by
  have first : (before.map fun g => g.rows.length).sum = ((before.map NdMatrix.rows).flatten.map f).length := by
    rw [List.length_map,List.length_flatten,List.map_map]
    rfl
  have size : grid.rows.length = (grid.rows.map f).length := (List.length_map f).symm
  rw [split,List.map_append,List.map_cons,List.flatten_append,List.flatten_cons,List.map_append,List.map_append,first,size]
  exact NdArray.middle _ _ _

-- What is split back of answers that were made row by row are the answers to the requests.
theorem splitBack_rowWise (method : NdArray α → Except String (NdArray α))
    (rowWise : Scores columns method ∨ ∃ width, Tabulates columns width method)
    (even : ∀ grid ∈ grids, grid.columns = columns) (stacked : NdMatrix α) (fit : stacked.columns = columns)
    (rows : stacked.rows = (grids.map NdMatrix.rows).flatten) :
    ∃ predictions, method (.matrix stacked) = .ok predictions ∧
      List.Forall₂ (fun grid result => method (.matrix grid) = .ok result) grids
        (splitBack ((grids.map NdArray.matrix).map requestSize) predictions) := by
  have sizes : (grids.map NdArray.matrix).map requestSize = grids.map fun grid => grid.rows.length := by
    rw [List.map_map]
    rfl
  rcases rowWise with ⟨f,answers⟩ | ⟨width,f,long,answers⟩
  · refine ⟨_,answers stacked fit,?_⟩
    rw [splitBack,sizes]
    apply NdArray.spans_forall₂ _ (fun first size => (NdArray.vector (stacked.rows.map f)).slice first size)
    intro before grid after split
    have member : grid ∈ grids := by rw [split]; exact List.mem_append_right _ List.mem_cons_self
    rw [answers grid (even grid member),Nat.zero_add,NdArray.slice,rows,rows_middle f split]
  · refine ⟨_,answers stacked fit,?_⟩
    rw [splitBack,sizes]
    apply NdArray.spans_forall₂ _ fun first size => (NdArray.matrix (stacked.mapRows width f _)).slice first size
    intro before grid after split
    have member : grid ∈ grids := by rw [split]; exact List.mem_append_right _ List.mem_cons_self
    rw [answers grid (even grid member),Nat.zero_add,NdArray.slice]
    congr 2
    refine NdMatrix.eq_of_rows (by rfl) ?_
    change grid.rows.map f = ((stacked.rows.map f).drop _).take _
    rw [rows,rows_middle f split]

-- The second column of what is given row by row is given row by row.
theorem tryModel_rowWise [Inhabited α] (registry : ModelRegistry) (modelName : String) (sha256 : String → Nat)
    (model : LoadedModel (NdArray α)) (rowWise : RowWise columns model) :
    Scores columns ((numpyServer registry modelName sha256).tryModel model) ∨
      ∃ width, Tabulates columns width ((numpyServer registry modelName sha256).tryModel model) := by
  have kept : ∀ answer : Except String (NdArray α), answer.bind (numpyServer registry modelName sha256).asarray = answer := by
    intro answer
    cases answer <;> rfl
  have tried : (numpyServer registry modelName sha256).tryModel model = (numpyServer registry modelName sha256).scores model := by
    funext features
    exact kept _
  rw [tried]
  unfold RowWise at rowWise
  cases proba : model.predictProba with
  | some predictProba =>
    simp only [proba] at rowWise
    obtain ⟨width,wide,f,long,answers⟩ := rowWise
    refine .inl ⟨fun row => ((f row)[1]?).getD default,?_⟩
    intro grid fit
    have second : ((grid.mapRows width f fun row here => long row (here.trans fit)).column 1) =
        grid.rows.map fun row => ((f row)[1]?).getD default := by
      have found := NdMatrix.column_rows (grid.mapRows width f fun row here => long row (here.trans fit)) 1 wide
      have values := congrArg (List.map fun item => Option.getD item default) found
      rw [List.map_map,List.map_map] at values
      change ((NdMatrix.column _ 1).map id) = ((grid.rows.map f).map _) at values
      rw [List.map_id,List.map_map] at values
      exact values
    unfold scores
    simp only [proba,answers grid fit]
    change (if 1 < width then _ else _) = _
    rw [if_pos wide,second]
  | none =>
    unfold scores
    cases decision : model.decisionFunction with
    | some decisionFunction =>
      simp only [proba,decision] at rowWise ⊢
      exact rowWise
    | none =>
      simp only [proba,decision] at rowWise ⊢
      exact rowWise

-- A model that adds up the row.
def rowSums : LoadedModel (NdArray Int) where
  predictProba := none
  decisionFunction := none
  predict
    | .matrix grid => .ok (.vector (grid.rows.map List.sum))
    | .vector _ => .error "Expected 2D array, got 1D array instead"

def sumsInstalled : InstalledModel (NdArray Int) where
  model := rowSums
  metadata := ⟨"fraud","1.0.0",.production,.active,"models","linear","","",.empty,.empty,.empty,"","",[],"",none⟩

def servingSums : ModelServerState (NdArray Int) := ⟨some sumsInstalled,none,.empty⟩

theorem sums_plain : 5 ≤ 900 := by decide

def sumsServer : ModelServer (NdArray Int) := numpyServer ⟨fun _ => none,900,sums_plain⟩ "fraud" fun _ => 0

def unequalRequests : List (NdMatrix Int) := [⟨2,[[1,2],[3,4]],by decide⟩,⟨2,[],by decide⟩,⟨2,[[5,6]],by decide⟩]

end ModelServer
end RiskPulse
