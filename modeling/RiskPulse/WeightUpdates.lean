import RiskPulse.ScoreEvaluation

namespace RiskPulse

-- The weights as a caller may give them are any dictionary. A number is what the sum of
-- weights and floats takes; a Decimal cannot be added to a float.
def weightNumber : Value → Option PyFloat
  | .bool b => some (.finite (if b then 1 else 0))
  | .int n => some (.finite n)
  | .float x => some x
  | _ => none

def weightsIn (raw : Record) : Weights := raw.mapValues fun value => (weightNumber value).getD .nan

inductive UpdateError where
  | typeError
  | refused (error : ScoringError)
  deriving DecidableEq

namespace ScoringPipeline
variable (p : ScoringPipeline)

-- An int too large for a float is no weight up to 1 either, and is refused with the rest.
def validateRaw (raw : Record) : Except UpdateError Unit :=
  if raw.entries.all fun entry => (weightNumber entry.2).isSome then (p.validateWeights (weightsIn raw)).mapError .refused
  else .error .typeError

-- What update_weights raises or returns, and the weights in force after it: the new ones are
-- there before they are validated.
def updateRaw (raw _inForce : Record) : Except UpdateError Unit × Record := (p.validateRaw raw,raw)

def Accepted (raw : Record) : Prop := p.validateRaw raw = .ok ()

instance (raw : Record) : Decidable (Accepted p raw) := inferInstanceAs (Decidable (_ = _))

-- The weights of a new pipeline, which its constructor has validated.
structure InitialWeights where
  inForce : Record
  accepted : Accepted p inForce

def initialWeights (weights : Option Record) (configured : Record) : Except UpdateError (InitialWeights p) :=
  let defaults := .ofList [("rule_score",configured.getD "rule_score" (.float (.finite (3 / 10)))),
    ("anomaly_score",configured.getD "anomaly_score" (.float (.finite (3 / 10)))),
    ("ml_score",configured.getD "ml_score" (.float (.finite (4 / 10))))]
  let inForce := match weights with
    | some given => if given.entries.isEmpty then defaults else given
    | none => defaults
  match validated : p.validateRaw inForce with
  | .ok () => .ok ⟨inForce,validated⟩
  | .error e => .error e

-- Each scoring method returns a result for every transaction, whatever its component does.
def MethodsReturn (raw : Record) : Prop := ∀ e : Evaluation, ∃ rule anomaly ml, Scored p (weightsIn raw) e rule anomaly ml

-- A call that raises leaves the weights as they were, and after one that does not each
-- method returns.
structure SafeUpdate (inForce raw : Record) : Prop where
  atomic : ∀ e, (p.updateRaw raw inForce).1 = .error e → (p.updateRaw raw inForce).2 = inForce
  returns : (p.updateRaw raw inForce).1 = .ok () → MethodsReturn p (p.updateRaw raw inForce).2

-- The dictionary is accepted, and has a weight for each method.
structure Suitable (raw : Record) : Prop where
  accepted : Accepted p raw
  weighted : Weighted (weightsIn raw)

section Updates
variable {p} {inForce raw : Record}

-- With a dictionary of floats the update is the pipeline's own.
theorem updateRaw_floats (weights : Weights) (s : ScoringState) :
    (p.updateRaw (weights.mapValues .float) inForce).1 = (p.updateWeights weights s).1.mapError .refused ∧
      weightsIn (p.updateRaw (weights.mapValues .float) inForce).2 = (p.updateWeights weights s).2.weights := by
  have same : weightsIn (weights.mapValues .float) = weights := by
    unfold weightsIn
    rw [OrderedDict.mapValues_mapValues]
    exact OrderedDict.mapValues_id weights
  have numbers : ((weights.mapValues Value.float).entries.all fun entry => (weightNumber entry.2).isSome) = true := by
    rw [List.all_eq_true]
    intro entry member
    obtain ⟨old,_,made⟩ := List.mem_map.mp member
    subst made
    rfl
  refine ⟨?_,same⟩
  change p.validateRaw _ = _
  rw [validateRaw,if_pos numbers,same]
  rfl

theorem methods_return : MethodsReturn p raw ↔ Weighted (weightsIn raw) := by
  constructor
  · intro returns
    exact (scored_weighted p _ ⟨.missing,.missing,.missing,.nan,.nan,.nan,.nan⟩).mp (returns _)
  · intro weighted e
    exact (scored_weighted p _ e).mpr weighted

-- The weights in force were accepted, so a dictionary that is refused is another one.
theorem safe_update (accepted : Accepted p inForce) : SafeUpdate p inForce raw ↔ Suitable p raw := by
  constructor
  · intro safe
    cases validated : p.validateRaw raw with
    | error e =>
      have unchanged : raw = inForce := safe.atomic e validated
      rw [unchanged,accepted] at validated
      cases validated
    | ok _ => exact ⟨validated,methods_return.mp (safe.returns validated)⟩
  · intro suitable
    refine ⟨?_,fun _ => methods_return.mpr suitable.weighted⟩
    intro e raised
    cases suitable.accepted.symm.trans raised

-- The calls of a sequence are all safe when each dictionary is accepted and has a weight
-- for each method: the first that is not is in force from its call on.
theorem updates_safe (accepted : Accepted p inForce) (updates : List Record) :
    Runs.Along (fun inForce raw => (p.updateRaw raw inForce).2) (SafeUpdate p) inForce updates ↔ ∀ raw ∈ updates, Suitable p raw := by
  induction updates generalizing inForce with
  | nil => exact ⟨fun _ => List.forall_mem_nil _,fun _ => trivial⟩
  | cons raw rest ih =>
    rw [List.forall_mem_cons]
    constructor
    · intro ⟨safe,later⟩
      have suitable := (safe_update accepted).mp safe
      exact ⟨suitable,(ih suitable.accepted).mp later⟩
    · intro ⟨suitable,others⟩
      exact ⟨(safe_update accepted).mpr suitable,(ih suitable.accepted).mpr others⟩

end Updates

theorem weight_updates (start : InitialWeights p) (updates : List Record) :
    Runs.Along (fun inForce raw => (p.updateRaw raw inForce).2) (SafeUpdate p) start.inForce updates ↔
      ∀ raw ∈ updates, Suitable p raw :=
  updates_safe start.accepted updates

-- The default weights, three halves, and one weight of another name.
def defaultWeights : Record :=
  .ofList [("rule_score",.float (.finite (3 / 10))),("anomaly_score",.float (.finite (3 / 10))),("ml_score",.float (.finite (4 / 10)))]

def threeHalves : Record :=
  .ofList [("rule_score",.float (.finite (1 / 2))),("anomaly_score",.float (.finite (1 / 2))),("ml_score",.float (.finite (1 / 2)))]

def otherName : Record := .ofList [("rules",.float (.finite 1))]

theorem refused_installed_unweighted_accepted :
    Accepted plainPipeline defaultWeights ∧
      ¬Runs.Along (fun inForce raw => (plainPipeline.updateRaw raw inForce).2) (SafeUpdate plainPipeline) defaultWeights [threeHalves] ∧
      ¬Runs.Along (fun inForce raw => (plainPipeline.updateRaw raw inForce).2) (SafeUpdate plainPipeline) defaultWeights [otherName] := by
  have accepted : Accepted plainPipeline defaultWeights := by decide +kernel
  refine ⟨accepted,?_,?_⟩
  · rw [updates_safe accepted,List.forall_mem_singleton]
    intro suitable
    exact absurd suitable.accepted (by decide +kernel)
  · rw [updates_safe accepted,List.forall_mem_singleton]
    intro suitable
    exact absurd suitable.weighted (by decide +kernel)

end ScoringPipeline
end RiskPulse
