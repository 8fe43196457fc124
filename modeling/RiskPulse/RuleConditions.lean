import Mathlib.Data.Rat.Floor
import Mathlib.Data.List.Infix
import RiskPulse.RulesEngine
import RiskPulse.ScoringPipeline

namespace RiskPulse
namespace Value

-- Python's ==: numbers compare across their types, and nan equals nothing. A datetime
-- with an offset is compared by its instant.
mutual
def equals : Value → Value → Bool
  | .none,.none => true
  | .str a,.str b => decide (a = b)
  | .bytes a,.bytes b => decide (a = b)
  | .datetime a Option.none,.datetime b Option.none => decide (a = b)
  | .datetime a (some p),.datetime b (some q) => decide (a - p * 1000000 = b - q * 1000000)
  | .list a,.list b => equalItems a b
  | .dict a,.dict b => decide (a.length = b.length) && equalEntries a b
  | a,b =>
    match a.number,b.number with
    | some x,some y => decide (x = y ∧ x ≠ .nan)
    | _,_ => false
def equalItems : List Value → List Value → Bool
  | [],[] => true
  | a :: as,b :: bs => equals a b && equalItems as bs
  | _,_ => false
def equalEntries : List (String × Value) → List (String × Value) → Bool
  | [],_ => true
  | (k,a) :: as,b =>
    (match OrderedDict.lookupEntry k b with
      | some v => equals a v
      | Option.none => false) && equalEntries as b
end

end Value

-- What ZoneInfo makes of a name: the wall clock there, no such zone, or an exception.
inductive ZoneLookup where
  | zone (wall : Rat → Rat)
  | missing
  | raises (message : String)

-- What the conditions take of Python's library: conversions, hashing, the arithmetic of
-- floats, regular expressions, dates and zones, and how deep conditions can be nested.
structure RulesHost where
  float : Value → Except String PyFloat
  int : Value → Except String Int
  str : Value → String
  lower : String → String
  hash : Value → Except String Int
  plus : PyFloat → PyFloat → PyFloat
  modulo : PyFloat → PyFloat → Except String PyFloat
  reMatch : String → String → Except String Bool
  fromisoformat : Value → Except String Int
  zoneInfo : Value → ZoneLookup
  recursionLimit : Nat

-- The events of each entity, oldest first, and how many times a condition has read the
-- clock.
structure VelocityTracker where
  events : OrderedDict String (List (Rat × PyFloat))
  readings : Nat

namespace VelocityTracker

def maxWindow : Rat := 86400

def recordEvent (entityKey : String) (amount : PyFloat) (now : Rat) (t : VelocityTracker) : VelocityTracker :=
  let kept := t.events.getD entityKey [] ++ [(now,amount)]
  {t with events := t.events.set entityKey (kept.drop (kept.length - 10000))}

def time (clock : Nat → Rat) : Effect VelocityTracker Rat := fun t => (.ok (clock t.readings),{t with readings := t.readings + 1})

-- amount <= amount_threshold, where the threshold is as the configuration has it.
def withinThreshold (threshold : Value) (amount : PyFloat) : Except String Bool :=
  match threshold with
  | .none => .ok true
  | _ =>
    match threshold.number with
    | some bound => .ok (bound.ge amount)
    | none => .error "'<=' not supported between instances"

def countEvents (cutoff : Rat) (threshold : Value) (count : Int) (event : Rat × PyFloat) : Except String Int :=
  if cutoff ≤ event.1 then (withinThreshold threshold event.2).map fun within => if within then count + 1 else count
  else .ok count

-- Events older than the longest window are pruned.
def getCount (clock : Nat → Rat) (entityKey : String) (windowSeconds : Int) (threshold : Value) : Effect VelocityTracker Int := do
  let now ← time clock
  let events ← Effect.read fun t => t.events.getD entityKey []
  if events = [] then pure 0
  else do
    let kept := events.dropWhile fun event => decide (event.1 < now - maxWindow)
    Effect.modify fun t => {t with events := t.events.set entityKey kept}
    Effect.ofExcept (kept.foldlM (countEvents (now - windowSeconds) threshold) 0)

def inWindow (cutoff : Rat) (events : List (Rat × PyFloat)) : List PyFloat :=
  (events.filter fun event => decide (cutoff ≤ event.1)).map Prod.snd

def getCumulativeAmount (h : RulesHost) (clock : Nat → Rat) (entityKey : String) (windowSeconds : Int) :
    Effect VelocityTracker PyFloat := do
  let now ← time clock
  let events ← Effect.read fun t => t.events.getD entityKey []
  pure ((inWindow (now - windowSeconds) events).foldl h.plus (.finite 0))

def getDistinctCount (clock : Nat → Rat) (groupKey : String) (windowSeconds : Int) : Effect VelocityTracker Int := do
  let now ← time clock
  let events ← Effect.read fun t => t.events.getD groupKey []
  pure (inWindow (now - windowSeconds) events).dedup.length

end VelocityTracker

namespace RulesEngine
open VelocityTracker
variable (h : RulesHost)

def secondsPerDay : Rat := 86400

-- The day a moment falls on in UTC, counted from the first of 1970, which was a Thursday.
def utcDay (moment : Rat) : Int := ⌊moment / secondsPerDay⌋

def dayName (moment : Rat) : String :=
  match (utcDay moment + 3) % 7 with
  | 0 => "monday"
  | 1 => "tuesday"
  | 2 => "wednesday"
  | 3 => "thursday"
  | 4 => "friday"
  | 5 => "saturday"
  | _ => "sunday"

def minuteOfDay (moment : Rat) : Int := ⌊moment / 60⌋ % 1440

def lowered (day : Value) : Except String Value :=
  match day with
  | .str text => .ok (.str (h.lower text))
  | .bytes content => .ok (.bytes content)
  | _ => .error "object has no attribute lower"

def onActiveDay (activeDays : Value) (moment : Rat) : Except String Bool := do
  let days ← activeDays.iterate
  let names ← days.mapM (lowered h)
  return names.contains (.str (dayName moment))

def isScheduleActive (schedule : Value) (now : Rat) : Except String Bool := do
  let activeDays ← schedule.attributeGet "active_days" .none
  let today ← if activeDays.truthy then onActiveDay h activeDays now else pure true
  if today then do
    let startDate ← schedule.attributeGet "start_date" .none
    let started ← if startDate.truthy then (h.fromisoformat startDate).map fun day => !decide (utcDay now < day) else pure true
    if started then do
      let endDate ← schedule.attributeGet "end_date" .none
      if endDate.truthy then (h.fromisoformat endDate).map fun day => !decide (day < utcDay now) else pure true
    else pure false
  else pure false

-- The value of one operator; an absent operand never triggers.
def isNull (actual : Value) : Bool := actual.equals .none || actual.equals (.str "")

def contains (expected actual : Value) : Except String Bool :=
  match expected with
  | .list items => .ok (items.any fun item => actual.equals item)
  | .str text =>
    match actual with
    | .str part => .ok (decide (part.toList <:+: text.toList))
    | _ => .error "'in <string>' requires string as left operand"
  | _ => .ok false

def isContainer : Value → Bool
  | .list _ | .str _ => true
  | _ => false

def compareField (operator : String) (condition actual expected : Value) : Except String Bool :=
  match operator with
  | "equals" => .ok (actual.equals expected)
  | "not_equals" => .ok (!actual.equals expected)
  | "greater_than" => do
    let a ← h.float actual
    let b ← h.float expected
    return a.greater b
  | "less_than" => do
    let a ← h.float actual
    let b ← h.float expected
    return b.greater a
  | "greater_than_or_equals" => do
    let a ← h.float actual
    let b ← h.float expected
    return a.ge b
  | "less_than_or_equals" => do
    let a ← h.float actual
    let b ← h.float expected
    return b.ge a
  | "in" => contains expected actual
  | "not_in" => if isContainer expected then (contains expected actual).map not else .ok false
  | "contains" => .ok (decide ((h.str expected).toList <:+: (h.str actual).toList))
  | "starts_with" => .ok ((h.str expected).toList.isPrefixOf (h.str actual).toList)
  | "ends_with" => .ok ((h.str expected).toList.isSuffixOf (h.str actual).toList)
  | "modulo_equals" => do
    let modulo ← h.float (← condition.attributeGet "modulo" (.int 1))
    let a ← h.float actual
    let remainder ← h.modulo a modulo
    let b ← h.float expected
    return decide (remainder = b ∧ b ≠ .nan)
  | "regex_match" => h.reMatch (h.str expected) (h.str actual)
  | _ => .ok false

def evaluateFieldCondition (condition : Value) (transaction : Record) : Except String Bool := do
  let fieldName ← condition.attributeGet "field" .none
  let operator ← condition.attributeGet "operator" .none
  let expected ← condition.attributeGet "value" .none
  match fieldName,operator with
  | .str field,.str operator =>
    let actual := transaction.value field
    if operator = "is_null" then pure (isNull actual)
    else if operator = "is_not_null" then pure (!isNull actual)
    else if actual = .none ∨ expected = .none then pure false
    else compareField h operator condition actual expected
  | _,_ => pure false

def evaluateVelocity (clock : Nat → Rat) (condition : Value) (transaction : Record) : Effect VelocityTracker Bool := do
  let field ← Effect.ofExcept (condition.attributeGet "field" (.str "account_id"))
  let entity := transaction.value (h.str field)
  if entity.truthy then do
    let maxCount ← Effect.ofExcept (condition.attributeGet "max_count" (.int 10) >>= h.int)
    let window ← Effect.ofExcept (condition.attributeGet "time_window_seconds" (.int 300) >>= h.int)
    let threshold ← Effect.ofExcept (condition.attributeGet "amount_threshold" .none)
    let count ← getCount clock ("account:" ++ h.str entity) window threshold
    pure (decide (maxCount < count))
  else pure false

def evaluateCumulativeAmount (clock : Nat → Rat) (condition : Value) (transaction : Record) : Effect VelocityTracker Bool := do
  let field ← Effect.ofExcept (condition.attributeGet "field" (.str "account_id"))
  let entity := transaction.value (h.str field)
  if entity.truthy then do
    let maxAmount ← Effect.ofExcept (condition.attributeGet "max_amount" (.float (.finite 100000)) >>= h.float)
    let window ← Effect.ofExcept (condition.attributeGet "time_window_seconds" (.int 86400) >>= h.int)
    let cumulative ← getCumulativeAmount h clock ("account:" ++ h.str entity) window
    pure (cumulative.greater maxAmount)
  else pure false

-- Distinct values are told apart by the amounts recorded for the device.
def evaluateCardinality (clock : Nat → Rat) (condition : Value) (transaction : Record) : Effect VelocityTracker Bool := do
  let groupBy ← Effect.ofExcept (condition.attributeGet "group_by" .none)
  let countField ← Effect.ofExcept (condition.attributeGet "count_field" .none)
  match groupBy,countField with
  | .str group,.str _ => do
    let maxDistinct ← Effect.ofExcept (condition.attributeGet "max_distinct" (.int 3) >>= h.int)
    let window ← Effect.ofExcept (condition.attributeGet "time_window_seconds" (.int 3600) >>= h.int)
    let value := transaction.value group
    if value.truthy then do
      let count ← getDistinctCount clock ("device:" ++ h.str value) window
      pure (decide (maxDistinct < count))
    else pure false
  | _,_ => pure false

-- text.split(":"), and the minutes its first two parts stand for.
def minutesOf (text : Value) : Except String Int :=
  match text with
  | .str text =>
    match text.toList.splitOn ':' with
    | hours :: minutes :: _ => do
      let hour ← h.int (.str (String.ofList hours))
      let minute ← h.int (.str (String.ofList minutes))
      return hour * 60 + minute
    | _ => .error "list index out of range"
  | _ => .error "object has no attribute split"

def evaluateTimeWindow (now : Rat) (condition : Value) : Except String Bool := do
  let activeDays ← condition.attributeGet "active_days" .none
  let today ← if activeDays.truthy then onActiveDay h activeDays now else pure true
  if today then do
    let outsideHours ← condition.attributeGet "outside_hours" .none
    if outsideHours.truthy then do
      let start ← outsideHours.attributeGet "start" (.str "09:00")
      let stop ← outsideHours.attributeGet "end" (.str "17:00")
      let zone ← condition.attributeGet "timezone" (.str "UTC")
      let wall ← match h.zoneInfo zone with
        | .zone wall => pure (wall now)
        | .missing => pure now
        | .raises message => .error message
      let first ← minutesOf h start
      let last ← minutesOf h stop
      return !decide (first ≤ minuteOfDay wall ∧ minuteOfDay wall ≤ last)
    else pure true
  else pure false

-- Sub-conditions are evaluated up to the first that decides the answer.
def allOf (evaluate : Value → Effect VelocityTracker Bool) : List Value → Effect VelocityTracker Bool
  | [] => pure true
  | condition :: rest => do
    let holds ← evaluate condition
    if holds then allOf evaluate rest else pure false

def anyOf (evaluate : Value → Effect VelocityTracker Bool) : List Value → Effect VelocityTracker Bool
  | [] => pure false
  | condition :: rest => do
    let holds ← evaluate condition
    if holds then pure true else anyOf evaluate rest

-- A condition nested deeper than the recursion limit raises.
def evaluateCondition (clock : Nat → Rat) (transaction : Record) : Nat → Value → Effect VelocityTracker Bool
  | 0,_ => Effect.ofExcept (.error "maximum recursion depth exceeded")
  | depth + 1,condition => do
    let type ← Effect.ofExcept (condition.attributeGet "type" .none)
    match type with
    | .str "velocity" => evaluateVelocity h clock condition transaction
    | .str "cumulative_amount" => evaluateCumulativeAmount h clock condition transaction
    | .str "geo_velocity" => pure false
    | .str "cardinality" => evaluateCardinality h clock condition transaction
    | .str "time_window" => do
      let now ← time clock
      Effect.ofExcept (evaluateTimeWindow h now condition)
    | _ => do
      let operator ← Effect.ofExcept (condition.attributeGet "operator" .none)
      match operator with
      | .str "and" => do
        let conditions ← Effect.ofExcept (condition.attributeGet "conditions" (.list []) >>= Value.iterate)
        allOf (evaluateCondition clock transaction depth) conditions
      | .str "or" => do
        let conditions ← Effect.ofExcept (condition.attributeGet "conditions" (.list []) >>= Value.iterate)
        anyOf (evaluateCondition clock transaction depth) conditions
      | _ => Effect.ofExcept (evaluateFieldCondition h condition transaction)

end RulesEngine
end RiskPulse
