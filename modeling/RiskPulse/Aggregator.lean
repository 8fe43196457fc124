import RiskPulse.FraudRules

namespace RiskPulse

-- The arithmetic of the statistics, with the square root that ** 0.5 takes.
structure StatisticsArithmetic extends FloatOperations where
  root : PyFloat → PyFloat

structure AggregationResult where
  windowName : String
  count : Nat
  sum : PyFloat
  mean : PyFloat
  std : PyFloat
  min : PyFloat
  max : PyFloat
  distinctCount : Nat

-- Welford's online algorithm.
structure RunningStatistics where
  count : Nat
  mean : PyFloat
  m2 : PyFloat
  min : PyFloat
  max : PyFloat
  sum : PyFloat

namespace RunningStatistics
variable (h : StatisticsArithmetic)

def fresh : RunningStatistics := ⟨0,.finite 0,.finite 0,.infinity false,.infinity true,.finite 0⟩

def add (s : RunningStatistics) (value : PyFloat) : RunningStatistics :=
  let count := s.count + 1
  let delta := h.minus value s.mean
  let mean := h.plus s.mean (h.divide delta (.finite count))
  let delta2 := h.minus value mean
  { count
    mean
    m2 := h.plus s.m2 (h.times delta delta2)
    min := if s.min.greater value then value else s.min
    max := if value.greater s.max then value else s.max
    sum := h.plus s.sum value }

def meanVal (s : RunningStatistics) : PyFloat := if 0 < s.count then s.mean else .finite 0

def variance (s : RunningStatistics) : PyFloat := if s.count < 2 then .finite 0 else h.divide s.m2 (.finite (s.count - 1 : Nat))

def std (s : RunningStatistics) : PyFloat := h.root (variance h s)

def minVal (s : RunningStatistics) : PyFloat := if 0 < s.count then s.min else .finite 0

def maxVal (s : RunningStatistics) : PyFloat := if 0 < s.count then s.max else .finite 0

def toAggregationResult (s : RunningStatistics) (windowName : String) : AggregationResult :=
  ⟨windowName,s.count,s.sum,s.meanVal,std h s,s.minVal,s.maxVal,0⟩

end RunningStatistics

-- A datetime: its wall clock in microseconds and, when it is aware, its offset in seconds.
structure DateTime where
  wall : Int
  offset : Option Int

-- A naive one is taken as UTC.
def DateTime.aware (t : DateTime) : AwareTime := ⟨t.wall,t.offset.getD 0⟩

-- What the aggregators take of Python. A timestamp is a float of seconds, and it and what
-- is taken off it are rounded in the order of the exact numbers.
structure AggregatorHost extends StatisticsArithmetic where
  float : Value → Except FloatError PyFloat
  str : Value → String
  fromisoformat : String → Option (Int × Option Int)
  fromtimestamp : PyFloat → Except String Int
  timestamp : AwareTime → Rat
  before : Rat → Int → Rat
  floatFloat : ∀ x, float (.float x) = .ok x
  timestampOrder : ∀ a b : AwareTime, a.instant ≤ b.instant → timestamp a ≤ timestamp b
  beforeOrder : ∀ (a b : Rat) (long short : Int), a ≤ b → short ≤ long → before a long ≤ before b short

-- The duration of a window is positive, or its construction raises.
structure WindowSpec where
  name : String
  durationSeconds : Int
  positive : 0 < durationSeconds

namespace TimeWindowAggregator
variable (h : AggregatorHost)

def extractTimestamp (value : Value) : Except String (Option AwareTime) :=
  match value with
  | .datetime wall offset => .ok (some (DateTime.aware ⟨wall,offset⟩))
  | .bool b => (h.fromtimestamp (.ofBool b)).map fun wall => some ⟨wall,0⟩
  | .int n => (h.fromtimestamp (.finite n)).map fun wall => some ⟨wall,0⟩
  | .float x => (h.fromtimestamp x).map fun wall => some ⟨wall,0⟩
  | .str text => .ok ((h.fromisoformat (replaceZ text)).map fun parsed => DateTime.aware ⟨parsed.1,parsed.2⟩)
  | _ => .ok none

-- Whether a timestamp is in the window before the reference time.
def inWindow (refTs : Rat) (seconds : Int) (ts : Rat) : Bool := decide (h.before refTs seconds ≤ ts ∧ ts < refTs)

-- The value of one event, where it is there and a number.
def addValue (value : Value) (stats : RunningStatistics) : Except String RunningStatistics :=
  if value = .none then .ok stats
  else
    match h.float value with
    | .ok x => .ok (stats.add h.toStatisticsArithmetic x)
    | .error .refused => .ok stats
    | .error .overflow => .error "int too large to convert to float"

-- What is done with one event: read is for those in the window.
def eventStep (refTs : Rat) (seconds : Int) (timeField : String) (read : Record → α → Except String α) (held : α) (event : Record) :
    Except String α := do
  match ← extractTimestamp h (event.value timeField) with
  | none => pure held
  | some eventTime => if inWindow h refTs seconds (h.timestamp eventTime) then read event held else pure held

def aggregate (windows : List WindowSpec) (events : List Record) (referenceTime : DateTime) (valueField timeField : String) :
    Except String (OrderedDict String AggregationResult) :=
  let refTs := h.timestamp referenceTime.aware
  windows.foldlM (fun results spec => do
    let stats ← events.foldlM
      (eventStep h refTs spec.durationSeconds timeField fun event => addValue h (event.value valueField)) .fresh
    pure (results.set spec.name (stats.toAggregationResult h.toStatisticsArithmetic spec.name))) .empty

-- distinct.add(str(value)), where there is a value
def addDistinct (value : Value) (distinct : List String) : List String :=
  if value = .none ∨ value = .str "" then distinct
  else if h.str value ∈ distinct then distinct else distinct ++ [h.str value]

def computeDistinctCounts (windows : List WindowSpec) (events : List Record) (referenceTime : DateTime) (countField timeField : String) :
    Except String (OrderedDict String Nat) :=
  let refTs := h.timestamp referenceTime.aware
  windows.foldlM (fun results spec => do
    let distinct ← events.foldlM
      (eventStep h refTs spec.durationSeconds timeField fun event held => .ok (addDistinct h (event.value countField) held)) []
    pure (results.set spec.name distinct.length)) .empty

end TimeWindowAggregator

-- The events as they were added: the float of the time, the value and the metadata.
structure BufferedEvent where
  ts : Rat
  value : PyFloat
  metadata : Record

structure IncrementalAggregator where
  maxWindow : Int
  buffer : List BufferedEvent

namespace IncrementalAggregator
open TimeWindowAggregator (inWindow addDistinct)
variable (h : AggregatorHost)

-- Older than the longest window.
def expired (maxWindow : Int) (newest event : BufferedEvent) : Bool := decide (event.ts < h.before newest.ts maxWindow)

-- What one call of add_event is given.
structure AddedEvent where
  timestamp : DateTime
  value : PyFloat
  metadata : Option Record

def buffered (event : AddedEvent) : BufferedEvent := ⟨h.timestamp event.timestamp.aware,event.value,event.metadata.getD .empty⟩

def addEvent (agg : IncrementalAggregator) (event : AddedEvent) : IncrementalAggregator :=
  let entry := buffered h event
  {agg with buffer := (agg.buffer ++ [entry]).dropWhile (expired h agg.maxWindow entry)}

def getStatistics (agg : IncrementalAggregator) (referenceTime : DateTime) (windowSeconds : Int) : AggregationResult :=
  let refTs := h.timestamp referenceTime.aware
  let stats := agg.buffer.foldl (fun (stats : RunningStatistics) event =>
    if inWindow h refTs windowSeconds event.ts then stats.add h.toStatisticsArithmetic event.value else stats) .fresh
  stats.toAggregationResult h.toStatisticsArithmetic s!"{windowSeconds}s"

def getDistinctCount (agg : IncrementalAggregator) (referenceTime : DateTime) (windowSeconds : Int) (metadataKey : String) : Nat :=
  let refTs := h.timestamp referenceTime.aware
  (agg.buffer.foldl (fun distinct event =>
    if inWindow h refTs windowSeconds event.ts then addDistinct h (event.metadata.value metadataKey) distinct else distinct) []).length

end IncrementalAggregator
end RiskPulse
