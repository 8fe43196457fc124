import RiskPulse.Library.Interleaving
import RiskPulse.Library.Watermark

namespace RiskPulse
open Watermark

-- A source table, as the values of its watermark column in the order the rows were
-- committed, the target, as the numbers of the rows copied to it, and the watermark of
-- the target: in LOAD_WATERMARKS and in the memory of each handler. latest and
-- completed are history: the value of the last update_watermark, and how many source
-- rows there were when the last load that completed began.
structure IncrementalState (W : Type) where
  source : List W
  target : List Nat
  stored : Option W
  remembered : Nat → Option W
  latest : Option W
  completed : Nat

-- How a statement ends: it is done, or it raises and has done nothing, with an error
-- the handler turns into SnowflakeQueryError or with another one.
inductive Reply where
  | done
  | queryError
  | raised
  deriving DecidableEq

-- The statements of a load of a handler, each with the number of source rows there
-- were when the load began.
inductive LoadTask (W : Type) where
  | getWatermark (handler began : Nat)
  | insertSelect (handler began : Nat) (watermark : Option W)
  | selectMax (handler began : Nat) (watermark : Option W)
  | mergeWatermark (handler began : Nat) (value : W)
  deriving DecidableEq

inductive LoadEvent (W : Type) where
  | commit (value : W)
  | loadIncremental (handler : Nat)

namespace IncrementalState
variable {W : Type}

def remember (s : IncrementalState W) (handler : Nat) (value : W) : IncrementalState W :=
  {s with remembered := fun other => if other = handler then some value else s.remembered other}

def complete (s : IncrementalState W) (began : Nat) : IncrementalState W := {s with completed := began}

-- What the handler takes for the watermark: a remembered value, or else the stored one.
def known (s : IncrementalState W) (handler : Nat) : Option W := (s.remembered handler).or s.stored

end IncrementalState

namespace SnowflakeHandler
variable {W : Type}

-- get_watermark: the query is made only when nothing is remembered, and an error of
-- it is passed over as if the table had never been loaded.
def getWatermark (handler began : Nat) (reply : Reply) (s : IncrementalState W) :
    IncrementalState W × Option (List (LoadTask W)) :=
  match s.remembered handler,reply,s.stored with
  | some value,_,_ => (s,some [.insertSelect handler began (some value)])
  | none,.done,some value => (s.remember handler value,some [.insertSelect handler began (some value)])
  | none,.done,none | none,.queryError,_ => (s,some [.insertSelect handler began none])
  | none,.raised,_ => (s,none)

-- update_watermark: the value is remembered before the MERGE.
def updateWatermark (handler began : Nat) (value : W) (reply : Reply) (s : IncrementalState W) :
    IncrementalState W × Option (List (LoadTask W)) :=
  let updated := {s.remember handler value with latest := some value}
  if reply = .done then ({updated with stored := some value}.complete began,some []) else (updated,none)

section Ordered
variable [LinearOrder W]

-- INSERT INTO target SELECT .. FROM source WHERE column > watermark
def insertSelect (handler began : Nat) (watermark : Option W) (reply : Reply) (s : IncrementalState W) :
    IncrementalState W × Option (List (LoadTask W)) :=
  if reply = .done then
    let rows := (s.source.zipIdx.filter fun row => above watermark row.1).map Prod.snd
    ({s with target := s.target ++ rows},some [.selectMax handler began watermark])
  else (s,none)

-- SELECT MAX(column) FROM source WHERE column > watermark. Without a row there is no
-- update, and the load is complete.
def selectMax (handler began : Nat) (watermark : Option W) (reply : Reply) (s : IncrementalState W) :
    IncrementalState W × Option (List (LoadTask W)) :=
  if reply = .done then
    match (s.source.filter (above watermark)).max? with
    | some value => (s,some [.mergeWatermark handler began value])
    | none => (s.complete began,some [])
  else (s,none)

def execLoad : LoadTask W → Reply → IncrementalState W → IncrementalState W × Option (List (LoadTask W))
  | .getWatermark handler began => getWatermark handler began
  | .insertSelect handler began watermark => insertSelect handler began watermark
  | .selectMax handler began watermark => selectMax handler began watermark
  | .mergeWatermark handler began value => updateWatermark handler began value

-- The values of the source do not decrease: a commit of a smaller one is none.
def loadEvent : LoadEvent W → IncrementalState W → IncrementalState W × List (LoadTask W)
  | .commit value,s => if ∀ v ∈ s.source, v ≤ value then ({s with source := s.source ++ [value]},[]) else (s,[])
  | .loadIncremental handler,s => (s,[.getWatermark handler s.source.length])

def incrementalLoads (W : Type) [LinearOrder W] : Interleaved (IncrementalState W) (LoadTask W) Reply (LoadEvent W) :=
  ⟨execLoad,loadEvent⟩

end Ordered

abbrev Loads (W : Type) := Interleaved.Pool (IncrementalState W) (LoadTask W)
abbrev LoadAction (W : Type) := Interleaved.Action Reply (LoadEvent W)

def Loads.start : Loads W := ⟨⟨[],[],none,fun _ => none,none,0⟩,[]⟩

end SnowflakeHandler
end RiskPulse
