import RiskPulse.Library.Effect
import RiskPulse.Library.SqlText
import RiskPulse.StorageOrchestrator

namespace RiskPulse

inductive LoadStrategy where
  | full
  | incremental
  | append
  deriving DecidableEq

structure LoadMetrics where
  batchId : String
  sourceSchema : String
  targetSchema : String
  tableName : String
  rowsLoaded : Nat
  rowsRejected : Nat
  durationMs : Rat
  strategy : LoadStrategy

-- A target table with its internal stage: the files in it by name, each the rows
-- written to it. A file an earlier call left behind is still there.
structure Warehouse where
  stage : OrderedDict String (List Record)
  table : List Record

-- What comes back from outside during a call: whether the PUT and the COPY INTO
-- raise, which rows of which file the COPY takes, which files it purges after it,
-- and what the clock and uuid4 give.
structure LoadOutcome where
  put : Except String Unit
  copy : Except String Unit
  accepts : String → Nat → Bool
  purges : String → Bool
  uuid4Hex : String
  loadTimestamp : String
  elapsedMs : Rat

namespace SnowflakeHandler
open Effect

def withMeta (batchId loadTimestamp : String) (record : Record) : Record :=
  (record.set "_batch_id" (.str batchId)).set "_load_timestamp" (.str loadTimestamp)

def fileName (batchId : String) : String := batchId ++ ".json.gz"

-- A file of the same name is overwritten.
def putFile (name : String) (rows : List Record) (o : LoadOutcome) : Effect Warehouse Unit := fun w =>
  match o.put with
  | .ok _ => (.ok (),{w with stage := w.stage.set name rows})
  | .error e => (.error e,w)

def taken (accepts : Nat → Bool) (rows : List Record) : List Record :=
  (rows.zipIdx.filter fun row => accepts row.2).map Prod.fst

def takenOf (o : LoadOutcome) (file : String × List Record) : List Record := taken (o.accepts file.1) file.2

-- Under ON_ERROR = CONTINUE a row that is not taken raises nothing. The result is
-- the cursor's rowcount, the number of rows loaded.
def copyInto (o : LoadOutcome) : Effect Warehouse Nat := fun w =>
  match o.copy with
  | .error e => (.error e,w)
  | .ok _ =>
    let rows := w.stage.entries.flatMap (takenOf o)
    let gone := (w.stage.entries.map Prod.fst).filter o.purges
    (.ok rows.length,{w with stage := gone.foldl OrderedDict.erase w.stage,table := w.table ++ rows})

-- A batch_id that is None or empty is drawn.
def drawBatchId (batchId : Option String) (o : LoadOutcome) : String :=
  match batchId with
  | some text => if text = "" then String.ofList (o.uuid4Hex.toList.take 16) else text
  | none => String.ofList (o.uuid4Hex.toList.take 16)

def putAndCopy (data : List Record) (targetTable schema : String) (batchId : Option String) (o : LoadOutcome) :
    Effect Warehouse LoadMetrics :=
  if data.isEmpty then pure ⟨batchId.getD "","LOCAL",schema,targetTable,0,0,0,.append⟩
  else do
    let id := drawBatchId batchId o
    putFile (fileName id) (data.map (withMeta id o.loadTimestamp)) o
    let rowcount ← copyInto o
    -- rowcount or len(data)
    let rowsLoaded := if rowcount = 0 then data.length else rowcount
    pure ⟨id,"LOCAL",schema,targetTable,rowsLoaded,0,o.elapsedMs,.append⟩

-- Compatibility wrapper for orchestrated buffered loads.
def bulkLoadRecords (records : List Record) (tableName schema : String) (batchId : Option String) (o : LoadOutcome) :
    Effect Warehouse LoadMetrics := putAndCopy records tableName schema batchId o

-- What flush_snowflake_buffer makes of the load: any return is a success.
def uploadOutcome (loaded : Except String LoadMetrics) (latencyMs : Rat) : Outcome :=
  match loaded with
  | .ok _ => ⟨.returned latencyMs,true⟩
  | .error _ => ⟨.failed,false⟩

-- How many rows the COPY takes from the file of the call, and from other files.
def ownRows (id : String) (data : List Record) (o : LoadOutcome) : Nat :=
  (taken (o.accepts (fileName id)) (data.map (withMeta id o.loadTimestamp))).length

def otherRows (id : String) (w : Warehouse) (o : LoadOutcome) : Nat :=
  ((w.stage.erase (fileName id)).entries.map fun file => (takenOf o file).length).sum

theorem taken_length (accepts : Nat → Bool) (rows : List Record) :
    (taken accepts rows).length ≤ rows.length ∧
      ((taken accepts rows).length = rows.length ↔ ∀ i < rows.length, accepts i = true) := by
  have counted : (taken accepts rows).length = (rows.zipIdx.filter fun row => accepts row.2).length := by
    rw [taken,List.length_map]
  have whole : rows.zipIdx.length = rows.length := List.length_zipIdx
  rw [counted]
  refine ⟨whole ▸ List.length_filter_le _ _,?_⟩
  conv_lhs => rw [← whole]
  rw [List.length_filter_eq_length_iff]
  constructor
  · intro all i bound
    exact all (rows[i],i) (List.mk_mem_zipIdx_iff_getElem?.mpr (List.getElem?_eq_getElem bound))
  · intro all row member
    have found := List.mk_mem_zipIdx_iff_getElem?.mp (show (row.1,row.2) ∈ rows.zipIdx from member)
    exact all row.2 (List.getElem?_eq_some_iff.mp found).1

-- What the COPY loads after the PUT: the rows it takes of the file and of the others.
theorem copy_count (o : LoadOutcome) (w : Warehouse) (name : String) (rows : List Record) :
    ((w.stage.set name rows).entries.flatMap (takenOf o)).length =
      (taken (o.accepts name) rows).length + ((w.stage.erase name).entries.map fun file => (takenOf o file).length).sum := by
  have found : (w.stage.set name rows).get? name = some rows := by rw [OrderedDict.get?_set,if_pos rfl]
  rw [List.length_flatMap,OrderedDict.sum_split (fun file => (takenOf o file).length) _ found,OrderedDict.erase_set]
  rfl

-- The outcomes in which both statements return; any rows may be taken or refused.
def answered (o : LoadOutcome) : LoadOutcome := {o with put := .ok (),copy := .ok ()}

theorem rowcount_or (loaded before size : Nat) :
    (if loaded = 0 then size else loaded) = if before + loaded = before then size else before + loaded - before := by
  by_cases nothing : loaded = 0
  · rw [if_pos nothing,if_pos (by omega)]
  · rw [if_neg nothing,if_neg (by omega)]
    omega

section Answered
variable (first : Record) (rest : List Record) (targetTable schema : String) (batchId : Option String)
  (o : LoadOutcome) (w : Warehouse)

theorem putAndCopy_answered : ∃ metrics t,
    putAndCopy (first :: rest) targetTable schema batchId (answered o) w = (.ok metrics,t) ∧
      t.table.length = w.table.length + ownRows (drawBatchId batchId o) (first :: rest) o +
        otherRows (drawBatchId batchId o) w o ∧
      metrics.rowsLoaded = (if t.table.length = w.table.length then (first :: rest).length
        else t.table.length - w.table.length) ∧ metrics.rowsRejected = 0 := by
  have count := copy_count o w (fileName (drawBatchId batchId o))
    ((first :: rest).map (withMeta (drawBatchId batchId o) o.loadTimestamp))
  refine ⟨_,_,rfl,?_,?_,rfl⟩
  · rw [List.length_append]
    have grown := congrArg (w.table.length + ·) count
    rw [← Nat.add_assoc] at grown
    exact grown
  · rw [List.length_append]
    exact rowcount_or _ _ _

end Answered

-- What is asked of a load of a batch and of the flush that makes it: the rows loaded
-- are reported as loaded, the records are all accounted for, and when the flush lets
-- go of the batch, the rows of it that were not loaded are reported as rejected.
structure Accounts (c : StorageOrchestrator) (s : Storage) (batch : List Record) (batchId : Option String) (o : LoadOutcome)
    (w : Warehouse) (loaded : Except String LoadMetrics) (t : Warehouse) : Prop where
  returned : ∃ metrics, loaded = .ok metrics ∧ w.table.length + metrics.rowsLoaded = t.table.length ∧
    metrics.rowsLoaded + metrics.rowsRejected = batch.length ∧
    ((c.exec (.upload .snowflake batch) (uploadOutcome loaded o.elapsedMs) s).2 = some [] →
      batch.length = ownRows (drawBatchId batchId o) batch o + metrics.rowsRejected)

-- The COPY takes every row of the file, and no row of another one.
def LoadsAll (batch : List Record) (batchId : Option String) (o : LoadOutcome) (w : Warehouse) : Prop :=
  (∀ i < batch.length, o.accepts (fileName (drawBatchId batchId o)) i = true) ∧
    otherRows (drawBatchId batchId o) w o = 0

-- For every batch that is not empty, every state of the stage and the table and every
-- outcome of the COPY that is not an exception: the load is accounted for, and the
-- flush lets go of what was loaded or reported only, if and only if all was loaded.
theorem load_accounting_exact (c : StorageOrchestrator) (s : Storage) (first : Record) (rest : List Record)
    (batchId : Option String) (o : LoadOutcome) (w : Warehouse) :
    Accounts c s (first :: rest) batchId o w
        (bulkLoadRecords (first :: rest) "TRANSACTIONS" "RAW" batchId (answered o) w).1
        (bulkLoadRecords (first :: rest) "TRANSACTIONS" "RAW" batchId (answered o) w).2 ↔
      LoadsAll (first :: rest) batchId o w := by
  obtain ⟨metrics,t,ran,grown,reported,rejected⟩ := putAndCopy_answered first rest "TRANSACTIONS" "RAW" batchId o w
  have own := taken_length (o.accepts (fileName (drawBatchId batchId o)))
    ((first :: rest).map (withMeta (drawBatchId batchId o) o.loadTimestamp))
  rw [List.length_map] at own
  have positive : 0 < (first :: rest).length := Nat.succ_pos _
  rw [bulkLoadRecords,ran]
  constructor
  · intro accounts
    obtain ⟨same,returned,loaded,whole,kept⟩ := accounts.returned
    cases returned
    rw [rejected,Nat.add_zero] at whole
    have dropped := kept rfl
    rw [rejected,Nat.add_zero] at dropped
    refine ⟨own.2.mp dropped.symm,?_⟩
    have counted : (first :: rest).length = ownRows (drawBatchId batchId o) (first :: rest) o := dropped
    simp only at loaded
    unfold ownRows at counted
    omega
  · intro all
    obtain ⟨every,others⟩ := all
    have counted : ownRows (drawBatchId batchId o) (first :: rest) o = (first :: rest).length := own.2.mpr every
    have changed : t.table.length ≠ w.table.length := by omega
    rw [if_neg changed] at reported
    refine ⟨metrics,rfl,?_,?_,fun _ => ?_⟩
    · simp only
      omega
    · omega
    · omega

def anyOrchestrator : StorageOrchestrator := ⟨false,false,false,true,1000,1,false,5,30,fun _ => ""⟩

-- One record, and a COPY that refuses it.
def refused : LoadOutcome := ⟨.ok (),.ok (),fun _ _ => false,fun _ => true,"0123456789abcdef0123456789abcdef","",0⟩

theorem refused_record_reported_loaded :
    (bulkLoadRecords [.empty] "TRANSACTIONS" "RAW" none refused ⟨.empty,[]⟩).1.toOption.map LoadMetrics.rowsLoaded = some 1 ∧
      (bulkLoadRecords [.empty] "TRANSACTIONS" "RAW" none refused ⟨.empty,[]⟩).2.table = [] ∧
      (anyOrchestrator.exec (.upload .snowflake [.empty])
        (uploadOutcome (bulkLoadRecords [.empty] "TRANSACTIONS" "RAW" none refused ⟨.empty,[]⟩).1 0) .start).2 = some [] :=
  ⟨rfl,rfl,rfl⟩

end SnowflakeHandler
end RiskPulse

namespace RiskPulse.SnowflakeHandler
open Effect

-- str is Python's, and a digit of any script is the number it stands for.
structure ProcedureHost where
  str : Value → String
  digit : Char → Option Nat

variable (h : ProcedureHost)

def renderArgument : Value → String
  | .str text => "'" ++ text ++ "'"
  | value => h.str value

def callStatement (procedureName : String) (args : List Value) : String :=
  "CALL " ++ procedureName ++ "(" ++ ", ".intercalate (args.map (renderArgument h)) ++ ")"

def callProcedure (executeQuery : String → Option String → Effect σ (List Record)) (procedureName : String) (args : List Value)
    (schema : Option String) : Effect σ String := do
  let rows ← executeQuery (callStatement h procedureName args) schema
  match rows with
  | [] => pure ""
  | firstRow :: _ =>
    match firstRow.entries with
    | [] => pure ""
    | (_,value) :: _ => pure (h.str value)

-- The first run of digits, which int reads when it is not too long.
def parseRowsFromResult (resultStr : String) : Except String Nat :=
  let found := (resultStr.toList.dropWhile fun c => (h.digit c).isNone).takeWhile fun c => (h.digit c).isSome
  if 4300 < found.length then .error s!"Exceeds the limit (4300 digits) for integer string conversion: value has {found.length} digits"
  else .ok (found.foldl (fun n c => 10 * n + (h.digit c).getD 0) 0)

-- The procedures that load the staging tables, in order.
def stagingProcedures : List (String × String) :=
  [("STAGING.LOAD_TRANSACTIONS","STG_TRANSACTIONS"),
    ("STAGING.LOAD_FRAUD_ALERTS","STG_FRAUD_ALERTS"),
    ("STAGING.LOAD_RISK_SCORES","STG_RISK_SCORES")]

def processRawToStaging (executeQuery : String → Option String → Effect σ (List Record)) (batchId : String) (durationMs : String → Rat) :
    Effect σ (OrderedDict String LoadMetrics) :=
  stagingProcedures.foldlM (fun results entry => do
    let procResult ← callProcedure h executeQuery entry.1 [.str batchId] none
    let rowsLoaded ← ofExcept (parseRowsFromResult h procResult)
    pure (results.set entry.2 ⟨batchId,"RAW","STAGING",entry.2,rowsLoaded,0,durationMs entry.2,.append⟩)) .empty

-- The statement is the text of a call in which the arguments stand as they are.
theorem callStatement_text (procedureName : String) (args : List String) :
    (callStatement h procedureName (args.map .str)).toList = SqlText.callText procedureName.toList (args.map String.toList) := by
  have arguments : (args.map Value.str).map (fun value => (renderArgument h value).toList) =
      (args.map String.toList).map SqlText.literalText := by
    rw [List.map_map,List.map_map]
    apply List.map_congr_left
    intro text _
    simp [renderArgument,SqlText.literalText,SqlText.quote]
  have joined : (", ".intercalate ((args.map Value.str).map (renderArgument h))).toList =
      [',',' '].intercalate ((args.map String.toList).map SqlText.literalText) := by
    rw [String.toList_intercalate,List.map_map,← arguments]
    rfl
  unfold callStatement
  simp only [String.toList_append,joined]
  simp [SqlText.callText,SqlText.callWord]

-- The statement is read as one call of the procedure with these arguments, exactly when
-- the name is one and no argument has a quote or a backslash.
theorem procedure_call_exact (procedureName : String) (args : List String) :
    SqlText.call (callStatement h procedureName (args.map .str)).toList = some (procedureName.toList,args.map String.toList) ↔
      SqlText.isName procedureName.toList = true ∧ ∀ arg ∈ args, SqlText.Plain arg.toList := by
  rw [callStatement_text,SqlText.call_exact]
  simp only [List.forall_mem_map]

theorem apostrophe_splits : ¬∀ (h : ProcedureHost) (procedureName : String) (args : List String),
    SqlText.isName procedureName.toList = true →
      SqlText.call (callStatement h procedureName (args.map .str)).toList = some (procedureName.toList,args.map String.toList) := by
  intro verbatim
  have read := verbatim ⟨fun _ => "",fun _ => none⟩ "STAGING.LOAD_TRANSACTIONS" ["x', 'y"] (by decide +kernel)
  exact absurd read (by decide +kernel)

-- A batch is loaded under its own identifier when it is plain, and only then.
theorem staging_calls (batchId : String) : ∀ entry ∈ stagingProcedures,
    SqlText.call (callStatement h entry.1 [.str batchId]).toList = some (entry.1.toList,[batchId.toList]) ↔ SqlText.Plain batchId.toList := by
  intro entry member
  have named : ∀ entry ∈ stagingProcedures, SqlText.isName entry.1.toList = true := by decide +kernel
  have text := callStatement_text h entry.1 [batchId]
  rw [List.map_singleton] at text
  rw [text,List.map_singleton,SqlText.call_exact]
  simp [named entry member]

end RiskPulse.SnowflakeHandler
