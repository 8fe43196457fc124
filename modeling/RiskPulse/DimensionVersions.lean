import RiskPulse.Library.Effect
import RiskPulse.Library.Fallible
import RiskPulse.Library.Sql

namespace RiskPulse

-- The values of a row by column, under the column's name in upper case: an
-- unquoted identifier names a column whatever its case. No value is NULL.
abbrev Columns (V : Type) := String → Option V

structure DimensionRow (V T : Type) where
  columns : Columns V
  effectiveFrom : T
  effectiveTo : T
  isCurrent : Bool

-- What is fixed about the two tables: the columns they have, what a new row of the
-- dimension holds in those it is not given, 9999-12-31, and how a text is shown.
structure DimensionCatalog (V T : Type) where
  stagingColumns : List String
  dimensionColumns : List String
  defaults : Columns V
  endOfTime : T
  repr : String → String

namespace SnowflakeHandler
open Effect
open Sql hiding eq
variable {V T : Type}

abbrev Dimension (V T : Type) := List (DimensionRow V T)

-- ^[A-Za-z_][A-Za-z0-9_$]*$
def identifierRe (identifier : String) : Bool :=
  match identifier.toList with
  | [] => false
  | first :: rest => (first.isAlpha || first = '_') && rest.all fun c => c.isAlphanum || c = '_' || c = '$'

def validateIdentifier (repr : String → String) (identifier name : String) : Except String String :=
  if identifierRe identifier then .ok identifier
  else .error ("Unsafe Snowflake " ++ name ++ ": " ++ repr identifier)

def upper (identifier : String) : String := identifier.toUpper

section Statements
variable [DecidableEq V]

-- dim.col != stg.col OR ..
def changeConditions (tracked : List String) (dim stg : Columns V) : Truth :=
  anyOf (tracked.map fun col => ne (dim col) (stg col))

def closeWhere (key : String) (tracked : List String) (batchId : V) (dim : DimensionRow V T) (stg : Columns V) : Truth :=
  both (both (both (Sql.eq (dim.columns key) (stg key)) (some dim.isCurrent)) (Sql.eq (stg "BATCH_ID") (some batchId)))
    (changeConditions tracked dim.columns stg)

def closed (now : T) (dim : DimensionRow V T) : DimensionRow V T := {dim with effectiveTo := now,isCurrent := false}

def joinOn (key : String) (stg : Columns V) (dim : DimensionRow V T) : Truth :=
  both (Sql.eq (stg key) (dim.columns key)) (some dim.isCurrent)

-- A staged row without a match is joined with a row of NULLs.
def joined (dim : Option (DimensionRow V T)) : Columns V := dim.elim (fun _ => none) DimensionRow.columns

def insertWhere (key : String) (tracked : List String) (batchId : V) (stg : Columns V) (dim : Option (DimensionRow V T)) :
    Truth :=
  both (Sql.eq (stg "BATCH_ID") (some batchId))
    (either (isNull (joined dim key)) (changeConditions tracked (joined dim) stg))

def version (c : DimensionCatalog V T) (key : String) (tracked : List String) (now : T) (stg : Columns V) :
    DimensionRow V T where
  columns col := if col ∈ key :: tracked then stg col else c.defaults col
  effectiveFrom := now
  effectiveTo := c.endOfTime
  isCurrent := true

def closeChanged (key : String) (tracked : List String) (batchId : V) (now : T) (staging : List (Columns V))
    (dims : Dimension V T) : Dimension V T := updateFrom (closeWhere key tracked batchId) (closed now) dims staging

def newVersions (c : DimensionCatalog V T) (key : String) (tracked : List String) (batchId : V) (now : T)
    (staging : List (Columns V)) (dims : Dimension V T) : Dimension V T :=
  ((leftJoin (joinOn key) staging dims).filter fun row => holds (insertWhere key tracked batchId row.1 row.2)).map
    fun row => version c key tracked now row.1

def compile (problem : String) (fine : Bool) : Except String Unit :=
  if fine then .ok () else .error ("DML execution failed: SQL compilation error: " ++ problem)

def known (columns : List String) (names : List String) : Bool := names.all fun name => decide (name ∈ columns)

-- An empty list of tracked columns leaves AND () in the statement.
def compileClose (c : DimensionCatalog V T) (key : String) (tracked : List String) : Except String Unit := do
  compile "syntax error" (!tracked.isEmpty)
  compile "invalid identifier" (known c.stagingColumns (key :: "BATCH_ID" :: tracked))
  compile "invalid identifier" (known c.dimensionColumns (key :: "IS_CURRENT" :: "EFFECTIVE_TO" :: tracked))

def insertColumns (key : String) (tracked : List String) : List String :=
  key :: (tracked ++ ["EFFECTIVE_FROM","EFFECTIVE_TO","IS_CURRENT"])

def compileInsert (c : DimensionCatalog V T) (key : String) (tracked : List String) : Except String Unit := do
  compile "duplicate column name" (decide (insertColumns key tracked).Nodup)
  compile "invalid identifier" (known c.dimensionColumns (insertColumns key tracked))

-- Each statement commits by itself, at its own CURRENT_TIMESTAMP(). The result is the
-- rowcount of the insert.
def applyScdType2 (c : DimensionCatalog V T) (staging : List (Columns V)) (stagingTable dimensionTable businessKey : String)
    (trackedColumns : List String) (batchId : V) (closeTime insertTime : T) : Effect (Dimension V T) Nat := do
  let _ ← ofExcept (validateIdentifier c.repr stagingTable "staging table")
  let _ ← ofExcept (validateIdentifier c.repr dimensionTable "dimension table")
  let businessKey ← ofExcept (validateIdentifier c.repr businessKey "business key")
  let trackedColumns ← ofExcept (trackedColumns.mapM fun column => validateIdentifier c.repr column "tracked column")
  let key := upper businessKey
  let tracked := trackedColumns.map upper
  ofExcept (compileClose c key tracked)
  modify (closeChanged key tracked batchId closeTime staging)
  ofExcept (compileInsert c key tracked)
  let inserted ← read (newVersions c key tracked batchId insertTime staging)
  modify fun dims => dims ++ inserted
  pure inserted.length

end Statements
-- A staged row of the batch.
def InBatch (batchId : V) (stg : Columns V) : Prop := stg "BATCH_ID" = some batchId

def Current (key : String) (k : V) (dim : DimensionRow V T) : Prop := dim.isCurrent = true ∧ dim.columns key = some k

-- The two rows differ in a tracked column that is NULL in neither.
def Changed (tracked : List String) (dim stg : Columns V) : Prop :=
  ∃ col ∈ tracked, ∃ v w, dim col = some v ∧ stg col = some w ∧ v ≠ w

def Agrees (tracked : List String) (dim stg : Columns V) : Prop := ∀ col ∈ tracked, dim col = stg col

theorem Agrees.unchanged {dim stg : Columns V} (agrees : Agrees tracked dim stg) : ¬Changed tracked dim stg := by
  intro given
  obtain ⟨col,member,v,w,has,staged,different⟩ := given
  rw [agrees col member,staged] at has
  exact different (Option.some.inj has).symm

section Rows
variable [DecidableEq V]

instance (key : String) (k : V) (dim : DimensionRow V T) : Decidable (Current key k dim) :=
  inferInstanceAs (Decidable (_ ∧ _))

theorem holds_changeConditions (tracked : List String) (dim stg : Columns V) :
    holds (changeConditions tracked dim stg) = true ↔ Changed tracked dim stg := by
  rw [changeConditions,holds_anyOf]
  constructor
  · intro given
    obtain ⟨_,member,met⟩ := given
    obtain ⟨col,isTracked,rfl⟩ := List.mem_map.mp member
    exact ⟨col,isTracked,(holds_ne _ _).mp met⟩
  · intro given
    obtain ⟨col,isTracked,differs⟩ := given
    exact ⟨_,List.mem_map.mpr ⟨col,isTracked,rfl⟩,(holds_ne _ _).mpr differs⟩

theorem holds_inBatch (batchId : V) (stg : Columns V) :
    holds (Sql.eq (stg "BATCH_ID") (some batchId)) = true ↔ InBatch batchId stg := by
  rw [holds_eq]
  constructor
  · intro given
    obtain ⟨v,has,same⟩ := given
    cases same
    exact has
  · intro has
    exact ⟨batchId,has,rfl⟩

theorem holds_joinOn (key : String) (stg : Columns V) (dim : DimensionRow V T) :
    holds (joinOn key stg dim) = true ↔ ∃ k, stg key = some k ∧ Current key k dim := by
  rw [joinOn,holds_both,holds_eq,holds_some]
  constructor
  · intro given
    obtain ⟨⟨k,staged,has⟩,current⟩ := given
    exact ⟨k,staged,current,has⟩
  · intro given
    obtain ⟨k,staged,current,has⟩ := given
    exact ⟨⟨k,staged,has⟩,current⟩

theorem holds_closeWhere (key : String) (tracked : List String) (batchId : V) (dim : DimensionRow V T) (stg : Columns V) :
    holds (closeWhere key tracked batchId dim stg) = true ↔
      (∃ k, stg key = some k ∧ Current key k dim) ∧ InBatch batchId stg ∧ Changed tracked dim.columns stg := by
  rw [closeWhere,holds_both,holds_both,holds_both,holds_inBatch,holds_changeConditions,holds_eq,holds_some,and_assoc,and_assoc]
  constructor
  · intro given
    obtain ⟨⟨k,has,staged⟩,current,inside,changed⟩ := given
    exact ⟨⟨k,staged,current,has⟩,inside,changed⟩
  · intro given
    obtain ⟨⟨k,staged,current,has⟩,inside,changed⟩ := given
    exact ⟨⟨k,has,staged⟩,current,inside,changed⟩

-- A row that some staged row of the batch closes.
def Closes (key : String) (tracked : List String) (batchId : V) (staging : List (Columns V)) (dim : DimensionRow V T) : Prop :=
  ∃ stg ∈ staging, (∃ k, stg key = some k ∧ Current key k dim) ∧ InBatch batchId stg ∧ Changed tracked dim.columns stg

theorem any_closes (key : String) (tracked : List String) (batchId : V) (staging : List (Columns V))
    (dim : DimensionRow V T) :
    (staging.any fun stg => holds (closeWhere key tracked batchId dim stg)) = true ↔
      Closes key tracked batchId staging dim := by
  rw [List.any_eq_true]
  exact exists_congr fun stg => and_congr_right fun _ => holds_closeWhere key tracked batchId dim stg

instance (key : String) (tracked : List String) (batchId : V) (staging : List (Columns V)) (dim : DimensionRow V T) :
    Decidable (Closes key tracked batchId staging dim) := decidable_of_iff _ (any_closes key tracked batchId staging dim)

section Call
variable (c : DimensionCatalog V T) (key : String) (tracked : List String) (batchId : V) (staging : List (Columns V))

theorem closeChanged_map (now : T) (dims : Dimension V T) :
    closeChanged key tracked batchId now staging dims =
      dims.map fun dim => if Closes key tracked batchId staging dim then closed now dim else dim := by
  rw [closeChanged,updateFrom]
  apply List.map_congr_left
  intro dim _
  by_cases closes : Closes key tracked batchId staging dim
  · rw [if_pos closes,if_pos ((any_closes key tracked batchId staging dim).mpr closes)]
  · rw [if_neg closes,if_neg fun met => closes ((any_closes key tracked batchId staging dim).mp met)]

def currents (k : V) (dims : Dimension V T) : Dimension V T := dims.filter fun dim => decide (Current key k dim)

-- The rows the batch has for a business key.
def staged (k : V) : List (Columns V) :=
  staging.filter fun stg => decide (stg "BATCH_ID" = some batchId ∧ stg key = some k)

theorem mem_currents (k : V) (dims : Dimension V T) (dim : DimensionRow V T) :
    dim ∈ currents key k dims ↔ dim ∈ dims ∧ Current key k dim := by
  rw [currents,List.mem_filter,decide_eq_true_iff]

theorem mem_staged (k : V) (stg : Columns V) :
    stg ∈ staged key batchId staging k ↔ stg ∈ staging ∧ InBatch batchId stg ∧ stg key = some k := by
  rw [staged,List.mem_filter,decide_eq_true_iff,InBatch]

theorem closeChanged_currents (now : T) (k : V) (dims : Dimension V T) :
    currents key k (closeChanged key tracked batchId now staging dims) =
      (currents key k dims).filter fun dim => decide (¬Closes key tracked batchId staging dim) := by
  rw [closeChanged_map]
  induction dims with
  | nil => rfl
  | cons dim rest ih =>
    rw [List.map_cons,currents,currents,List.filter_cons,List.filter_cons]
    have tail : (rest.map fun dim => if Closes key tracked batchId staging dim then closed now dim else dim).filter
        (fun dim => decide (Current key k dim)) = _ := ih
    rw [tail]
    by_cases closes : Closes key tracked batchId staging dim
    · have gone : ¬Current key k (closed now dim) := fun current => Bool.noConfusion current.1
      rw [if_pos closes,if_neg (by simpa using gone)]
      by_cases current : Current key k dim
      · rw [if_pos (by simpa using current),List.filter_cons,if_neg (by simpa using closes)]
        rfl
      · rw [if_neg (by simpa using current)]
        rfl
    · rw [if_neg closes]
      by_cases current : Current key k dim
      · rw [if_pos (by simpa using current),if_pos (by simpa using current),List.filter_cons,if_pos (by simpa using closes)]
        rfl
      · rw [if_neg (by simpa using current),if_neg (by simpa using current)]
        rfl

-- After the close the change condition holds of no pair, so what is inserted is the
-- staged rows without a current row of their key.
theorem newVersions_unmatched (now : T) (dims : Dimension V T)
    (quiet : ∀ dim ∈ dims, ¬Closes key tracked batchId staging dim) :
    newVersions c key tracked batchId now staging dims =
      (staging.filter fun stg => decide (stg "BATCH_ID" = some batchId) && dims.all fun dim => !holds (joinOn key stg dim)).map
        (version c key tracked now) := by
  have alone : ∀ stg : Columns V, holds (insertWhere key tracked batchId stg (none : Option (DimensionRow V T))) =
      decide (stg "BATCH_ID" = some batchId) := by
    intro stg
    have null : holds (either (isNull (joined (none : Option (DimensionRow V T)) key))
        (changeConditions tracked (joined (none : Option (DimensionRow V T))) stg)) = true :=
      (holds_either _ _).mpr (.inl rfl)
    rw [Bool.eq_iff_iff,insertWhere,holds_both,holds_inBatch,decide_eq_true_iff]
    simp only [null,and_true]
    exact Iff.rfl
  have matched : ∀ stg ∈ staging, ∀ dim ∈ dims, holds (joinOn key stg dim) = true →
      holds (insertWhere key tracked batchId stg (some dim)) = false := by
    intro stg among dim member hit
    obtain ⟨k,isStaged,current⟩ := (holds_joinOn key stg dim).mp hit
    rw [Bool.eq_false_iff]
    intro met
    obtain ⟨inside,either⟩ := (holds_both _ _).mp met
    rcases (holds_either _ _).mp either with null | changed
    · have has : joined (some dim) key = some k := current.2
      rw [has] at null
      cases null
    · exact quiet dim member ⟨stg,among,⟨k,isStaged,current⟩,(holds_inBatch batchId stg).mp inside,
        (holds_changeConditions tracked dim.columns stg).mp changed⟩
  rw [newVersions,leftJoin_unmatched (joinOn key) (fun row => holds (insertWhere key tracked batchId row.1 row.2)) _
    staging dims alone matched,List.map_map]
  rfl

omit [DecidableEq V] in
theorem version_current (now : T) (k : V) (stg : Columns V) :
    Current key k (version c key tracked now stg) ↔ stg key = some k := by
  have has : (version c key tracked now stg).columns key = stg key := if_pos List.mem_cons_self
  rw [Current,has]
  exact ⟨fun both => both.2,fun same => ⟨rfl,same⟩⟩

omit [DecidableEq V] in
theorem version_agrees (now : T) (stg : Columns V) : Agrees tracked (version c key tracked now stg).columns stg :=
  fun _ member => if_pos (List.mem_cons_of_mem _ member)

theorem newVersions_currents (now : T) (k : V) (dims : Dimension V T)
    (quiet : ∀ dim ∈ dims, ¬Closes key tracked batchId staging dim) :
    currents key k (newVersions c key tracked batchId now staging dims) =
      if currents key k dims = [] then (staged key batchId staging k).map (version c key tracked now) else [] := by
  rw [newVersions_unmatched c key tracked batchId staging now dims quiet,currents,List.filter_map,List.filter_filter]
  have alone : ∀ stg, stg key = some k →
      ((dims.all fun dim => !holds (joinOn key stg dim)) = true ↔ currents key k dims = []) := by
    intro stg isStaged
    rw [List.all_eq_true,List.eq_nil_iff_forall_not_mem]
    constructor
    · intro none dim member
      obtain ⟨among,current⟩ := (mem_currents key k dims dim).mp member
      have hit := (holds_joinOn key stg dim).mpr ⟨k,isStaged,current⟩
      simpa [hit] using none dim among
    · intro none dim among
      rw [Bool.not_eq_true',Bool.eq_false_iff]
      intro hit
      obtain ⟨key',staged',current⟩ := (holds_joinOn key stg dim).mp hit
      rw [isStaged] at staged'
      cases staged'
      exact none dim ((mem_currents key k dims dim).mpr ⟨among,current⟩)
  by_cases vacant : currents key k dims = []
  · rw [if_pos vacant,staged]
    refine congrArg _ (List.filter_congr fun stg _ => ?_)
    rw [Bool.eq_iff_iff]
    simp only [Function.comp_apply,Bool.and_eq_true,decide_eq_true_eq,version_current]
    constructor
    · intro given
      obtain ⟨isStaged,inside,_⟩ := given
      exact ⟨inside,isStaged⟩
    · intro given
      obtain ⟨inside,isStaged⟩ := given
      exact ⟨isStaged,inside,(alone stg isStaged).mpr vacant⟩
  · rw [if_neg vacant,List.map_eq_nil_iff,List.filter_eq_nil_iff]
    intro stg _
    simp only [Function.comp_apply,Bool.and_eq_true,decide_eq_true_eq,version_current]
    intro given
    obtain ⟨isStaged,_,none⟩ := given
    exact vacant ((alone stg isStaged).mp none)

-- The table after both statements.
def versioned (closeTime insertTime : T) (dims : Dimension V T) : Dimension V T :=
  let left := closeChanged key tracked batchId closeTime staging dims
  left ++ newVersions c key tracked batchId insertTime staging left

theorem closeChanged_quiet (now : T) (dims : Dimension V T) :
    ∀ dim ∈ closeChanged key tracked batchId now staging dims, ¬Closes key tracked batchId staging dim := by
  rw [closeChanged_map]
  intro dim member
  obtain ⟨old,_,rfl⟩ := List.mem_map.mp member
  by_cases closes : Closes key tracked batchId staging old
  · rw [if_pos closes]
    intro given
    obtain ⟨_,_,⟨k,_,current⟩,_⟩ := given
    exact Bool.noConfusion current.1
  · rwa [if_neg closes]

theorem versioned_currents (closeTime insertTime : T) (k : V) (dims : Dimension V T) :
    currents key k (versioned c key tracked batchId staging closeTime insertTime dims) =
      let left := (currents key k dims).filter fun dim => decide (¬Closes key tracked batchId staging dim)
      if left = [] then (staged key batchId staging k).map (version c key tracked insertTime) else left := by
  have split : currents key k (versioned c key tracked batchId staging closeTime insertTime dims) =
      currents key k (closeChanged key tracked batchId closeTime staging dims) ++
        currents key k (newVersions c key tracked batchId insertTime staging
          (closeChanged key tracked batchId closeTime staging dims)) := List.filter_append ..
  rw [split,newVersions_currents c key tracked batchId staging insertTime k _
    (closeChanged_quiet key tracked batchId staging closeTime dims),closeChanged_currents]
  by_cases vacant : ((currents key k dims).filter fun dim => decide (¬Closes key tracked batchId staging dim)) = []
  · simp only [if_pos vacant]
    rw [vacant,List.nil_append]
  · simp only [if_neg vacant]
    rw [List.append_nil]

end Call
end Rows

end SnowflakeHandler
end RiskPulse
