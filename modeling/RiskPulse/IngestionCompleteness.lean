import RiskPulse.ApiIngestion
import RiskPulse.Library.Fallible

namespace RiskPulse
namespace BatchIngestionHandler
open Fallible
variable {α : Type}

-- The row has a value for the name: there is such a column, and no null in one.
def Present (table : Table α) (row : List (Option α)) (name : String) : Prop :=
  name ∈ table.columnNames ∧ ∀ index ∈ table.indices name, (row[index]?.join).isSome = true

def Filled (table : Table α) (names : List String) (row : List (Option α)) : Prop := ∀ name ∈ names, Present table row name

instance (table : Table α) (names : List String) (row : List (Option α)) : Decidable (Filled table names row) :=
  inferInstanceAs (Decidable (∀ name ∈ names, _ ∧ ∀ index ∈ table.indices name, _))

def writtenRows (s : Ingestion α) : List (List (Option α)) :=
  match s.written with
  | some (_,table) => table.rows
  | none => []

-- The rows with every required value are written, the others are counted as failed, and
-- nothing else is reported completed.
structure Accounted (h : BatchIngestionHandler α) (table : Table α) (asked : List String) (s : Ingestion α) : Prop where
  completed : s.result.status = .completed → ∀ row ∈ writtenRows s, Filled table asked row
  counted : s.result.recordsProcessed + s.result.recordsFailed = table.rows.length
  exact : (∀ key t, h.uploadRawFile key t = .ok ()) → writtenRows s = table.rows.filter fun row => decide (Filled table asked row)

def Complete (table : Table α) (requiredFields : Option (List String)) : Prop :=
  ∀ (h : BatchIngestionHandler α) bucket key format t, h.readTable bucket key format (started h key) = (.ok table,t) →
    Accounted h table (requiredFields.getD requiredTransactionFields) (h.ingestFile bucket key format requiredFields true)

section Filter
variable (h : BatchIngestionHandler α) (table : Table α)

-- The name is that of one column, where it is the name of any.
def Single (name : String) : Prop := name ∈ table.columnNames → ∃ index, table.indices name = [index]

-- What the mask makes of a row for a name.
def passes (name : String) (row : List (Option α)) : Bool :=
  decide (name ∈ table.columnNames → ∀ index ∈ table.indices name, (row[index]?.join).isSome = true)

-- The mask lets through the rows that pass the test, no mask all of them.
def Masks (mask : Option (List Bool)) (test : List (Option α) → Bool) : Prop :=
  (mask = none ∧ ∀ row, test row = true) ∨ mask = some (table.rows.map test)

theorem zip_filter (rows : List β) (test : β → Bool) : ((rows.zip (rows.map test)).filter Prod.snd).map Prod.fst = rows.filter test := by
  induction rows with
  | nil => rfl
  | cons row rest ih =>
    rw [List.map_cons,List.zip_cons_cons]
    cases passed : test row with
    | true => rw [List.filter_cons_of_pos rfl,List.filter_cons_of_pos passed,List.map_cons,ih]
    | false => rw [List.filter_cons_of_neg Bool.false_ne_true,List.filter_cons_of_neg (by simp [passed]),ih]

theorem maskWith_masks (single : Single table name) (masks : Masks table mask test) :
    ∃ next, h.maskWith table mask name = .ok next ∧ Masks table next fun row => test row && passes table name row := by
  unfold maskWith
  split
  next there =>
    obtain ⟨index,only⟩ := single there
    have valid : h.validity table name = .ok (table.rows.map (passes table name)) := by
      unfold validity
      rw [only]
      refine congrArg Except.ok (List.map_congr_left fun row _ => ?_)
      simp [passes,there,only]
    rw [valid]
    rcases masks with ⟨rfl,all⟩ | rfl
    · refine ⟨_,rfl,.inr (congrArg some ?_)⟩
      apply List.map_congr_left
      intro row _
      rw [all,Bool.true_and]
    · refine ⟨_,rfl,.inr (congrArg some ?_)⟩
      rw [List.zipWith_map,List.zipWith_self]
  next absent =>
    have every : ∀ row, passes table name row = true := fun row => decide_eq_true fun there => absurd there absent
    refine ⟨mask,rfl,?_⟩
    rcases masks with ⟨rfl,all⟩ | rfl
    · exact .inl ⟨rfl,fun row => Bool.and_eq_true_iff.mpr ⟨all row,every row⟩⟩
    · refine .inr (congrArg some (List.map_congr_left fun row _ => ?_))
      rw [every,Bool.and_true]

theorem masks_fold (names : List String) (single : ∀ name ∈ names, Single table name) (masks : Masks table mask test) :
    ∃ last, names.foldlM (h.maskWith table) mask = .ok last ∧ Masks table last fun row => test row && names.all fun name => passes table name row := by
  induction names generalizing mask test with
  | nil => exact ⟨mask,rfl,by simpa using masks⟩
  | cons name rest ih =>
    obtain ⟨next,stepped,after⟩ := maskWith_masks h table (single name List.mem_cons_self) masks
    obtain ⟨last,looped,whole⟩ := ih (fun other member => single other (List.mem_cons_of_mem _ member)) after
    refine ⟨last,(fold_cons name rest).mpr ⟨next,stepped,looped⟩,?_⟩
    simpa only [List.all_cons,Bool.and_assoc] using whole

theorem fold_single (names : List String) (looped : names.foldlM (h.maskWith table) mask = .ok last) : ∀ name ∈ names, Single table name := by
  induction names generalizing mask with
  | nil => exact fun _ member => by cases member
  | cons first rest ih =>
    obtain ⟨next,stepped,later⟩ := (fold_cons first rest).mp looped
    intro name member
    rcases List.mem_cons.mp member with rfl | member
    · intro there
      rw [maskWith,if_pos there] at stepped
      obtain ⟨valid,read,_⟩ := bind_ok.mp stepped
      unfold validity at read
      split at read
      next index only => exact ⟨index,only⟩
      next => cases read
    · exact ih later name member

-- Where the checked names are single the rows that pass them all are kept; where one is
-- not, the filter raises.
theorem filterInvalidRows_keeps (names : List String) (single : ∀ name ∈ names, Single table name) :
    ∃ kept : Table α, h.filterInvalidRows table names = .ok (kept,table.rows.length - kept.rows.length) ∧
      kept.rows = table.rows.filter fun row => names.all fun name => passes table name row := by
  have unmasked : Masks table none fun _ => true := .inl ⟨rfl,fun _ => rfl⟩
  obtain ⟨mask,looped,masks⟩ := masks_fold h table names single unmasked
  refine ⟨table.keepMasked mask,?_,?_⟩
  · exact bind_ok.mpr ⟨mask,looped,rfl⟩
  · simp only [Bool.true_and] at masks
    rcases masks with ⟨rfl,all⟩ | rfl
    · exact (List.filter_eq_self.mpr fun row _ => all row).symm
    · exact zip_filter _ _

theorem filterInvalidRows_raises (names : List String) (double : ¬∀ name ∈ names, Single table name) :
    ∃ raised, h.filterInvalidRows table names = .error raised := by
  rcases came : h.filterInvalidRows table names with raised | kept
  · exact ⟨raised,rfl⟩
  · obtain ⟨mask,looped,_⟩ := bind_ok.mp came
    exact absurd (fold_single h table names looped) double

end Filter
section Run
variable {h : BatchIngestionHandler α} {table : Table α} {requiredFields : Option (List String)}

-- What a reading leaves of the state.
def Fresh (s : Ingestion α) : Prop := s.written = none ∧ s.result.recordsProcessed = 0 ∧ s.result.recordsFailed = 0

theorem rising_frames (outcome : Except IngestionRaised β) (observed : Ingestion α → γ) : Effect.Frames observed (rising outcome) := fun _ => rfl

theorem readTable_fresh (ran : h.readTable bucket key format (started h key) = (.ok table,t)) : Fresh t := by
  have kept : Effect.Frames (fun s : Ingestion α => (s.written,s.result.recordsProcessed,s.result.recordsFailed)) (h.readTable bucket key format) := by
    unfold readTable
    refine (rising_frames _ _).bind fun detected => Effect.Frames.bind (fun _ => rfl) fun _ => (rising_frames _ _).bind fun size => ?_
    split
    · exact rising_frames _ _
    · exact rising_frames _ _
  have same := kept (started h key)
  rw [ran] at same
  obtain ⟨written,counts⟩ := Prod.mk.inj same
  obtain ⟨processed,failed⟩ := Prod.mk.inj counts
  exact ⟨written,processed,failed⟩

-- The state in which the schema is validated.
def opened (table : Table α) (t : Ingestion α) : Ingestion α := {t with result := {t.result with schemaFields := table.columnNames}}

theorem validating_whole (t : Ingestion α) (complete : missingFields table (fieldsToCheck requiredFields) = []) :
    h.validating table requiredFields true t = (.ok table,t) := by
  simp only [validating,validateSchema,complete,if_true]
  rfl

theorem validating_filtered (t : Ingestion α) (lacking : missingFields table (fieldsToCheck requiredFields) ≠ [])
    (filtered : h.filterInvalidRows table (fieldsToCheck requiredFields) = .ok (kept,failedCount)) :
    ∃ u, h.validating table requiredFields true t = (.ok kept,u) ∧ u.written = t.written ∧ u.result.recordsFailed = failedCount := by
  simp only [validating,validateSchema,lacking,if_true,if_false,List.cons_ne_nil,filtered]
  exact ⟨_,rfl,rfl,rfl⟩

theorem validating_raised (t : Ingestion α) (lacking : missingFields table (fieldsToCheck requiredFields) ≠ [])
    (raises : h.filterInvalidRows table (fieldsToCheck requiredFields) = .error raised) :
    ∃ u, h.validating table requiredFields true t = (.error (errorText raised),u) ∧ u.written = t.written ∧
      u.result.recordsProcessed = t.result.recordsProcessed ∧ u.result.recordsFailed = t.result.recordsFailed := by
  simp only [validating,validateSchema,lacking,if_true,if_false,List.cons_ne_nil,raises]
  exact ⟨_,rfl,rfl,rfl,rfl⟩

-- The rows are written, unless the upload raises.
theorem writing_run (kept : Table α) (key : String) (s : Ingestion α) (unwritten : s.written = none) :
    (∃ text, h.writing kept key s = (.error text,s) ∧ ¬∀ key t, h.uploadRawFile key t = .ok ()) ∨
      ∃ t, h.writing kept key s = (.ok (),t) ∧ writtenRows t = kept.rows ∧ t.result.recordsProcessed = s.result.recordsProcessed ∧
        t.result.recordsFailed = s.result.recordsFailed := by
  unfold writing
  by_cases some : 0 < kept.rows.length
  · rw [if_pos some]
    rcases uploads : h.uploadRawFile (h.outputKey key) kept with raised | done
    · have refused : rising (h.uploadRawFile (h.outputKey key) kept) s = (.error (errorText raised),s) := by
        rw [uploads]
        rfl
      refine .inl ⟨errorText raised,Effect.bind_error _ (Effect.bind_error _ refused),fun all => ?_⟩
      rw [all] at uploads
      cases uploads
    · have stored : rising (h.uploadRawFile (h.outputKey key) kept) s = (.ok (),s) := by
        rw [uploads]
        rfl
      have wrote : h.writeOutput kept key s = (.ok (h.outputKey key),{s with written := Option.some (h.outputKey key,kept)}) :=
        Effect.bind_ok _ stored
      exact .inr ⟨_,Effect.bind_ok _ wrote,rfl,rfl,rfl⟩
  · have bare : kept.rows = [] := List.eq_nil_of_length_eq_zero (Nat.eq_zero_of_not_pos some)
    rw [if_neg some]
    refine .inr ⟨s,rfl,?_,rfl,rfl⟩
    rw [writtenRows,bare,unwritten]

-- What the rest of ingest_file makes of the rows that are kept.
theorem ingestFile_kept (read : h.readTable bucket key format (started h key) = (.ok table,t))
    (validated : h.validating table requiredFields true (opened table t) = (.ok kept,u)) (unwritten : u.written = none) :
    ∃ s, h.ingestFile bucket key format requiredFields true = s ∧
      s.result.recordsProcessed = kept.rows.length ∧ s.result.recordsFailed = u.result.recordsFailed ∧
      (s.result.status = .completed → writtenRows s = kept.rows) ∧
      ((∀ key t, h.uploadRawFile key t = .ok ()) → writtenRows s = kept.rows) := by
  have goes : h.ingesting bucket key format requiredFields true (started h key) =
      (h.writing kept key >>= fun _ => filling h.closing) {u with result := {u.result with recordsProcessed := kept.rows.length}} := by
    rw [ingesting,Effect.bind_ok _ read,filling,Effect.modify_bind]
    exact Effect.bind_ok _ validated
  rcases writing_run (h := h) kept key {u with result := {u.result with recordsProcessed := kept.rows.length}} unwritten with
    ⟨text,ran,refused⟩ | ⟨v,ran,written,processed,failed⟩
  · rw [Effect.bind_error _ ran] at goes
    refine ⟨_,rfl,?_⟩
    unfold ingestFile
    rw [Effect.attempt_error _ goes]
    exact ⟨rfl,rfl,fun done => (by cases done),fun all => absurd all refused⟩
  · rw [Effect.bind_ok _ ran] at goes
    refine ⟨_,rfl,?_⟩
    unfold ingestFile
    rw [Effect.attempt_ok _ goes]
    exact ⟨processed,failed,fun _ => written,fun _ => written⟩

theorem ingestFile_raised (read : h.readTable bucket key format (started h key) = (.ok table,t))
    (validated : h.validating table requiredFields true (opened table t) = (.error text,u)) :
    ∃ s, h.ingestFile bucket key format requiredFields true = s ∧
      s.result.recordsProcessed = u.result.recordsProcessed ∧ s.result.recordsFailed = u.result.recordsFailed ∧
      s.result.status = .failed ∧ s.written = u.written := by
  have ran : h.ingesting bucket key format requiredFields true (started h key) = (.error text,u) := by
    rw [ingesting,Effect.bind_ok _ read,filling,Effect.modify_bind]
    exact Effect.bind_error _ validated
  refine ⟨_,rfl,?_⟩
  unfold ingestFile
  rw [Effect.attempt_error _ ran]
  exact ⟨rfl,rfl,rfl,rfl⟩

end Run

-- A checked field is missing: each of the others is one column, and every row has a null
-- in one of them, or in none where no field was asked for.
structure Dropped (table : Table α) (requiredFields : Option (List String)) : Prop where
  single : ∀ name ∈ fieldsToCheck requiredFields, Single table name
  emptied : requiredFields ≠ some [] → ∀ row ∈ table.rows, ∃ name ∈ fieldsToCheck requiredFields, name ∈ table.columnNames ∧ ¬Present table row name
  kept : requiredFields = some [] → ∀ row ∈ table.rows, ∀ name ∈ fieldsToCheck requiredFields, name ∈ table.columnNames → Present table row name

-- Every checked field is a column and no row lacks a value asked for, or a checked field
-- is missing and the table has no rows or loses them as it should.
def Conforming (table : Table α) (requiredFields : Option (List String)) : Prop :=
  (missingFields table (fieldsToCheck requiredFields) = [] ∧
      ∀ row ∈ table.rows, Filled table (requiredFields.getD requiredTransactionFields) row) ∨
    missingFields table (fieldsToCheck requiredFields) ≠ [] ∧ (table.rows = [] ∨ Dropped table requiredFields)

section Exact
variable {table : Table α} {requiredFields : Option (List String)}

theorem passes_all (names : List String) (row : List (Option α)) :
    (names.all fun name => passes table name row) = true ↔ ∀ name ∈ names, name ∈ table.columnNames → Present table row name := by
  rw [List.all_eq_true]
  refine forall_congr' fun name => imp_congr_right fun _ => ?_
  constructor
  · intro passed there
    exact ⟨there,of_decide_eq_true passed there⟩
  · intro present
    exact decide_eq_true fun there => (present there).2

theorem asked_checked (given : requiredFields ≠ some []) : requiredFields.getD requiredTransactionFields = fieldsToCheck requiredFields := by
  cases requiredFields with
  | none => rfl
  | some names =>
    cases names with
    | nil => exact absurd rfl given
    | cons name names => rfl

-- With a checked field missing no row has all that is asked for, unless that is nothing.
theorem lacking_filled (lacking : missingFields table (fieldsToCheck requiredFields) ≠ []) (row : List (Option α)) :
    Filled table (requiredFields.getD requiredTransactionFields) row ↔ requiredFields = some [] := by
  constructor
  · intro filled
    by_contra given
    rw [asked_checked given] at filled
    obtain ⟨name,member⟩ := List.exists_mem_of_ne_nil _ lacking
    obtain ⟨asked,absent⟩ := List.mem_filter.mp member
    exact of_decide_eq_true absent (filled name asked).1
  · rintro rfl name member
    cases member

theorem dropped_kept (lacking : missingFields table (fieldsToCheck requiredFields) ≠ []) :
    Dropped table requiredFields ↔ (∀ name ∈ fieldsToCheck requiredFields, Single table name) ∧
      (table.rows.filter fun row => (fieldsToCheck requiredFields).all fun name => passes table name row) =
        table.rows.filter fun row => decide (Filled table (requiredFields.getD requiredTransactionFields) row) := by
  have failing : ∀ row, ¬(∀ name ∈ fieldsToCheck requiredFields, name ∈ table.columnNames → Present table row name) ↔
      ∃ name ∈ fieldsToCheck requiredFields, name ∈ table.columnNames ∧ ¬Present table row name := by
    intro row
    simp only [not_forall,exists_prop]
  constructor
  · intro dropped
    refine ⟨dropped.single,List.filter_congr fun row member => Bool.eq_iff_iff.mpr ?_⟩
    rw [passes_all,decide_eq_true_iff,lacking_filled lacking]
    constructor
    · intro passed
      by_contra given
      exact (failing row).mpr (dropped.emptied given row member) passed
    · exact fun nothing => dropped.kept nothing row member
  · intro both
    obtain ⟨single,same⟩ := both
    have each : ∀ row ∈ table.rows, (∀ name ∈ fieldsToCheck requiredFields, name ∈ table.columnNames → Present table row name) ↔
        requiredFields = some [] := by
      intro row member
      have inside : row ∈ (table.rows.filter fun row => (fieldsToCheck requiredFields).all fun name => passes table name row) ↔
          row ∈ table.rows.filter fun row => decide (Filled table (requiredFields.getD requiredTransactionFields) row) := by rw [same]
      rw [List.mem_filter,List.mem_filter,passes_all,decide_eq_true_iff,lacking_filled lacking] at inside
      constructor
      · exact fun passed => (inside.mp ⟨member,passed⟩).2
      · exact fun nothing => (inside.mpr ⟨member,nothing⟩).2
    refine ⟨single,?_,?_⟩
    · intro given row member
      exact (failing row).mp fun passed => given ((each row member).mp passed)
    · exact fun nothing row member => (each row member).mpr nothing

-- A handler that reads the table from any file and stores what it is given.
def reading (table : Table α) : BatchIngestionHandler α where
  destinationPrefix := "validated"
  lower := id
  getFileMetadata _ _ := .ok 0
  standardIngest _ _ _ := .ok table
  streamIngest _ _ _ _ := .ok table
  uploadRawFile _ _ := .ok ()
  keyError name _ := name
  startedAt := 0
  completedAt := 0
  dayPath := "2026/06/15"
  clockText := "100000"

theorem reading_reads (table : Table α) : ∃ t, (reading table).readTable "b" "k" (some .csv) (started (reading table) "k") = (.ok table,t) := ⟨_,rfl⟩

variable {h : BatchIngestionHandler α}

theorem whole_accounted (read : h.readTable bucket key format (started h key) = (.ok table,t))
    (complete : missingFields table (fieldsToCheck requiredFields) = []) :
    (∀ row ∈ table.rows, Filled table (requiredFields.getD requiredTransactionFields) row) →
      Accounted h table (requiredFields.getD requiredTransactionFields) (h.ingestFile bucket key format requiredFields true) := by
  intro filled
  obtain ⟨unwritten,_,none⟩ := readTable_fresh read
  obtain ⟨s,ran,processed,failed,done,all⟩ := ingestFile_kept read (validating_whole (opened table t) complete) unwritten
  have every : (table.rows.filter fun row => decide (Filled table (requiredFields.getD requiredTransactionFields) row)) = table.rows :=
    List.filter_eq_self.mpr fun row member => decide_eq_true (filled row member)
  rw [ran]
  refine ⟨?_,?_,fun uploads => (all uploads).trans every.symm⟩
  · intro completed row member
    rw [done completed] at member
    exact filled row member
  · rw [processed,failed]
    exact congrArg (table.rows.length + ·) none

theorem dropped_accounted (read : h.readTable bucket key format (started h key) = (.ok table,t))
    (lacking : missingFields table (fieldsToCheck requiredFields) ≠ []) (dropped : Dropped table requiredFields) :
    Accounted h table (requiredFields.getD requiredTransactionFields) (h.ingestFile bucket key format requiredFields true) := by
  obtain ⟨unwritten,_,_⟩ := readTable_fresh read
  obtain ⟨single,same⟩ := (dropped_kept lacking).mp dropped
  obtain ⟨kept,filtered,rows⟩ := filterInvalidRows_keeps h table _ single
  obtain ⟨u,validated,stays,count⟩ := validating_filtered (opened table t) lacking filtered
  obtain ⟨s,ran,processed,failed,done,all⟩ := ingestFile_kept read validated (stays.trans unwritten)
  have fewer : kept.rows.length ≤ table.rows.length := by
    rw [rows]
    exact List.length_filter_le _ _
  rw [ran]
  refine ⟨?_,?_,fun uploads => (all uploads).trans (rows.trans same)⟩
  · intro completed row member
    rw [done completed,rows,same] at member
    exact of_decide_eq_true (List.mem_filter.mp member).2
  · rw [processed,failed,count]
    exact Nat.add_sub_cancel' fewer

theorem empty_accounted (read : h.readTable bucket key format (started h key) = (.ok table,t))
    (lacking : missingFields table (fieldsToCheck requiredFields) ≠ []) (bare : table.rows = []) :
    Accounted h table (requiredFields.getD requiredTransactionFields) (h.ingestFile bucket key format requiredFields true) := by
  by_cases single : ∀ name ∈ fieldsToCheck requiredFields, Single table name
  · apply dropped_accounted read lacking
    apply (dropped_kept lacking).mpr
    rw [bare]
    exact ⟨single,rfl⟩
  · obtain ⟨unwritten,zero,none⟩ := readTable_fresh read
    obtain ⟨raised,raises⟩ := filterInvalidRows_raises h table _ single
    obtain ⟨u,validated,stays,processed,failed⟩ := validating_raised (opened table t) lacking raises
    obtain ⟨s,ran,processed',failed',status,written⟩ := ingestFile_raised read validated
    rw [ran]
    have nothing : writtenRows s = [] := by
      rw [writtenRows,written,stays,show (opened table t).written = Option.none from unwritten]
    refine ⟨?_,?_,fun _ => ?_⟩
    · intro completed
      rw [status] at completed
      cases completed
    · rw [processed',failed',processed,failed,bare]
      exact (congrArg₂ (· + ·) zero none)
    · rw [nothing,bare]
      rfl

theorem accounted_conforming (complete : Complete table requiredFields) : Conforming table requiredFields := by
  obtain ⟨t,read⟩ := reading_reads table
  have accounted := complete (reading table) "b" "k" (some .csv) t read
  obtain ⟨unwritten,zero,none⟩ := readTable_fresh read
  have exactly := accounted.exact fun _ _ => rfl
  by_cases lacking : missingFields table (fieldsToCheck requiredFields) = []
  · obtain ⟨s,ran,_,_,_,all⟩ := ingestFile_kept read (validating_whole (opened table t) lacking) unwritten
    rw [ran,all fun _ _ => rfl] at exactly
    refine .inl ⟨lacking,fun row member => ?_⟩
    exact of_decide_eq_true (List.filter_eq_self.mp exactly.symm row member)
  · refine .inr ⟨lacking,?_⟩
    by_cases bare : table.rows = []
    · exact .inl bare
    · by_cases single : ∀ name ∈ fieldsToCheck requiredFields, Single table name
      · obtain ⟨kept,filtered,rows⟩ := filterInvalidRows_keeps (reading table) table _ single
        obtain ⟨u,validated,stays,_⟩ := validating_filtered (opened table t) lacking filtered
        obtain ⟨s,ran,_,_,_,all⟩ := ingestFile_kept read validated (stays.trans unwritten)
        rw [ran,all fun _ _ => rfl,rows] at exactly
        exact .inr ((dropped_kept lacking).mpr ⟨single,exactly⟩)
      · obtain ⟨raised,raises⟩ := filterInvalidRows_raises (reading table) table _ single
        obtain ⟨u,validated,_,processed,failed⟩ := validating_raised (opened table t) lacking raises
        obtain ⟨s,ran,processed',failed',_⟩ := ingestFile_raised read validated
        have counted := accounted.counted
        rw [ran,processed',failed',processed,failed] at counted
        have sum : (opened table t).result.recordsProcessed + (opened table t).result.recordsFailed = 0 := congrArg₂ (· + ·) zero none
        rw [sum] at counted
        exact absurd (List.eq_nil_of_length_eq_zero counted.symm) bare

end Exact

theorem ingestion_complete (table : Table α) (requiredFields : Option (List String)) :
    Complete table requiredFields ↔ Conforming table requiredFields := by
  constructor
  · exact accounted_conforming
  · intro conforming h bucket key format t read
    rcases conforming with ⟨complete,filled⟩ | ⟨lacking,bare | dropped⟩
    · exact whole_accounted read complete filled
    · exact empty_accounted read lacking bare
    · exact dropped_accounted read lacking dropped

-- One transaction without an account, in a file that has all five columns.
def withoutAccount : Table String where
  columnNames := requiredTransactionFields
  rows := [[none,some "125.00",some "USD",some "purchase",some "2026-06-15T10:00:00Z"]]
  even := by simp [requiredTransactionFields]

theorem null_account_completed :
    ((reading withoutAccount).ingestFile "b" "k" (some .csv) none true).result.status = .completed ∧
      writtenRows ((reading withoutAccount).ingestFile "b" "k" (some .csv) none true) = withoutAccount.rows ∧
      ¬Complete withoutAccount none := by
  have whole : missingFields withoutAccount (fieldsToCheck none) = [] := by decide
  have completed : ((reading withoutAccount).ingestFile "b" "k" (some .csv) none true).result.status = .completed := rfl
  have stored : writtenRows ((reading withoutAccount).ingestFile "b" "k" (some .csv) none true) = withoutAccount.rows := rfl
  refine ⟨completed,stored,fun complete => ?_⟩
  obtain ⟨t,read⟩ := reading_reads withoutAccount
  have filled := (complete _ "b" "k" (some .csv) t read).completed completed
  rw [stored] at filled
  have account := (filled _ List.mem_cons_self "account_id" (by decide)).2 0 (by decide)
  cases account

end BatchIngestionHandler
end RiskPulse
