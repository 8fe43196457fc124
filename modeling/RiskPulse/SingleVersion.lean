import Mathlib.Data.List.Forall2
import RiskPulse.DimensionVersions

namespace RiskPulse
namespace SnowflakeHandler
open Effect
open Sql hiding eq
variable {V T : Type} [DecidableEq V]

-- The names are identifiers and the statements name columns the tables have, none
-- of them twice.
structure Compiles (c : DimensionCatalog V T) (stagingTable dimensionTable businessKey : String)
    (trackedColumns : List String) : Prop where
  names : ∀ name ∈ stagingTable :: dimensionTable :: businessKey :: trackedColumns, identifierRe name = true
  tracks : trackedColumns ≠ []
  inStaging : ∀ name ∈ upper businessKey :: "BATCH_ID" :: trackedColumns.map upper, name ∈ c.stagingColumns
  inDimension : ∀ name ∈ insertColumns (upper businessKey) (trackedColumns.map upper), name ∈ c.dimensionColumns
  distinct : (insertColumns (upper businessKey) (trackedColumns.map upper)).Nodup

theorem validateIdentifier_ok (repr : String → String) (identifier name text : String) :
    validateIdentifier repr identifier name = .ok text ↔ identifierRe identifier = true ∧ text = identifier := by
  unfold validateIdentifier
  split
  · rename_i fine
    simp [fine,eq_comm]
  · rename_i unsafeName
    simp [unsafeName]

theorem validateAll_ok (repr : String → String) (columns valid : List String) :
    columns.mapM (fun column => validateIdentifier repr column "tracked column") = .ok valid ↔
      (∀ column ∈ columns, identifierRe column = true) ∧ valid = columns := by
  induction columns generalizing valid with
  | nil =>
    constructor
    · intro came
      cases came
      exact ⟨fun _ member => (List.not_mem_nil member).elim,rfl⟩
    · intro given
      obtain ⟨_,rfl⟩ := given
      rfl
  | cons column rest ih =>
    rw [List.mapM_cons,Fallible.bind_ok,List.forall_mem_cons]
    constructor
    · intro given
      obtain ⟨first,one,more⟩ := given
      obtain ⟨later,others,same⟩ := Fallible.bind_ok.mp more
      obtain ⟨fine,rfl⟩ := (validateIdentifier_ok _ _ _ _).mp one
      obtain ⟨all,rfl⟩ := (ih later).mp others
      cases same
      exact ⟨⟨fine,all⟩,rfl⟩
    · intro given
      obtain ⟨⟨fine,all⟩,rfl⟩ := given
      exact ⟨column,(validateIdentifier_ok _ _ _ _).mpr ⟨fine,rfl⟩,Fallible.bind_ok.mpr ⟨rest,(ih rest).mpr ⟨all,rfl⟩,rfl⟩⟩

theorem compile_ok : compile problem fine = .ok () ↔ fine = true := by
  cases fine <;> simp [compile]

theorem known_exact (columns names : List String) : known columns names = true ↔ ∀ name ∈ names, name ∈ columns := by
  simp [known]

omit [DecidableEq V] in
theorem compileClose_ok (c : DimensionCatalog V T) (key : String) (tracked : List String) :
    compileClose c key tracked = .ok () ↔ tracked ≠ [] ∧
      (∀ name ∈ key :: "BATCH_ID" :: tracked, name ∈ c.stagingColumns) ∧
      ∀ name ∈ key :: "IS_CURRENT" :: "EFFECTIVE_TO" :: tracked, name ∈ c.dimensionColumns := by
  rw [← known_exact,← known_exact,compileClose]
  constructor
  · intro compiled
    obtain ⟨_,one,compiled⟩ := Fallible.bind_ok.mp compiled
    obtain ⟨_,two,three⟩ := Fallible.bind_ok.mp compiled
    refine ⟨?_,compile_ok.mp two,compile_ok.mp three⟩
    have some := compile_ok.mp one
    simpa using some
  · intro given
    obtain ⟨some,two,three⟩ := given
    refine Fallible.bind_ok.mpr ⟨(),compile_ok.mpr (by simpa using some),?_⟩
    exact Fallible.bind_ok.mpr ⟨(),compile_ok.mpr two,compile_ok.mpr three⟩

omit [DecidableEq V] in
theorem compileInsert_ok (c : DimensionCatalog V T) (key : String) (tracked : List String) :
    compileInsert c key tracked = .ok () ↔ (insertColumns key tracked).Nodup ∧
      ∀ name ∈ insertColumns key tracked, name ∈ c.dimensionColumns := by
  rw [← known_exact,compileInsert]
  constructor
  · intro compiled
    obtain ⟨_,one,two⟩ := Fallible.bind_ok.mp compiled
    exact ⟨of_decide_eq_true (compile_ok.mp one),compile_ok.mp two⟩
  · intro given
    obtain ⟨one,two⟩ := given
    exact Fallible.bind_ok.mpr ⟨(),compile_ok.mpr (decide_eq_true one),compile_ok.mpr two⟩

section Call
variable {c : DimensionCatalog V T} {staging : List (Columns V)} {stagingTable dimensionTable businessKey : String}
  {trackedColumns : List String} {batchId : V} {closeTime insertTime : T}

theorem applyScdType2_run (c : DimensionCatalog V T) (staging : List (Columns V)) (batchId : V) (closeTime insertTime : T)
    (compiles : Compiles c stagingTable dimensionTable businessKey trackedColumns) (dims : Dimension V T) :
    ∃ n, applyScdType2 c staging stagingTable dimensionTable businessKey trackedColumns batchId closeTime insertTime dims =
      (.ok n,versioned c (upper businessKey) (trackedColumns.map upper) batchId staging closeTime insertTime dims) := by
  have names := compiles.names
  simp only [List.forall_mem_cons] at names
  obtain ⟨one,two,three,others⟩ := names
  have all := (validateAll_ok c.repr trackedColumns trackedColumns).mpr ⟨others,rfl⟩
  have closes := (compileClose_ok c (upper businessKey) (trackedColumns.map upper)).mpr ⟨by simpa using compiles.tracks,
    compiles.inStaging,fun name member => compiles.inDimension name (by simp [insertColumns] at member ⊢; grind)⟩
  have inserts := (compileInsert_ok c (upper businessKey) (trackedColumns.map upper)).mpr
    ⟨compiles.distinct,compiles.inDimension⟩
  refine ⟨(newVersions c (upper businessKey) (trackedColumns.map upper) batchId insertTime staging
    (closeChanged (upper businessKey) (trackedColumns.map upper) batchId closeTime staging dims)).length,?_⟩
  rw [applyScdType2,ofExcept_bind _ _ ((validateIdentifier_ok _ _ _ _).mpr ⟨one,rfl⟩),
    ofExcept_bind _ _ ((validateIdentifier_ok _ _ _ _).mpr ⟨two,rfl⟩),
    ofExcept_bind _ _ ((validateIdentifier_ok _ _ _ _).mpr ⟨three,rfl⟩),ofExcept_bind _ _ all,ofExcept_bind _ _ closes,
    modify_bind,ofExcept_bind _ _ inserts]
  rfl

theorem applyScdType2_compiles {dims t : Dimension V T}
    (ran : applyScdType2 c staging stagingTable dimensionTable businessKey trackedColumns batchId closeTime insertTime dims =
      (.ok n,t)) : Compiles c stagingTable dimensionTable businessKey trackedColumns := by
  obtain ⟨_,_,one,ran⟩ := bind_returned ran
  obtain ⟨_,_,two,ran⟩ := bind_returned ran
  obtain ⟨_,_,three,ran⟩ := bind_returned ran
  obtain ⟨_,_,all,ran⟩ := bind_returned ran
  obtain ⟨_,_,closes,ran⟩ := bind_returned ran
  obtain ⟨_,_,_,ran⟩ := bind_returned ran
  obtain ⟨_,_,inserts,_⟩ := bind_returned ran
  obtain ⟨one,_⟩ := (validateIdentifier_ok _ _ _ _).mp (ofExcept_returned one)
  obtain ⟨two,_⟩ := (validateIdentifier_ok _ _ _ _).mp (ofExcept_returned two)
  obtain ⟨three,rfl⟩ := (validateIdentifier_ok _ _ _ _).mp (ofExcept_returned three)
  obtain ⟨others,rfl⟩ := (validateAll_ok _ _ _).mp (ofExcept_returned all)
  obtain ⟨some,inStaging,_⟩ := (compileClose_ok _ _ _).mp (ofExcept_returned closes)
  obtain ⟨distinct,inDimension⟩ := (compileInsert_ok _ _ _).mp (ofExcept_returned inserts)
  exact ⟨by simp [one,two,three]; exact others,by simpa using some,inStaging,inDimension,distinct⟩

end Call
def OneCurrent (key : String) (dims : Dimension V T) : Prop := ∀ k, (currents key k dims).length ≤ 1

def Keeps (old new : DimensionRow V T) : Prop :=
  new.columns = old.columns ∧ new.effectiveFrom = old.effectiveFrom ∧ (old.isCurrent = false → new = old)

-- The staged rows of the batch have a business key, and for each key either the
-- current row has the tracked values of all its staged rows, NULLs included, or there
-- is one staged row and the current row, if any, differs from it in a column that is
-- NULL in neither.
structure Versionable (key : String) (tracked : List String) (batchId : V) (staging : List (Columns V))
    (dims : Dimension V T) : Prop where
  keyed : ∀ stg ∈ staging, InBatch batchId stg → stg key ≠ none
  each : ∀ k, staged key batchId staging k ≠ [] →
    (∃ dim ∈ dims, Current key k dim ∧ ∀ stg ∈ staged key batchId staging k, Agrees tracked dim.columns stg) ∨
      ∃ stg, staged key batchId staging k = [stg] ∧ ∀ dim ∈ dims, Current key k dim → Changed tracked dim.columns stg

theorem current_unique {dims : Dimension V T} (single : (currents key k dims).length ≤ 1) (one : dim ∈ dims)
    (isCurrent : Current key k dim) (two : other ∈ dims) (alsoCurrent : Current key k other) : other = dim := by
  have first := (mem_currents key k dims dim).mpr ⟨one,isCurrent⟩
  have second := (mem_currents key k dims other).mpr ⟨two,alsoCurrent⟩
  match found : currents key k dims with
  | [] => rw [found] at first; cases first
  | [only] =>
    rw [found,List.mem_singleton] at first second
    rw [first,second]
  | _ :: _ :: _ =>
    rw [found] at single
    simp at single

section Table
variable {c : DimensionCatalog V T} {key : String} {tracked : List String} {batchId : V} {staging : List (Columns V)}
  {closeTime insertTime : T} {dims : Dimension V T}

theorem mem_left (tracked : List String) (batchId : V) (staging : List (Columns V)) (k : V) (dim : DimensionRow V T) :
    dim ∈ (currents key k dims).filter (fun dim => decide (¬Closes key tracked batchId staging dim)) ↔
      dim ∈ dims ∧ Current key k dim ∧ ∀ stg ∈ staged key batchId staging k, ¬Changed tracked dim.columns stg := by
  rw [List.mem_filter,mem_currents,decide_eq_true_iff,and_assoc]
  refine and_congr_right fun _ => and_congr_right fun current => ?_
  constructor
  · intro stays stg member changed
    obtain ⟨among,inside,isStaged⟩ := (mem_staged key batchId staging k stg).mp member
    exact stays ⟨stg,among,⟨k,isStaged,current⟩,inside,changed⟩
  · rintro unchanged ⟨stg,among,⟨k',isStaged,has⟩,inside,changed⟩
    have same : k' = k := Option.some.inj (has.2.symm.trans current.2)
    rw [same] at isStaged
    exact unchanged stg ((mem_staged key batchId staging k stg).mpr ⟨among,inside,isStaged⟩) changed

-- The one current row a key has after the call: the old one where nothing of the
-- batch changed it, a version of the one staged row otherwise.
theorem versionable_currents (c : DimensionCatalog V T) (closeTime insertTime : T)
    (able : Versionable key tracked batchId staging dims) (once : OneCurrent key dims) (k : V) :
    (currents key k (versioned c key tracked batchId staging closeTime insertTime dims)).length ≤ 1 ∧
      ∀ stg ∈ staged key batchId staging k, ∃ dim ∈ versioned c key tracked batchId staging closeTime insertTime dims,
        Current key k dim ∧ Agrees tracked dim.columns stg := by
  have after := versioned_currents c key tracked batchId staging closeTime insertTime k dims
  simp only at after
  have few : ((currents key k dims).filter fun dim => decide (¬Closes key tracked batchId staging dim)).length ≤ 1 :=
    Nat.le_trans (List.length_filter_le _ _) (once k)
  by_cases vacant : ((currents key k dims).filter fun dim => decide (¬Closes key tracked batchId staging dim)) = []
  · rw [if_pos vacant] at after
    by_cases idle : staged key batchId staging k = []
    · rw [after,idle]
      exact ⟨Nat.zero_le _,fun _ member => (List.not_mem_nil member).elim⟩
    · rcases able.each k idle with ⟨dim,among,current,agrees⟩ | ⟨stg,one,_⟩
      · have stays := (mem_left _ _ _ k dim).mpr ⟨among,current,fun stg member => (agrees stg member).unchanged⟩
        rw [vacant] at stays
        cases stays
      · rw [one] at after
        refine ⟨by rw [after]; exact Nat.le_refl 1,?_⟩
        intro other member
        rw [one,List.mem_singleton] at member
        subst member
        have isThere : version c key tracked insertTime other ∈
            currents key k (versioned c key tracked batchId staging closeTime insertTime dims) := by
          rw [after]
          exact List.mem_cons_self
        obtain ⟨among,current⟩ := (mem_currents _ _ _ _).mp isThere
        exact ⟨_,among,current,version_agrees c key tracked insertTime other⟩
  · rw [if_neg vacant] at after
    refine ⟨by rw [after]; exact few,?_⟩
    intro stg member
    obtain ⟨left,isLeft⟩ := List.exists_mem_of_ne_nil _ vacant
    obtain ⟨among,current,unchanged⟩ := (mem_left _ _ _ k left).mp isLeft
    have isThere : left ∈ currents key k (versioned c key tracked batchId staging closeTime insertTime dims) := by
      rw [after]
      exact isLeft
    refine ⟨left,((mem_currents _ _ _ _).mp isThere).1,current,?_⟩
    rcases able.each k (List.ne_nil_of_mem member) with ⟨dim,isDim,isCurrent,agrees⟩ | ⟨only,one,changed⟩
    · -- There is one current row of the key, so it is the one that agrees.
      rw [current_unique (once k) isDim isCurrent among current]
      exact agrees stg member
    · have isOnly : only ∈ staged key batchId staging k := one ▸ List.mem_cons_self
      exact absurd (changed left among current) (unchanged only isOnly)

theorem versioned_keeps : ∃ kept fresh, versioned c key tracked batchId staging closeTime insertTime dims = kept ++ fresh ∧
    List.Forall₂ Keeps dims kept := by
  refine ⟨_,_,rfl,?_⟩
  rw [closeChanged_map,List.forall₂_map_right_iff]
  apply List.forall₂_same.mpr
  intro dim _
  by_cases closes : Closes key tracked batchId staging dim
  · rw [if_pos closes]
    obtain ⟨_,_,⟨_,_,current⟩,_⟩ := closes
    refine ⟨rfl,rfl,fun old => ?_⟩
    rw [current.1] at old
    cases old
  · rw [if_neg closes]
    exact ⟨rfl,rfl,fun _ => rfl⟩

-- A batch whose keys all have a current row that agrees with it changes nothing.
theorem versioned_settled (settled : ∀ stg ∈ staging, InBatch batchId stg → ∃ k, stg key = some k ∧
      (∃ dim ∈ dims, Current key k dim) ∧ ∀ dim ∈ dims, Current key k dim → Agrees tracked dim.columns stg) :
    versioned c key tracked batchId staging closeTime insertTime dims = dims := by
  have stays : closeChanged key tracked batchId closeTime staging dims = dims := by
    rw [closeChanged_map]
    refine (List.map_congr_left fun dim member => ?_).trans (List.map_id dims)
    rw [if_neg]
    · rfl
    · intro given
      obtain ⟨stg,among,⟨k,isStaged,current⟩,inside,changed⟩ := given
      obtain ⟨k',same,_,agrees⟩ := settled stg among inside
      rw [isStaged] at same
      cases same
      exact (agrees dim member current).unchanged changed
  have quiet := closeChanged_quiet key tracked batchId staging closeTime dims
  rw [stays] at quiet
  have nothing : newVersions c key tracked batchId insertTime staging dims = [] := by
    rw [newVersions_unmatched c key tracked batchId staging insertTime dims quiet,List.map_eq_nil_iff,List.filter_eq_nil_iff]
    intro stg among wanted
    obtain ⟨inside,alone⟩ := (Bool.and_eq_true _ _).mp wanted
    obtain ⟨k,isStaged,⟨dim,member,current⟩,_⟩ := settled stg among (of_decide_eq_true (p := stg "BATCH_ID" = some batchId) inside)
    have hit := (holds_joinOn key stg dim).mpr ⟨k,isStaged,current⟩
    have missed := List.all_eq_true.mp alone dim member
    rw [hit] at missed
    cases missed
  rw [versioned]
  simp only [stays,nothing,List.append_nil]

theorem versionable_again (able : Versionable key tracked batchId staging dims) (once : OneCurrent key dims)
    (laterClose laterInsert : T) :
    versioned c key tracked batchId staging laterClose laterInsert
        (versioned c key tracked batchId staging closeTime insertTime dims) =
      versioned c key tracked batchId staging closeTime insertTime dims := by
  apply versioned_settled
  intro stg among inside
  obtain ⟨k,isStaged⟩ := Option.ne_none_iff_exists'.mp (able.keyed stg among inside)
  obtain ⟨single,carries⟩ := versionable_currents c closeTime insertTime able once k
  obtain ⟨dim,isThere,current,agrees⟩ := carries stg ((mem_staged _ _ _ _ _).mpr ⟨among,inside,isStaged⟩)
  refine ⟨k,isStaged,⟨dim,isThere,current⟩,?_⟩
  intro other isOther isCurrent
  rw [current_unique single isThere current isOther isCurrent]
  exact agrees

end Table

section Law
variable (c : DimensionCatalog V T) (staging : List (Columns V)) (stagingTable dimensionTable businessKey : String)
  (trackedColumns : List String) (batchId : V)

-- What is asked of a call on a table: it returns n and leaves t.
structure VersionLaw (closeTime insertTime : T) (dims : Dimension V T) (n : Nat) (t : Dimension V T) : Prop where
  returned : applyScdType2 c staging stagingTable dimensionTable businessKey trackedColumns batchId closeTime insertTime dims =
    (.ok n,t)
  single : OneCurrent (upper businessKey) t
  carries : ∀ stg ∈ staging, InBatch batchId stg → ∀ k, stg (upper businessKey) = some k →
    ∃ dim ∈ t, Current (upper businessKey) k dim ∧ Agrees (trackedColumns.map upper) dim.columns stg
  keeps : ∃ kept fresh, t = kept ++ fresh ∧ List.Forall₂ Keeps dims kept
  again : ∀ laterClose laterInsert, ∃ m,
    applyScdType2 c staging stagingTable dimensionTable businessKey trackedColumns batchId laterClose laterInsert t = (.ok m,t)

theorem VersionLaw.ran {closeTime insertTime : T} {dims t : Dimension V T}
    (law : VersionLaw c staging stagingTable dimensionTable businessKey trackedColumns batchId closeTime insertTime dims n t) :
    t = versioned c (upper businessKey) (trackedColumns.map upper) batchId staging closeTime insertTime dims := by
  obtain ⟨m,ran⟩ := applyScdType2_run c staging batchId closeTime insertTime (applyScdType2_compiles law.returned) dims
  rw [law.returned] at ran
  exact congrArg Prod.snd ran

-- A staged row without a key would be inserted once more by the second call.
theorem VersionLaw.keyed {closeTime insertTime : T} {dims t : Dimension V T}
    (law : VersionLaw c staging stagingTable dimensionTable businessKey trackedColumns batchId closeTime insertTime dims n t)
    (among : stg ∈ staging) (inside : InBatch batchId stg) : stg (upper businessKey) ≠ none := by
  intro keyless
  obtain ⟨m,ran⟩ := law.again closeTime insertTime
  obtain ⟨m',result⟩ := applyScdType2_run c staging batchId closeTime insertTime (applyScdType2_compiles law.returned) t
  rw [ran] at result
  have quiet := closeChanged_quiet (upper businessKey) (trackedColumns.map upper) batchId staging closeTime t
  have inserted := newVersions_unmatched c (upper businessKey) (trackedColumns.map upper) batchId staging insertTime _ quiet
  have wanted : stg ∈ staging.filter fun stg => decide (stg "BATCH_ID" = some batchId) &&
      (closeChanged (upper businessKey) (trackedColumns.map upper) batchId closeTime staging t).all
        fun dim => !holds (joinOn (upper businessKey) stg dim) := by
    refine List.mem_filter.mpr ⟨among,?_⟩
    rw [Bool.and_eq_true,List.all_eq_true]
    refine ⟨decide_eq_true inside,fun dim _ => ?_⟩
    rw [Bool.not_eq_true',Bool.eq_false_iff]
    intro hit
    obtain ⟨k,isStaged,_⟩ := (holds_joinOn _ _ _).mp hit
    rw [keyless] at isStaged
    cases isStaged
  have some := List.length_pos_of_mem wanted
  have size : (closeChanged (upper businessKey) (trackedColumns.map upper) batchId closeTime staging t).length = t.length := by
    rw [closeChanged_map,List.length_map]
  have same := congrArg (fun run => run.2.length) result
  simp only [versioned,List.length_append,size,inserted,List.length_map] at same
  omega

-- The condition on a key of the batch, read off the table the call leaves.
theorem VersionLaw.each {closeTime insertTime : T} {dims t : Dimension V T}
    (law : VersionLaw c staging stagingTable dimensionTable businessKey trackedColumns batchId closeTime insertTime dims n t)
    (k : V) (busy : staged (upper businessKey) batchId staging k ≠ []) :
    (∃ dim ∈ dims, Current (upper businessKey) k dim ∧
        ∀ stg ∈ staged (upper businessKey) batchId staging k, Agrees (trackedColumns.map upper) dim.columns stg) ∨
      ∃ stg, staged (upper businessKey) batchId staging k = [stg] ∧
        ∀ dim ∈ dims, Current (upper businessKey) k dim → Changed (trackedColumns.map upper) dim.columns stg := by
  have same := law.ran
  have after := versioned_currents c (upper businessKey) (trackedColumns.map upper) batchId staging closeTime insertTime k dims
  simp only [← same] at after
  by_cases vacant : ((currents (upper businessKey) k dims).filter fun dim =>
      decide (¬Closes (upper businessKey) (trackedColumns.map upper) batchId staging dim)) = []
  · -- All the staged rows of the key were inserted, so there is one.
    right
    rw [if_pos vacant] at after
    have few := law.single k
    rw [after,List.length_map] at few
    obtain ⟨stg,one⟩ : ∃ stg, staged (upper businessKey) batchId staging k = [stg] :=
      List.length_eq_one_iff.mp (Nat.le_antisymm few (List.length_pos_of_ne_nil busy))
    refine ⟨stg,one,fun dim among current => ?_⟩
    apply Classical.byContradiction
    intro unchanged
    have only : ∀ other ∈ staged (upper businessKey) batchId staging k, ¬Changed (trackedColumns.map upper) dim.columns other := by
      intro other member
      rw [one,List.mem_singleton] at member
      rw [member]
      exact unchanged
    have stays := (mem_left (trackedColumns.map upper) batchId staging k dim).mpr ⟨among,current,only⟩
    rw [vacant] at stays
    cases stays
  · -- A current row was left, and the staged rows are compared with it.
    left
    rw [if_neg vacant] at after
    obtain ⟨dim,isLeft⟩ := List.exists_mem_of_ne_nil _ vacant
    obtain ⟨among,current,_⟩ := (mem_left _ _ _ k dim).mp isLeft
    have isThere : dim ∈ t := by
      rw [← after] at isLeft
      exact ((mem_currents _ _ _ _).mp isLeft).1
    refine ⟨dim,among,current,fun stg member => ?_⟩
    obtain ⟨isStaged,inside,named⟩ := (mem_staged _ _ _ _ _).mp member
    obtain ⟨other,isOther,alsoCurrent,agrees⟩ := law.carries stg isStaged inside k named
    rw [← current_unique (law.single k) isThere current isOther alsoCurrent]
    exact agrees

theorem versionable_law (closeTime insertTime : T) (dims : Dimension V T) (once : OneCurrent (upper businessKey) dims)
    (compiles : Compiles c stagingTable dimensionTable businessKey trackedColumns)
    (able : Versionable (upper businessKey) (trackedColumns.map upper) batchId staging dims) :
    ∃ n t, VersionLaw c staging stagingTable dimensionTable businessKey trackedColumns batchId closeTime insertTime dims n t := by
  obtain ⟨n,ran⟩ := applyScdType2_run c staging batchId closeTime insertTime compiles dims
  have currents := versionable_currents c closeTime insertTime able once
  refine ⟨n,_,ran,fun k => (currents k).1,?_,versioned_keeps,?_⟩
  · intro stg among inside k named
    exact (currents k).2 stg ((mem_staged _ _ _ _ _).mpr ⟨among,inside,named⟩)
  · intro laterClose laterInsert
    obtain ⟨m,more⟩ := applyScdType2_run c staging batchId laterClose laterInsert compiles
      (versioned c (upper businessKey) (trackedColumns.map upper) batchId staging closeTime insertTime dims)
    rw [versionable_again able once] at more
    exact ⟨m,more⟩

end Law

-- STG_CUSTOMER_PROFILES and DIM_CUSTOMER.
def customers : DimensionCatalog String Nat where
  stagingColumns := ["CUSTOMER_ID","AVG_TRANSACTION_AMOUNT","MAX_TRANSACTION_AMOUNT","RISK_TIER","BATCH_ID","LOADED_AT"]
  dimensionColumns := ["CUSTOMER_KEY","CUSTOMER_ID","RISK_TIER","AVG_TRANSACTION_AMOUNT","MAX_TRANSACTION_AMOUNT",
    "EFFECTIVE_FROM","EFFECTIVE_TO","IS_CURRENT"]
  defaults _ := none
  endOfTime := 9999
  repr identifier := identifier

def profile (customer tier : String) : Columns String := fun column =>
  if column = "CUSTOMER_ID" then some customer
  else if column = "RISK_TIER" then some tier
  else if column = "BATCH_ID" then some "B1"
  else none

theorem customers_compile : Compiles customers "STG_CUSTOMER_PROFILES" "DIM_CUSTOMER" "CUSTOMER_ID" ["RISK_TIER"] where
  names := by decide +kernel
  tracks := List.cons_ne_nil _ _
  inStaging := by decide +kernel
  inDimension := by decide +kernel
  distinct := by decide +kernel

end SnowflakeHandler
end RiskPulse
