import RiskPulse.Library.WhereText

namespace RiskPulse
open WhereText

def allowedTransactionFilters : List String :=
  ["account_id","customer_id","status","transaction_type","channel","transaction_amount","transaction_timestamp"]

def allowedOperators : List String := ["=",">=","<="]

structure SqlFilter (δ : Type) where
  column : String
  operator : String
  value : δ

-- The loop over the filters: the conditions, the parameters and the next index.
def buildConditions (allowedColumns : List String) : List (SqlFilter δ) → List String → List δ → Nat → Except String (List String × List δ × Nat)
  | [],conditions,params,paramIdx => .ok (conditions,params,paramIdx)
  | item :: rest,conditions,params,paramIdx =>
    if item.column ∉ allowedColumns then .error ("Column is not allowlisted: " ++ item.column)
    else if item.operator ∉ allowedOperators then .error ("Operator is not allowlisted: " ++ item.operator)
    else buildConditions allowedColumns rest (conditions ++ [item.column ++ " " ++ item.operator ++ " $" ++ toString paramIdx])
      (params ++ [item.value]) (paramIdx + 1)

def buildWhereClause (allowedColumns : List String) (filters : List (SqlFilter δ)) (startIndex : Nat) : Except String (String × List δ × Nat) :=
  (buildConditions allowedColumns filters [] [] startIndex).map fun built =>
    (if built.1 = [] then "TRUE" else " AND ".intercalate built.1,built.2.1,built.2.2)

structure SqlFilter.Allowed (f : SqlFilter δ) : Prop where
  column : f.column ∈ allowedTransactionFilters
  operator : f.operator ∈ allowedOperators

-- The comparison of a filter whose value is the parameter at an index, and the comparisons
-- of filters with the parameters from an index on.
def SqlFilter.comparison (f : SqlFilter δ) (paramIdx : Nat) : Comparison := ⟨f.column.toList,f.operator.toList,paramIdx⟩

def placed : List (SqlFilter δ) → Nat → List Comparison
  | [],_ => []
  | f :: rest,paramIdx => f.comparison paramIdx :: placed rest (paramIdx + 1)

-- What a filter asks of a row.
def SqlFilter.meets (e : Engine ρ δ) (row : ρ) (f : SqlFilter δ) : Bool :=
  match e.cell row f.column.toList with
  | some cell => e.meets f.operator.toList cell f.value
  | none => false

section Clause
variable {δ : Type}

theorem comparison_written (f : SqlFilter δ) (allowed : f.Allowed) (paramIdx : Nat) (positive : paramIdx ≠ 0) : (f.comparison paramIdx).Written := by
  have columns : ∀ column ∈ allowedTransactionFilters, SqlText.isIdentifier column.toList = true := by decide
  have signs : ∀ operator ∈ allowedOperators, operator.toList ∈ operators := by decide
  exact ⟨columns _ allowed.column,signs _ allowed.operator,positive⟩

theorem condition_text (f : SqlFilter δ) (paramIdx : Nat) :
    (f.column ++ " " ++ f.operator ++ " $" ++ toString paramIdx).toList = spoken (f.comparison paramIdx).words := by
  have mark : " $".toList = [' ','$'] := rfl
  have blank : " ".toList = [' '] := rfl
  simp [Comparison.words,SqlFilter.comparison,placeText,spoken,mark,blank]

theorem buildConditions_ok (filters : List (SqlFilter δ)) (allowed : ∀ f ∈ filters, f.Allowed) (conditions : List String) (params : List δ)
    (paramIdx : Nat) : ∃ texts : List String, buildConditions allowedTransactionFilters filters conditions params paramIdx =
      .ok (conditions ++ texts,params ++ filters.map SqlFilter.value,paramIdx + filters.length) ∧
      texts.map String.toList = (placed filters paramIdx).map fun c => spoken c.words := by
  induction filters generalizing conditions params paramIdx with
  | nil => exact ⟨[],by simp [buildConditions],rfl⟩
  | cons f rest ih =>
    have here := allowed f List.mem_cons_self
    obtain ⟨texts,built,written⟩ := ih (fun g member => allowed g (List.mem_cons_of_mem _ member))
      (conditions ++ [f.column ++ " " ++ f.operator ++ " $" ++ toString paramIdx]) (params ++ [f.value]) (paramIdx + 1)
    refine ⟨(f.column ++ " " ++ f.operator ++ " $" ++ toString paramIdx) :: texts,?_,?_⟩
    · rw [buildConditions,if_neg (not_not.mpr here.column),if_neg (not_not.mpr here.operator),built]
      simp [Nat.add_assoc,Nat.add_comm]
    · rw [List.map_cons,condition_text,written]
      rfl

theorem buildConditions_error (earlier : List (SqlFilter δ)) (allowed : ∀ f ∈ earlier, f.Allowed) (bad : SqlFilter δ) (refused : ¬bad.Allowed)
    (later : List (SqlFilter δ)) (conditions : List String) (params : List δ) (paramIdx : Nat) :
    buildConditions allowedTransactionFilters (earlier ++ bad :: later) conditions params paramIdx = .error
      (if bad.column ∉ allowedTransactionFilters then "Column is not allowlisted: " ++ bad.column
        else "Operator is not allowlisted: " ++ bad.operator) := by
  induction earlier generalizing conditions params paramIdx with
  | nil =>
    rw [List.nil_append,buildConditions]
    by_cases column : bad.column ∈ allowedTransactionFilters
    · have operator : bad.operator ∉ allowedOperators := fun operator => refused ⟨column,operator⟩
      rw [if_neg (not_not.mpr column),if_pos operator,if_neg (not_not.mpr column)]
    · rw [if_pos column,if_pos column]
  | cons f rest ih =>
    have here := allowed f List.mem_cons_self
    rw [List.cons_append,buildConditions,if_neg (not_not.mpr here.column),if_neg (not_not.mpr here.operator)]
    exact ih (fun g member => allowed g (List.mem_cons_of_mem _ member)) _ _ _

theorem placed_written (filters : List (SqlFilter δ)) (allowed : ∀ f ∈ filters, f.Allowed) (paramIdx : Nat) (positive : paramIdx ≠ 0) :
    ∀ c ∈ placed filters paramIdx, c.Written := by
  induction filters generalizing paramIdx with
  | nil => exact fun _ member => by cases member
  | cons f rest ih =>
    intro c member
    rcases List.mem_cons.mp member with rfl | later
    · exact comparison_written f (allowed f List.mem_cons_self) paramIdx positive
    · exact ih (fun g member => allowed g (List.mem_cons_of_mem _ member)) (paramIdx + 1) (Nat.succ_ne_zero _) c later

-- The clause of allowed filters is the words of their comparisons.
theorem buildWhereClause_ok (filters : List (SqlFilter δ)) (allowed : ∀ f ∈ filters, f.Allowed) (startIndex : Nat) :
    ∃ clause : String, buildWhereClause allowedTransactionFilters filters startIndex =
      .ok (clause,filters.map SqlFilter.value,startIndex + filters.length) ∧
      clause.toList = spoken (conditionWords (placed filters startIndex)) := by
  obtain ⟨texts,built,written⟩ := buildConditions_ok filters allowed [] [] startIndex
  refine ⟨if texts = [] then "TRUE" else " AND ".intercalate texts,by rw [buildWhereClause,built]; rfl,?_⟩
  cases filters with
  | nil =>
    have none : texts = [] := List.map_eq_nil_iff.mp written
    rw [if_pos none]
    rfl
  | cons f rest =>
    have some : texts ≠ [] := by
      rintro rfl
      cases written
    rw [if_neg some,String.toList_intercalate,written]
    exact spoken_conditions _ (List.cons_ne_nil _ _)

-- Each comparison finds the value of its own filter.
theorem placed_holds (e : Engine ρ δ) (row : ρ) (filters : List (SqlFilter δ)) (before after : List δ) :
    (placed filters (before.length + 1)).all (Comparison.holds e (before ++ filters.map SqlFilter.value ++ after) row) =
      filters.all (SqlFilter.meets e row) := by
  induction filters generalizing before with
  | nil => rfl
  | cons f rest ih =>
    have shifted : before ++ (f :: rest).map SqlFilter.value ++ after = before ++ [f.value] ++ rest.map SqlFilter.value ++ after := by simp
    have later := ih (before ++ [f.value])
    rw [List.length_append,List.length_singleton] at later
    have own : (f.comparison (before.length + 1)).holds e (before ++ (f :: rest).map SqlFilter.value ++ after) row = f.meets e row := by
      have found : (before ++ (f :: rest).map SqlFilter.value ++ after)[before.length + 1 - 1]? = some f.value := by
        simp
      rw [Comparison.holds,SqlFilter.comparison,found]
      cases cell : e.cell row f.column.toList <;> simp [SqlFilter.meets,cell]
    rw [placed,List.all_cons,own,List.all_cons,shifted,later]

theorem first_refused (filters : List (SqlFilter δ)) (refused : ¬∀ f ∈ filters, f.Allowed) :
    ∃ earlier bad later, filters = earlier ++ bad :: later ∧ (∀ f ∈ earlier, f.Allowed) ∧ ¬bad.Allowed := by
  induction filters with
  | nil => exact absurd (fun _ member => by cases member) refused
  | cons f rest ih =>
    by_cases here : f.Allowed
    · obtain ⟨earlier,bad,later,rfl,fine,last⟩ := ih fun all => refused (List.forall_mem_cons.mpr ⟨here,all⟩)
      exact ⟨f :: earlier,bad,later,rfl,List.forall_mem_cons.mpr ⟨here,fine⟩,last⟩
    · exact ⟨[],f,rest,rfl,List.forall_mem_nil _,here⟩

-- No value is in the text: what is read from it are the filters' comparisons, each with the
-- value of its own filter, whatever else is bound.
theorem where_clause_means (e : Engine ρ δ) (filters : List (SqlFilter δ)) (before : List δ) :
    match buildWhereClause allowedTransactionFilters filters (before.length + 1) with
    | .ok (clause,params,paramIdx) =>
      (∀ f ∈ filters, f.Allowed) ∧ params = filters.map SqlFilter.value ∧ paramIdx = before.length + 1 + filters.length ∧
        ∃ conditions, condition clause.toList = some conditions ∧
          ∀ after row, conditions.all (Comparison.holds e (before ++ params ++ after) row) = filters.all (SqlFilter.meets e row)
    | .error message => ∃ earlier bad later, filters = earlier ++ bad :: later ∧ (∀ f ∈ earlier, f.Allowed) ∧ ¬bad.Allowed ∧
        message = if bad.column ∉ allowedTransactionFilters then "Column is not allowlisted: " ++ bad.column
          else "Operator is not allowlisted: " ++ bad.operator := by
  by_cases allowed : ∀ f ∈ filters, f.Allowed
  · obtain ⟨clause,built,written⟩ := buildWhereClause_ok filters allowed (before.length + 1)
    rw [built]
    have proper := placed_written filters allowed (before.length + 1) (Nat.succ_ne_zero _)
    refine ⟨allowed,rfl,rfl,_,?_,fun after row => placed_holds e row filters before after⟩
    rw [written,condition_spoken _ proper]
  · obtain ⟨earlier,bad,later,parts,fine,refused⟩ := first_refused filters allowed
    subst parts
    rw [buildWhereClause,buildConditions_error earlier fine bad refused]
    exact ⟨earlier,bad,later,rfl,fine,refused,rfl⟩

end Clause

end RiskPulse
