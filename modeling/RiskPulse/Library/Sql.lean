import Mathlib.Data.List.Basic

-- Conditions over columns that may be NULL: the value of one is true, false or
-- unknown, and a row passes a WHERE or an ON only when it is true.
namespace Sql
variable {α β ν : Type}

abbrev Truth := Option Bool

def both : Truth → Truth → Truth
  | some false,_ => some false
  | _,some false => some false
  | some true,some true => some true
  | _,_ => none

def either : Truth → Truth → Truth
  | some true,_ => some true
  | _,some true => some true
  | some false,some false => some false
  | _,_ => none

def anyOf (conditions : List Truth) : Truth := conditions.foldr either (some false)

def holds (condition : Truth) : Bool := decide (condition = some true)

def isNull (a : Option ν) : Truth := some a.isNone

section Comparison
variable [DecidableEq ν]

def eq : Option ν → Option ν → Truth
  | some a,some b => some (decide (a = b))
  | _,_ => none

def ne : Option ν → Option ν → Truth
  | some a,some b => some (decide (a ≠ b))
  | _,_ => none

theorem holds_eq (a b : Option ν) : holds (eq a b) = true ↔ ∃ v, a = some v ∧ b = some v := by
  cases a <;> cases b <;> simp [holds,eq,eq_comm]

theorem holds_ne (a b : Option ν) : holds (ne a b) = true ↔ ∃ v w, a = some v ∧ b = some w ∧ v ≠ w := by
  cases a <;> cases b <;> simp [holds,ne]

end Comparison

theorem holds_both (a b : Truth) : holds (both a b) = true ↔ holds a = true ∧ holds b = true := by
  rcases a with _ | a <;> rcases b with _ | b <;> (try cases a) <;> (try cases b) <;> decide

theorem holds_either (a b : Truth) : holds (either a b) = true ↔ holds a = true ∨ holds b = true := by
  rcases a with _ | a <;> rcases b with _ | b <;> (try cases a) <;> (try cases b) <;> decide

theorem holds_anyOf (conditions : List Truth) :
    holds (anyOf conditions) = true ↔ ∃ condition ∈ conditions, holds condition = true := by
  induction conditions with
  | nil => simp [anyOf,holds]
  | cons first rest ih =>
    have step : anyOf (first :: rest) = either first (anyOf rest) := rfl
    rw [step,holds_either,ih]
    simp

theorem holds_some (a : Bool) : holds (some a) = a := by cases a <;> rfl

-- UPDATE target SET .. FROM source WHERE: a row that several source rows pass with
-- is set once.
def updateFrom (on : α → β → Truth) (set : α → α) (target : List α) (source : List β) : List α :=
  target.map fun row => if source.any fun other => holds (on row other) then set row else row

def leftJoin (on : α → β → Truth) (left : List α) (right : List β) : List (α × Option β) :=
  left.flatMap fun a =>
    match right.filter fun b => holds (on a b) with
    | [] => [(a,none)]
    | found => found.map fun b => (a,some b)

-- A WHERE that no matched row passes leaves the rows without a match.
theorem leftJoin_unmatched (on : α → β → Truth) (keep : α × Option β → Bool) (wanted : α → Bool) (left : List α)
    (right : List β) (alone : ∀ a, keep (a,none) = wanted a)
    (matched : ∀ a ∈ left, ∀ b ∈ right, holds (on a b) = true → keep (a,some b) = false) :
    (leftJoin on left right).filter keep =
      (left.filter fun a => wanted a && right.all fun b => !holds (on a b)).map fun a => (a,none) := by
  induction left with
  | nil => rfl
  | cons a rest ih =>
    have later := ih fun b member => matched b (List.mem_cons_of_mem _ member)
    have split : leftJoin on (a :: rest) right = (match right.filter fun b => holds (on a b) with
      | [] => [(a,none)]
      | found => found.map fun b => (a,some b)) ++ leftJoin on rest right := rfl
    rw [split,List.filter_append,later,List.filter_cons]
    cases found : right.filter fun b => holds (on a b) with
    | nil =>
      have lone : (right.all fun b => !holds (on a b)) = true := by
        rw [List.all_eq_true]
        intro b member
        have out := List.filter_eq_nil_iff.mp found b member
        simpa using out
      rw [lone,Bool.and_true]
      by_cases want : wanted a = true <;> simp [alone,want]
    | cons first more =>
      have inside : first ∈ right.filter fun b => holds (on a b) := found ▸ List.mem_cons_self
      obtain ⟨member,hit⟩ := List.mem_filter.mp inside
      have crowded : (right.all fun b => !holds (on a b)) = false := by
        rw [List.all_eq_false]
        exact ⟨first,member,by simp [hit]⟩
      have none : (List.map (fun b => (a,some b)) (first :: more)).filter keep = [] := by
        rw [List.filter_eq_nil_iff]
        intro row has
        obtain ⟨b,among,rfl⟩ := List.mem_map.mp has
        obtain ⟨isRight,passes⟩ := List.mem_filter.mp (found ▸ among)
        simp [matched a List.mem_cons_self b isRight passes]
      simp only [none,crowded,Bool.and_false,List.nil_append]
      rfl

end Sql
