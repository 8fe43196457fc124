import Mathlib.Algebra.BigOperators.Group.List.Basic
import Mathlib.Algebra.GroupWithZero.Nat
import Mathlib.Data.List.Basic

-- A two-dimensional array: its rows, all with one number of columns.
structure NdMatrix (α : Type) where
  columns : Nat
  rows : List (List α)
  even : ∀ row ∈ rows, row.length = columns

-- Arrays of one or two dimensions, with NumPy's functions on them.
inductive NdArray (α : Type) where
  | vector (items : List α)
  | matrix (grid : NdMatrix α)

namespace NdMatrix
variable {α β : Type}

def row (items : List α) : NdMatrix α where
  columns := items.length
  rows := [items]
  even := by simp

def column (grid : NdMatrix α) (i : Nat) : List α := grid.rows.filterMap (·[i]?)

def slice (grid : NdMatrix α) (first size : Nat) : NdMatrix α where
  columns := grid.columns
  rows := (grid.rows.drop first).take size
  even := fun row member => grid.even row (List.mem_of_mem_drop (List.mem_of_mem_take member))

-- A function of the rows applied to each of them.
def mapRows (grid : NdMatrix α) (columns : Nat) (f : List α → List β)
    (even : ∀ row, row.length = grid.columns → (f row).length = columns) : NdMatrix β where
  columns := columns
  rows := grid.rows.map f
  even := by
    intro row member
    obtain ⟨source,inside,rfl⟩ := List.mem_map.mp member
    exact even source (grid.even source inside)

theorem eq_of_rows {grid other : NdMatrix α} (columns : grid.columns = other.columns) (rows : grid.rows = other.rows) :
    grid = other := by
  cases grid
  cases other
  cases columns
  cases rows
  rfl

-- Every row has an item in a column that there is.
theorem column_rows (grid : NdMatrix α) (i : Nat) (inside : i < grid.columns) :
    (grid.column i).map some = grid.rows.map (·[i]?) := by
  have found : ∀ row ∈ grid.rows, ∃ a, row[i]? = some a := by
    intro row member
    have bound : i < row.length := by rw [grid.even row member]; exact inside
    exact ⟨row[i],List.getElem?_eq_getElem bound⟩
  unfold column
  generalize grid.rows = rows at found
  induction rows with
  | nil => rfl
  | cons first rest ih =>
    obtain ⟨a,here⟩ := found first List.mem_cons_self
    have later := ih fun row member => found row (List.mem_cons_of_mem _ member)
    simp only [List.filterMap_cons,here,List.map_cons,later]

-- The arrays one on another: all must have as many columns as the first.
def stack (first : NdMatrix α) (rest : List (NdMatrix α)) : Except String (NdMatrix α) :=
  if even : ∀ grid ∈ rest, grid.columns = first.columns then
    .ok {
      columns := first.columns
      rows := ((first :: rest).map rows).flatten
      even := by
        intro row member
        obtain ⟨_,block,inside⟩ := List.mem_flatten.mp member
        obtain ⟨grid,listed,rfl⟩ := List.mem_map.mp block
        rcases List.mem_cons.mp listed with rfl | later
        · exact grid.even row inside
        · exact (grid.even row inside).trans (even grid later)
    }
  else .error "all the input array dimensions except for the concatenation axis must match exactly"

theorem stack_even (first : NdMatrix α) (rest : List (NdMatrix α)) (width : Nat)
    (even : ∀ grid ∈ first :: rest, grid.columns = width) :
    ∃ stacked, stack first rest = .ok stacked ∧ stacked.columns = width ∧
      stacked.rows = ((first :: rest).map rows).flatten := by
  have own := even first List.mem_cons_self
  have others : ∀ grid ∈ rest, grid.columns = first.columns :=
    fun grid member => (even grid (List.mem_cons_of_mem _ member)).trans own.symm
  refine ⟨_,dif_pos others,own,rfl⟩

end NdMatrix

namespace NdArray
variable {α : Type}

def ndim : NdArray α → Nat
  | vector _ => 1
  | matrix _ => 2

-- shape[0].
def length : NdArray α → Nat
  | vector items => items.length
  | matrix grid => grid.rows.length

-- reshape(1, -1).
def flat : NdArray α → NdMatrix α
  | vector items => .row items
  | matrix grid => .row grid.rows.flatten

def atLeast2d : NdArray α → NdMatrix α
  | vector items => .row items
  | matrix grid => grid

-- a[first : first + size]
def slice (first size : Nat) : NdArray α → NdArray α
  | vector items => vector ((items.drop first).take size)
  | matrix grid => matrix (grid.slice first size)

-- a[:, i]
def column (i : Nat) : NdArray α → Except String (NdArray α)
  | vector _ => .error "too many indices for array: array is 1-dimensional, but 2 were indexed"
  | matrix grid =>
    if i < grid.columns then .ok (vector (grid.column i))
    else
      let columns := grid.columns
      .error s!"index {i} is out of bounds for axis 1 with size {columns}"

def vstack : List (NdMatrix α) → Except String (NdMatrix α)
  | [] => .error "need at least one array to concatenate"
  | first :: rest => first.stack rest

-- The first index and the size of each of the slices that follow one another.
def spans : List Nat → Nat → List (Nat × Nat)
  | [],_ => []
  | size :: sizes,offset => (offset,size) :: spans sizes (offset + size)

-- A slice starts where the items before it end.
theorem spans_forall₂ {γ δ : Type} {P : γ → δ → Prop} (size : γ → Nat) (cut : Nat → Nat → δ) (items : List γ) (offset : Nat)
    (each : ∀ before a after, items = before ++ a :: after → P a (cut (offset + (before.map size).sum) (size a))) :
    List.Forall₂ P items ((spans (items.map size) offset).map fun span => cut span.1 span.2) := by
  induction items generalizing offset with
  | nil => exact .nil
  | cons first rest ih =>
    refine .cons ?_ (ih _ ?_)
    · simpa using each [] first rest rfl
    · intro before a after split
      have here := each (first :: before) a after (by rw [split,List.cons_append])
      rwa [List.map_cons,List.sum_cons,← Nat.add_assoc] at here

theorem middle (before block after : List α) : ((before ++ (block ++ after)).drop before.length).take block.length = block := by
  rw [List.drop_left,List.take_left]

end NdArray
