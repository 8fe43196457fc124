import Mathlib.Data.List.MinMax
import Mathlib.Order.Defs.LinearOrder

-- Copying what has a value above a mark: when everything not copied lies above
-- everything copied, the greatest copied value separates the two.
namespace Watermark
variable {τ : Type} [LinearOrder τ] {copied fresh : List τ} {mark : Option τ}

-- Without a mark everything is above it.
def above (mark : Option τ) (v : τ) : Bool := mark.all fun w => decide (w < v)

def Greatest (values : List τ) : Option τ → Prop
  | none => values = []
  | some w => w ∈ values ∧ ∀ v ∈ values, v ≤ w

def Below (copied fresh : List τ) : Prop := ∀ u ∈ copied, ∀ v ∈ fresh, u < v

theorem greatest_max (values : List τ) : Greatest values values.max? := by
  cases found : values.max? with
  | none => exact List.max?_eq_none_iff.mp found
  | some w => exact List.max?_eq_some_iff.mp found

theorem above_copied (greatest : Greatest copied mark) (member : u ∈ copied) : above mark u = false := by
  cases mark with
  | none => rw [greatest] at member; cases member
  | some w => simpa [above] using greatest.2 u member

theorem above_fresh (greatest : Greatest copied mark) (below : Below copied fresh) (member : v ∈ fresh) :
    above mark v = true := by
  cases mark with
  | none => rfl
  | some w => simpa [above] using below w greatest.1 v member

theorem filter_above (greatest : Greatest copied mark) (below : Below copied fresh) :
    (copied ++ fresh).filter (above mark) = fresh := by
  have out : copied.filter (above mark) = [] :=
    List.filter_eq_nil_iff.mpr fun u member => by simp [above_copied greatest member]
  have inside : fresh.filter (above mark) = fresh := List.filter_eq_self.mpr fun v member => above_fresh greatest below member
  rw [List.filter_append,out,inside,List.nil_append]

omit [LinearOrder τ] in
theorem fst_mem {values : List τ} {row : τ × Nat} (member : row ∈ values.zipIdx n) : row.1 ∈ values := by
  have among := List.mem_map_of_mem (f := Prod.fst) member
  rwa [List.zipIdx_map_fst] at among

-- The positions of what is above the mark are those after the copied ones.
theorem positions_above (greatest : Greatest copied mark) (below : Below copied fresh) :
    ((copied ++ fresh).zipIdx.filter fun row => above mark row.1).map Prod.snd = List.range' copied.length fresh.length := by
  have out : copied.zipIdx.filter (fun row => above mark row.1) = [] := by
    apply List.filter_eq_nil_iff.mpr
    intro row member
    simp [above_copied greatest (fst_mem member)]
  have inside : (fresh.zipIdx copied.length).filter (fun row => above mark row.1) = fresh.zipIdx copied.length := by
    apply List.filter_eq_self.mpr
    intro row member
    exact above_fresh greatest below (fst_mem member)
  rw [List.zipIdx_append,List.filter_append,out,List.nil_append,Nat.zero_add,inside,List.zipIdx_map_snd]

theorem Greatest.advance (greatest : Greatest fresh (some m)) (below : Below copied fresh) :
    Greatest (copied ++ fresh) (some m) := by
  refine ⟨List.mem_append_right _ greatest.1,?_⟩
  intro v member
  rcases List.mem_append.mp member with old | new
  · exact le_of_lt (below v old m greatest.1)
  · exact greatest.2 v new

end Watermark
