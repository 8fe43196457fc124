import Mathlib.Algebra.Ring.Int.Defs
import Mathlib.Data.List.Count
import Mathlib.Data.List.Dedup
import RiskPulse.Library.OrderedDict

-- A list kept together with maps from a key of its items: a queue of the items of each
-- key, and a count of them. A key without items is not in the map.
namespace KeyedQueues
variable {α κ : Type} [DecidableEq κ]

-- A defaultdict of deques: an absent key is an empty queue.
def push (index : OrderedDict κ (List α)) (k : κ) (a : α) : OrderedDict κ (List α) := index.set k (index.getD k [] ++ [a])

-- The oldest item of a key leaves, and an emptied queue is dropped; none for a queue
-- that is empty already.
def popFront (index : OrderedDict κ (List α)) (k : κ) : Option (OrderedDict κ (List α)) :=
  match index.getD k [] with
  | [] => none
  | _ :: rest => some (if rest = [] then index.erase k else index.set k rest)

-- A defaultdict of numbers.
def increment (counts : OrderedDict κ Int) (k : κ) : OrderedDict κ Int := counts.set k (counts.getD k 0 + 1)

def decrement (counts : OrderedDict κ Int) (k : κ) : OrderedDict κ Int :=
  if counts.getD k 0 - 1 = 0 then counts.erase k else counts.set k (counts.getD k 0 - 1)

def queue (key : α → κ) (held : List α) (k : κ) : List α := held.filter fun a => decide (key a = k)

def Indexes (key : α → κ) (held : List α) (index : OrderedDict κ (List α)) : Prop :=
  ∀ k, index.get? k = if queue key held k = [] then none else some (queue key held k)

def Counts (key : α → κ) (held : List α) (counts : OrderedDict κ Int) : Prop :=
  ∀ k, counts.get? k = if queue key held k = [] then none else some ((queue key held k).length : Int)

variable {key : α → κ}

theorem queue_append (held : List α) (a : α) (k : κ) :
    queue key (held ++ [a]) k = if k = key a then queue key held k ++ [a] else queue key held k := by
  by_cases same : k = key a
  · subst same
    simp [queue]
  · have different : key a ≠ k := fun equal => same equal.symm
    simp [queue,same,different]

theorem queue_cons (a : α) (held : List α) (k : κ) :
    queue key (a :: held) k = if k = key a then a :: queue key held k else queue key held k := by
  by_cases same : k = key a
  · subst same
    simp [queue]
  · have different : key a ≠ k := fun equal => same equal.symm
    simp [queue,same,different]

theorem indexes_empty : Indexes key [] (.empty : OrderedDict κ (List α)) := fun _ => rfl

theorem counts_empty : Counts key [] (.empty : OrderedDict κ Int) := fun _ => rfl

theorem indexes_getD (holds : Indexes key held index) (k : κ) : index.getD k [] = queue key held k := by
  rw [OrderedDict.getD,holds k]
  split
  · rename_i nothing
    rw [nothing]
    rfl
  · rfl

theorem counts_getD (holds : Counts key held counts) (k : κ) : counts.getD k 0 = ((queue key held k).length : Int) := by
  rw [OrderedDict.getD,holds k]
  split
  · rename_i nothing
    rw [nothing]
    rfl
  · rfl

-- The keys of the map are those of the items.
theorem indexes_keys (holds : Indexes key held index) : index.entries.length = (held.map key).dedup.length := by
  have same : index.keys.Perm (held.map key).dedup := by
    apply (List.perm_ext_iff_of_nodup index.unique (List.nodup_dedup _)).mpr
    intro k
    have found : queue key held k = [] ↔ k ∉ held.map key := by simp [queue,List.filter_eq_nil_iff]
    change k ∈ index.keys ↔ _
    rw [List.mem_dedup,OrderedDict.mem_keys,holds k]
    by_cases nothing : queue key held k = []
    · simp [nothing,found.mp nothing]
    · simpa only [nothing,if_false,Option.some.injEq,exists_eq',true_iff] using not_not.mp (mt found.mpr nothing)
  rw [← same.length_eq]
  exact (List.length_map _).symm

theorem indexes_push (holds : Indexes key held index) (a : α) : Indexes key (held ++ [a]) (push index (key a) a) := by
  intro k
  rw [push,OrderedDict.get?_set,queue_append,indexes_getD holds]
  by_cases same : k = key a
  · rw [if_pos same,if_pos same,if_neg (by simp),same]
  · rw [if_neg same,if_neg same]
    exact holds k

-- The first item of the list is the first of its queue.
theorem indexes_popFront (holds : Indexes key (a :: held) index) :
    ∃ rest, popFront index (key a) = some rest ∧ Indexes key held rest := by
  have first : index.getD (key a) [] = a :: queue key held (key a) := by
    rw [indexes_getD holds,queue_cons,if_pos rfl]
  refine ⟨_,by rw [popFront,first],?_⟩
  intro k
  have before := holds k
  rw [queue_cons] at before
  by_cases same : k = key a
  · subst same
    split
    · rw [OrderedDict.get?_erase,if_pos rfl]
    · rw [OrderedDict.get?_set,if_pos rfl]
  · rw [if_neg same] at before
    rw [← before]
    split
    · rw [OrderedDict.get?_erase,if_neg same]
    · rw [OrderedDict.get?_set,if_neg same]

theorem counts_increment (holds : Counts key held counts) (a : α) :
    Counts key (held ++ [a]) (increment counts (key a)) := by
  intro k
  rw [increment,OrderedDict.get?_set,queue_append,counts_getD holds]
  by_cases same : k = key a
  · subst same
    simp
  · rw [if_neg same,if_neg same]
    exact holds k

theorem counts_decrement (holds : Counts key (a :: held) counts) : Counts key held (decrement counts (key a)) := by
  have number : counts.getD (key a) 0 - 1 = ((queue key held (key a)).length : Int) := by
    rw [counts_getD holds,queue_cons,if_pos rfl,List.length_cons]
    omega
  intro k
  have before := holds k
  rw [queue_cons] at before
  rw [decrement,number]
  by_cases same : k = key a
  · subst same
    by_cases emptied : queue key held (key a) = []
    · simp [emptied,OrderedDict.get?_erase]
    · have many : ((queue key held (key a)).length : Int) ≠ 0 := by simpa using emptied
      rw [if_neg many,if_neg emptied,OrderedDict.get?_set,if_pos rfl]
  · rw [if_neg same] at before
    rw [← before]
    split
    · rw [OrderedDict.get?_erase,if_neg same]
    · rw [OrderedDict.get?_set,if_neg same]

omit [DecidableEq κ] in
theorem sum_filter (p : κ → Bool) (entries : List (κ × Int)) :
    ((entries.filter fun entry => p entry.1).map Prod.snd).sum =
      (entries.map fun entry => if p entry.1 then entry.2 else 0).sum := by
  induction entries with
  | nil => rfl
  | cons head rest ih =>
    rw [List.map_cons,List.sum_cons,← ih]
    by_cases holds : p head.1 <;> simp [holds]

-- The counts of the keys with a property add up to the items with such a key.
theorem counts_total (holds : Counts key held counts) (p : κ → Bool) :
    ((counts.entries.filter fun entry => p entry.1).map Prod.snd).sum = ((held.countP fun a => p (key a) : Nat) : Int) := by
  rw [sum_filter]
  induction held generalizing counts with
  | nil =>
    have nothing : counts.entries = [] := by
      apply List.eq_nil_iff_forall_not_mem.mpr
      intro entry member
      have found := (OrderedDict.get?_entry counts entry.1 entry.2).mp member
      rw [holds] at found
      cases found
    rw [nothing]
    rfl
  | cons a held ih =>
    obtain ⟨number,found⟩ : ∃ number, counts.get? (key a) = some number := by
      rw [holds,queue_cons,if_pos rfl,if_neg (by simp)]
      exact ⟨_,rfl⟩
    have whole := OrderedDict.sum_split (fun entry : κ × Int => if p entry.1 then entry.2 else 0) counts found
    have rest := ih (counts_decrement holds)
    have read : counts.getD (key a) 0 = number := by rw [OrderedDict.getD,found]; rfl
    rw [decrement,read] at rest
    rw [whole,List.countP_cons,Int.natCast_add,← rest]
    by_cases last : number - 1 = 0
    · rw [if_pos last]
      by_cases counted : p (key a)
      · simp only [counted,if_true]
        omega
      · simp [counted]
    · have lowered : (counts.set (key a) (number - 1)).get? (key a) = some (number - 1) := by
        rw [OrderedDict.get?_set,if_pos rfl]
      rw [if_neg last,OrderedDict.sum_split _ (counts.set (key a) (number - 1)) lowered,OrderedDict.erase_set]
      by_cases counted : p (key a)
      · simp only [counted,if_true]
        omega
      · simp [counted]

end KeyedQueues
