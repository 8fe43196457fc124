import Mathlib.Algebra.BigOperators.Group.List.Basic
import Mathlib.Algebra.GroupWithZero.Nat
import Mathlib.Data.List.Nodup

-- Finite maps that keep their entries in insertion order, one entry a key. The
-- unique-key fact is carried by the map, so no update re-proves it.
structure OrderedDict (κ : Type) (α : Type) where
  entries : List (κ × α)
  unique : (entries.map Prod.fst).Nodup

namespace OrderedDict
variable {κ α : Type} [DecidableEq κ]

def empty : OrderedDict κ α := ⟨[],by simp⟩

def keys (d : OrderedDict κ α) : List κ := d.entries.map Prod.fst

def lookupEntry (k : κ) : List (κ × α) → Option α
  | [] => none
  | (key,v) :: rest => if key = k then some v else lookupEntry k rest

def get? (d : OrderedDict κ α) (k : κ) : Option α := lookupEntry k d.entries

def getD (d : OrderedDict κ α) (k : κ) (fallback : α) : α := (d.get? k).getD fallback

-- An existing key keeps its place and takes the new value.
def insertEntry (k : κ) (v : α) : List (κ × α) → List (κ × α)
  | [] => [(k,v)]
  | (key,old) :: rest => if key = k then (k,v) :: rest else (key,old) :: insertEntry k v rest

theorem insertEntry_keys (k : κ) (v : α) (entries : List (κ × α)) :
    (insertEntry k v entries).map Prod.fst =
      if k ∈ entries.map Prod.fst then entries.map Prod.fst else entries.map Prod.fst ++ [k] := by
  induction entries with
  | nil => simp [insertEntry]
  | cons head rest ih =>
    obtain ⟨key,old⟩ := head
    by_cases same : key = k
    · simp [insertEntry,same]
    · have different : k ≠ key := fun equal => same equal.symm
      simp only [insertEntry,if_neg same,List.map_cons,ih,List.mem_cons,different,false_or]
      split <;> simp

theorem insertEntry_lookup (k : κ) (v : α) (entries : List (κ × α)) (key : κ) :
    lookupEntry key (insertEntry k v entries) = if key = k then some v else lookupEntry key entries := by
  induction entries with
  | nil => by_cases same : k = key <;> simp [insertEntry,lookupEntry,same,eq_comm]
  | cons head rest ih =>
    obtain ⟨first,old⟩ := head
    by_cases same : first = k
    · subst first
      by_cases equal : k = key
      · simp [insertEntry,lookupEntry,equal]
      · have different : key ≠ k := fun swapped => equal swapped.symm
        simp [insertEntry,lookupEntry,equal,different]
    · simp only [insertEntry,if_neg same,lookupEntry,ih]
      by_cases equal : first = key
      · subst key; simp [same]
      · simp [equal]

def set (d : OrderedDict κ α) (k : κ) (v : α) : OrderedDict κ α where
  entries := insertEntry k v d.entries
  unique := by
    rw [insertEntry_keys]
    split
    · exact d.unique
    · rename_i absent
      exact List.nodup_append.mpr ⟨d.unique,by simp,by
        intro a old b equal; rw [List.mem_singleton.mp equal]; rintro rfl; exact absent old⟩

def erase (d : OrderedDict κ α) (k : κ) : OrderedDict κ α where
  entries := d.entries.filter (fun entry => decide (entry.1 ≠ k))
  unique := d.unique.sublist (List.filter_sublist.map Prod.fst)

-- The entries of the second map are written one by one over the first.
def update (d other : OrderedDict κ α) : OrderedDict κ α :=
  other.entries.foldl (fun built entry => built.set entry.1 entry.2) d

def ofList (entries : List (κ × α)) : OrderedDict κ α :=
  entries.foldl (fun built entry => built.set entry.1 entry.2) empty

@[simp] theorem get?_empty (k : κ) : (empty : OrderedDict κ α).get? k = none := rfl

theorem get?_set (d : OrderedDict κ α) (k : κ) (v : α) (key : κ) :
    (d.set k v).get? key = if key = k then some v else d.get? key :=
  insertEntry_lookup k v d.entries key

theorem getD_set (d : OrderedDict κ α) (k : κ) (v : α) (key : κ) (fallback : α) :
    (d.set k v).getD key fallback = if key = k then v else d.getD key fallback := by
  unfold getD
  rw [get?_set]
  split <;> rfl

theorem get?_entry (d : OrderedDict κ α) (k : κ) (v : α) : (k,v) ∈ d.entries ↔ d.get? k = some v := by
  obtain ⟨entries,unique⟩ := d
  simp only [get?]
  induction entries with
  | nil => simp [lookupEntry]
  | cons head rest ih =>
    obtain ⟨key,old⟩ := head
    obtain ⟨fresh,others⟩ := List.nodup_cons.mp unique
    by_cases same : key = k
    · subst same
      have absent : (key,v) ∉ rest := fun found => fresh (List.mem_map.mpr ⟨_,found,rfl⟩)
      simp [lookupEntry,absent,eq_comm]
    · have different : k ≠ key := fun swapped => same swapped.symm
      simpa [lookupEntry,same,different] using ih others

theorem mem_keys (d : OrderedDict κ α) (k : κ) : k ∈ d.keys ↔ ∃ v, d.get? k = some v := by
  obtain ⟨entries,unique⟩ := d
  simp only [keys,get?]
  clear unique
  induction entries with
  | nil => simp [lookupEntry]
  | cons head rest ih =>
    obtain ⟨key,old⟩ := head
    by_cases same : key = k
    · simp [lookupEntry,same]
    · have different : k ≠ key := fun swapped => same swapped.symm
      simp only [List.map_cons,List.mem_cons,lookupEntry,if_neg same,different,false_or,ih]

theorem get?_eq_none (d : OrderedDict κ α) (k : κ) : d.get? k = none ↔ k ∉ d.keys := by
  rw [mem_keys]
  cases d.get? k <;> simp

theorem mem_keys_set (d : OrderedDict κ α) (k : κ) (v : α) (key : κ) :
    key ∈ (d.set k v).keys ↔ key = k ∨ key ∈ d.keys := by
  simp only [mem_keys,get?_set]
  by_cases same : key = k <;> simp [same]

theorem keys_set_fresh (d : OrderedDict κ α) (k : κ) (v : α) (fresh : k ∉ d.keys) : (d.set k v).keys = d.keys ++ [k] :=
  (insertEntry_keys k v d.entries).trans (if_neg fresh)

theorem get?_erase (d : OrderedDict κ α) (k key : κ) :
    (d.erase k).get? key = if key = k then none else d.get? key := by
  obtain ⟨entries,unique⟩ := d
  simp only [erase,get?]
  clear unique
  induction entries with
  | nil => simp [lookupEntry]
  | cons head rest ih =>
    obtain ⟨first,old⟩ := head
    by_cases removed : first = k
    · subst removed
      rw [List.filter_cons_of_neg (by simp),ih]
      by_cases same : first = key
      · simp [same]
      · simp [lookupEntry,same]
    · rw [List.filter_cons_of_pos (by simpa using removed)]
      by_cases same : first = key
      · subst same; simp [lookupEntry,removed]
      · simp only [lookupEntry,if_neg same,ih]

theorem get?_foldl_erase (gone : List κ) (d : OrderedDict κ α) (k : κ) :
    (gone.foldl erase d).get? k = if k ∈ gone then none else d.get? k := by
  induction gone generalizing d with
  | nil => simp
  | cons first rest ih =>
    rw [List.foldl_cons,ih,get?_erase]
    by_cases same : k = first <;> simp [same]

-- How many entries have a value with the property.
def count (p : α → Bool) (d : OrderedDict κ α) : Nat := d.entries.countP fun entry => p entry.2

theorem count_set_fresh (p : α → Bool) (d : OrderedDict κ α) (fresh : k ∉ d.keys) (v : α) :
    (d.set k v).count p = d.count p + if p v then 1 else 0 := by
  obtain ⟨entries,unique⟩ := d
  simp only [keys] at fresh
  simp only [count,set]
  clear unique
  induction entries with
  | nil => simp [insertEntry,List.countP_cons]
  | cons head rest ih =>
    obtain ⟨key,old⟩ := head
    obtain ⟨different,others⟩ := not_or.mp (mt List.mem_cons.mpr fresh)
    rw [insertEntry,if_neg (Ne.symm different),List.countP_cons,List.countP_cons,ih others]
    omega

theorem count_set (p : α → Bool) (d : OrderedDict κ α) (found : d.get? k = some old) (v : α) :
    (d.set k v).count p + (if p old then 1 else 0) = d.count p + if p v then 1 else 0 := by
  obtain ⟨entries,unique⟩ := d
  simp only [get?] at found
  simp only [count,set]
  clear unique
  induction entries with
  | nil => cases found
  | cons head rest ih =>
    obtain ⟨key,first⟩ := head
    by_cases same : key = k
    · rw [lookupEntry,if_pos same] at found
      cases found
      rw [insertEntry,if_pos same,List.countP_cons,List.countP_cons]
      simp only
      omega
    · rw [lookupEntry,if_neg same] at found
      rw [insertEntry,if_neg same,List.countP_cons,List.countP_cons]
      have rest_counts := ih found
      omega

-- Dropping entries without the property keeps the count.
theorem count_erase (p : α → Bool) (d : OrderedDict κ α) (k : κ) (without : ∀ v, d.get? k = some v → p v = false) :
    (d.erase k).count p = d.count p := by
  rw [count,count,erase,List.countP_filter]
  apply List.countP_congr
  rintro ⟨key,v⟩ member
  simp only [Bool.and_eq_true,decide_eq_true_eq,and_iff_left_iff_imp]
  rintro holds rfl
  rw [without v ((get?_entry d key v).mp member)] at holds
  cases holds

theorem count_foldl_erase (p : α → Bool) (gone : List κ) (d : OrderedDict κ α)
    (without : ∀ k ∈ gone, ∀ v, d.get? k = some v → p v = false) : (gone.foldl erase d).count p = d.count p := by
  induction gone generalizing d with
  | nil => rfl
  | cons k rest ih =>
    rw [List.foldl_cons,ih,count_erase p d k (without k List.mem_cons_self)]
    intro other member v found
    rw [get?_erase] at found
    split at found
    · cases found
    · exact without other (List.mem_cons_of_mem _ member) v found

-- A sum over the entries is that of one key and that of the others.
theorem sum_split {M : Type} [AddCommMonoid M] (f : κ × α → M) (d : OrderedDict κ α) (found : d.get? k = some v) :
    (d.entries.map f).sum = f (k,v) + ((d.erase k).entries.map f).sum := by
  obtain ⟨entries,unique⟩ := d
  simp only [get?] at found
  simp only [erase]
  induction entries with
  | nil => cases found
  | cons head rest ih =>
    obtain ⟨key,first⟩ := head
    obtain ⟨fresh,others⟩ := List.nodup_cons.mp unique
    by_cases same : key = k
    · rw [lookupEntry,if_pos same] at found
      cases found
      subst same
      have kept : rest.filter (fun entry => decide (entry.1 ≠ key)) = rest := by
        apply List.filter_eq_self.mpr
        intro entry member
        exact decide_eq_true fun equal => fresh (List.mem_map.mpr ⟨entry,member,equal⟩)
      rw [List.filter_cons_of_neg (by simp),kept,List.map_cons,List.sum_cons]
    · rw [lookupEntry,if_neg same] at found
      rw [List.filter_cons_of_pos (by simpa using same),List.map_cons,List.map_cons,List.sum_cons,List.sum_cons,
        ih others found]
      exact add_left_comm _ _ _

theorem erase_set (d : OrderedDict κ α) (k : κ) (v : α) : ((d.set k v).erase k).entries = (d.erase k).entries := by
  obtain ⟨entries,unique⟩ := d
  simp only [erase,set]
  clear unique
  induction entries with
  | nil => simp [insertEntry]
  | cons head rest ih =>
    obtain ⟨key,first⟩ := head
    by_cases same : key = k
    · simp [insertEntry,same]
    · simp only [insertEntry,if_neg same,List.filter_cons,ih]

theorem lookupEntry_append (k : κ) (first later : List (κ × α)) :
    lookupEntry k (first ++ later) = (lookupEntry k first).or (lookupEntry k later) := by
  induction first with
  | nil => rfl
  | cons head rest ih =>
    obtain ⟨key,v⟩ := head
    simp only [List.cons_append,lookupEntry]
    split
    · rfl
    · exact ih

theorem lookupEntry_absent (entries : List (κ × α)) (absent : k ∉ entries.map Prod.fst) : lookupEntry k entries = none := by
  induction entries with
  | nil => rfl
  | cons head rest ih =>
    obtain ⟨different,others⟩ := not_or.mp (mt List.mem_cons.mpr absent)
    simp only [lookupEntry,if_neg (Ne.symm different)]
    exact ih others

theorem lookupEntry_listed (entries : List (κ × α)) (found : lookupEntry k entries = some v) : (k,v) ∈ entries := by
  induction entries with
  | nil => cases found
  | cons head rest ih =>
    obtain ⟨key,first⟩ := head
    by_cases same : key = k
    · rw [lookupEntry,if_pos same] at found
      cases found
      rw [same]
      exact List.mem_cons_self
    · rw [lookupEntry,if_neg same] at found
      exact List.mem_cons_of_mem _ (ih found)

-- The values of some of the entries.
theorem lookupEntry_filter (p : κ × α → Bool) (entries : List (κ × α)) (unique : (entries.map Prod.fst).Nodup) (k : κ) :
    lookupEntry k (entries.filter p) = (lookupEntry k entries).filter fun v => p (k,v) := by
  induction entries with
  | nil => rfl
  | cons head rest ih =>
    obtain ⟨key,v⟩ := head
    obtain ⟨fresh,others⟩ := List.nodup_cons.mp unique
    by_cases kept : p (key,v) = true
    · rw [List.filter_cons_of_pos kept]
      by_cases same : key = k
      · subst same
        simp only [lookupEntry,if_pos]
        exact (if_pos kept).symm
      · simp only [lookupEntry,if_neg same]
        exact ih others
    · rw [List.filter_cons_of_neg kept,ih others]
      by_cases same : key = k
      · subst same
        have absent : lookupEntry key rest = none := (get?_eq_none ⟨rest,others⟩ key).mpr fresh
        simp [lookupEntry,Option.filter,absent,kept]
      · simp only [lookupEntry,if_neg same]

-- Reading a fold of writes: the last write of the key wins, else the start.
theorem get?_foldl_set (entries : List (κ × α)) (unique : (entries.map Prod.fst).Nodup)
    (d : OrderedDict κ α) (k : κ) :
    (entries.foldl (fun built entry => built.set entry.1 entry.2) d).get? k =
      (lookupEntry k entries).or (d.get? k) := by
  induction entries generalizing d with
  | nil => simp [lookupEntry]
  | cons head rest ih =>
    obtain ⟨key,value⟩ := head
    have fresh : key ∉ rest.map Prod.fst := (List.nodup_cons.mp unique).1
    rw [List.foldl_cons,ih (List.nodup_cons.mp unique).2,get?_set]
    by_cases same : key = k
    · subst same
      have absent : lookupEntry key rest = none :=
        (get?_eq_none ⟨rest,(List.nodup_cons.mp unique).2⟩ key).mpr fresh
      simp [lookupEntry,absent]
    · have different : k ≠ key := fun swapped => same swapped.symm
      simp [lookupEntry,same,different]

theorem get?_update (d other : OrderedDict κ α) (k : κ) :
    (d.update other).get? k = (other.get? k).or (d.get? k) :=
  get?_foldl_set other.entries other.unique d k

theorem get?_ofList (entries : List (κ × α)) (unique : (entries.map Prod.fst).Nodup) (k : κ) :
    (ofList entries).get? k = lookupEntry k entries := by
  simp [ofList,get?_foldl_set entries unique]

theorem mem_keys_update (d other : OrderedDict κ α) (k : κ) :
    k ∈ (d.update other).keys ↔ k ∈ other.keys ∨ k ∈ d.keys := by
  simp only [mem_keys,get?_update]
  cases other.get? k <;> simp

theorem mem_keys_ofList (entries : List (κ × α)) (k : κ) :
    k ∈ (ofList entries).keys ↔ k ∈ entries.map Prod.fst := by
  have folded : ∀ d : OrderedDict κ α,
      k ∈ (entries.foldl (fun built entry => built.set entry.1 entry.2) d).keys ↔
        k ∈ entries.map Prod.fst ∨ k ∈ d.keys := by
    induction entries with
    | nil => simp
    | cons head rest ih =>
      intro d
      rw [List.foldl_cons,ih,mem_keys_set,List.map_cons,List.mem_cons]
      tauto
  have absent : k ∉ (empty : OrderedDict κ α).keys := by simp [keys,empty]
  simpa only [ofList,absent,or_false] using folded empty

theorem insertEntry_fresh (k : κ) (v : α) (entries : List (κ × α)) (fresh : k ∉ entries.map Prod.fst) :
    insertEntry k v entries = entries ++ [(k,v)] := by
  induction entries with
  | nil => rfl
  | cons head rest ih =>
    obtain ⟨key,old⟩ := head
    rw [List.map_cons,List.mem_cons,not_or] at fresh
    have different : ¬key = k := fun equal => fresh.1 equal.symm
    rw [insertEntry,if_neg different,ih fresh.2,List.cons_append]

-- Entries of different keys are the entries of the map.
theorem ofList_entries (entries : List (κ × α)) (unique : (entries.map Prod.fst).Nodup) : (ofList entries).entries = entries := by
  have folded : ∀ d : OrderedDict κ α, (∀ k ∈ entries.map Prod.fst, k ∉ d.keys) →
      (entries.foldl (fun built entry => built.set entry.1 entry.2) d).entries = d.entries ++ entries := by
    induction entries with
    | nil => exact fun d _ => (List.append_nil _).symm
    | cons head rest ih =>
      intro d fresh
      obtain ⟨first,others⟩ := List.nodup_cons.mp unique
      have added : (d.set head.1 head.2).entries = d.entries ++ [head] := insertEntry_fresh _ _ _ (fresh _ List.mem_cons_self)
      rw [List.foldl_cons,ih others _ ?_,added,List.append_assoc,List.singleton_append]
      intro k member
      rw [mem_keys_set,not_or]
      exact ⟨fun same => first (same ▸ member),fresh k (List.mem_cons_of_mem _ member)⟩
  exact (folded empty fun _ _ member => by cases member).trans (List.nil_append _)

-- A map of as many entries as were written has had no key written twice.
theorem ofList_length (entries : List (κ × α)) (length : (ofList entries).entries.length = entries.length) :
    (entries.map Prod.fst).Nodup := by
  have within : (ofList entries).keys ⊆ entries.map Prod.fst := fun k member => (mem_keys_ofList entries k).mp member
  have same := (List.subperm_of_subset (ofList entries).unique within).perm_of_length_le (by simp [length])
  exact same.nodup_iff.mp (ofList entries).unique

-- The writes whose keys are not written again.
def lastWrites : List (κ × α) → List (κ × α)
  | [] => []
  | entry :: rest => if entry.1 ∈ rest.map Prod.fst then lastWrites rest else entry :: lastWrites rest

theorem insertEntry_filter (k : κ) (v : α) (entries : List (κ × α)) (p : κ → Bool) (out : p k = false) :
    (insertEntry k v entries).filter (fun entry => p entry.1) = entries.filter fun entry => p entry.1 := by
  induction entries with
  | nil => simp [insertEntry,out]
  | cons head rest ih =>
    obtain ⟨key,old⟩ := head
    by_cases same : key = k
    · subst same
      simp [insertEntry,out]
    · simp [insertEntry,same,List.filter_cons,ih]

theorem insertEntry_perm (k : κ) (v : α) (entries : List (κ × α)) (unique : (entries.map Prod.fst).Nodup) :
    (insertEntry k v entries).Perm ((entries.filter fun entry => decide (entry.1 ≠ k)) ++ [(k,v)]) := by
  induction entries with
  | nil => exact .refl _
  | cons head rest ih =>
    obtain ⟨key,old⟩ := head
    obtain ⟨fresh,others⟩ := List.nodup_cons.mp unique
    by_cases same : key = k
    · subst same
      have kept : rest.filter (fun entry => decide (entry.1 ≠ key)) = rest := by
        rw [List.filter_eq_self]
        intro entry member
        apply decide_eq_true
        intro again
        exact fresh (List.mem_map.mpr ⟨entry,member,again⟩)
      rw [insertEntry,if_pos rfl,List.filter_cons_of_neg (by simp),kept]
      exact List.perm_append_singleton _ _ |>.symm
    · rw [insertEntry,if_neg same,List.filter_cons_of_pos (by simpa using same),List.cons_append]
      exact (ih others).cons _

theorem foldl_set_perm (entries : List (κ × α)) (d : OrderedDict κ α) :
    (entries.foldl (fun built entry => built.set entry.1 entry.2) d).entries.Perm
      (d.entries.filter (fun entry => decide (entry.1 ∉ entries.map Prod.fst)) ++ lastWrites entries) := by
  induction entries generalizing d with
  | nil => simp [lastWrites]
  | cons head rest ih =>
    obtain ⟨key,value⟩ := head
    rw [List.foldl_cons]
    refine (ih (d.set key value)).trans ?_
    have narrower : (d.entries.filter fun entry => decide (entry.1 ∉ (key :: rest.map Prod.fst))) =
        (d.entries.filter fun entry => decide (entry.1 ≠ key)).filter fun entry => decide (entry.1 ∉ rest.map Prod.fst) := by
      rw [List.filter_filter]
      apply List.filter_congr
      intro entry _
      by_cases here : entry.1 = key <;> simp [here]
    rw [List.map_cons,narrower]
    by_cases again : key ∈ rest.map Prod.fst
    · have same := insertEntry_filter key value d.entries (fun k => decide (k ∉ rest.map Prod.fst)) (by simpa using again)
      have redundant : (d.entries.filter fun entry => decide (entry.1 ≠ key)).filter (fun entry => decide (entry.1 ∉ rest.map Prod.fst)) =
          d.entries.filter fun entry => decide (entry.1 ∉ rest.map Prod.fst) := by
        rw [List.filter_filter]
        apply List.filter_congr
        intro entry _
        by_cases here : entry.1 = key
        · simp only [here,again]
          simp
        · simp [here]
      rw [lastWrites,if_pos again,redundant]
      exact .of_eq (congrArg (· ++ lastWrites rest) same)
    · rw [lastWrites,if_neg again]
      have written := (insertEntry_perm key value d.entries d.unique).filter fun entry => decide (entry.1 ∉ rest.map Prod.fst)
      rw [List.filter_append,List.filter_cons_of_pos (by simpa using again)] at written
      exact (written.append_right (lastWrites rest)).trans (.of_eq (by simp))

theorem lastWrites_sublist (entries : List (κ × α)) : (lastWrites entries).Sublist entries := by
  induction entries with
  | nil => exact .slnil
  | cons entry rest ih =>
    rw [lastWrites]
    split
    · exact ih.cons entry
    · exact ih.cons_cons entry

theorem lastWrites_map {β : Type} (f : α → β) (entries : List (κ × α)) :
    lastWrites (entries.map fun entry => (entry.1,f entry.2)) = (lastWrites entries).map fun entry => (entry.1,f entry.2) := by
  induction entries with
  | nil => rfl
  | cons entry rest ih =>
    have keys : (rest.map fun entry => (entry.1,f entry.2)).map Prod.fst = rest.map Prod.fst := by
      rw [List.map_map]
      rfl
    rw [List.map_cons,lastWrites,lastWrites,keys,ih]
    split <;> rfl

-- A map holds the last write of each key.
theorem ofList_perm (entries : List (κ × α)) : (ofList entries).entries.Perm (lastWrites entries) :=
  foldl_set_perm entries empty

omit [DecidableEq κ] in
theorem entries_injective {d other : OrderedDict κ α} (same : d.entries = other.entries) : d = other := by
  cases d
  cases other
  congr

-- The same keys with other values.
def mapValues {β : Type} (f : α → β) (d : OrderedDict κ α) : OrderedDict κ β where
  entries := d.entries.map fun entry => (entry.1,f entry.2)
  unique := by
    rw [List.map_map]
    exact d.unique

omit [DecidableEq κ] in
theorem keys_mapValues {β : Type} (f : α → β) (d : OrderedDict κ α) : (d.mapValues f).keys = d.keys := by
  unfold keys mapValues
  rw [List.map_map]
  rfl

theorem get?_mapValues {β : Type} (f : α → β) (d : OrderedDict κ α) (k : κ) : (d.mapValues f).get? k = (d.get? k).map f := by
  change lookupEntry k (d.entries.map fun entry => (entry.1,f entry.2)) = (lookupEntry k d.entries).map f
  induction d.entries with
  | nil => rfl
  | cons entry rest ih =>
    obtain ⟨key,v⟩ := entry
    rw [List.map_cons,lookupEntry,lookupEntry]
    split
    · rfl
    · exact ih

omit [DecidableEq κ] in
theorem mapValues_mapValues {β γ : Type} (f : α → β) (g : β → γ) (d : OrderedDict κ α) :
    (d.mapValues f).mapValues g = d.mapValues fun v => g (f v) := by
  apply entries_injective
  exact List.map_map

omit [DecidableEq κ] in
theorem mapValues_id (d : OrderedDict κ α) : (d.mapValues fun v => v) = d := by
  apply entries_injective
  exact List.map_id d.entries

-- The entries whose keys are as p says.
def restrict (d : OrderedDict κ α) (p : κ → Bool) : OrderedDict κ α where
  entries := d.entries.filter fun entry => p entry.1
  unique := d.unique.sublist (List.filter_sublist.map Prod.fst)

theorem get?_restrict (d : OrderedDict κ α) (p : κ → Bool) (k : κ) :
    (d.restrict p).get? k = if p k then d.get? k else none := by
  apply Option.ext
  intro v
  rw [← get?_entry,restrict,List.mem_filter,get?_entry]
  split <;> simp [*]

omit [DecidableEq κ] in
theorem restrict_congr (d : OrderedDict κ α) {p q : κ → Bool} (same : ∀ k ∈ d.keys, p k = q k) : d.restrict p = d.restrict q := by
  apply entries_injective
  apply List.filter_congr
  intro entry member
  exact same entry.1 (List.mem_map_of_mem member)

theorem restrict_set_in (d : OrderedDict κ α) {p : κ → Bool} (inside : p k = true) (v : α) :
    (d.set k v).restrict p = (d.restrict p).set k v := by
  apply entries_injective
  obtain ⟨entries,unique⟩ := d
  simp only [restrict,set]
  clear unique
  induction entries with
  | nil => simp [insertEntry,inside]
  | cons head rest ih =>
    obtain ⟨key,old⟩ := head
    by_cases same : key = k
    · subst same
      simp [insertEntry,inside]
    · cases kept : p key with
      | true => simp [insertEntry,same,kept,ih]
      | false => simp [insertEntry,same,kept,ih]

theorem restrict_set_out (d : OrderedDict κ α) {p : κ → Bool} (outside : p k = false) (v : α) :
    (d.set k v).restrict p = d.restrict p := by
  apply entries_injective
  obtain ⟨entries,unique⟩ := d
  simp only [restrict,set]
  clear unique
  induction entries with
  | nil => simp [insertEntry,outside]
  | cons head rest ih =>
    obtain ⟨key,old⟩ := head
    by_cases same : key = k
    · subst same
      simp [insertEntry,outside]
    · simp [insertEntry,same,List.filter_cons,ih]

def moveToEnd (d : OrderedDict κ α) (k : κ) : OrderedDict κ α :=
  match d.get? k with
  | some v => (d.erase k).set k v
  | none => d

def popFirst (d : OrderedDict κ α) : OrderedDict κ α where
  entries := d.entries.tail
  unique := d.unique.sublist ((List.tail_sublist _).map Prod.fst)

theorem mem_keys_moveToEnd (d : OrderedDict κ α) (k key : κ) : key ∈ (d.moveToEnd k).keys ↔ key ∈ d.keys := by
  unfold moveToEnd
  cases found : d.get? k with
  | none => exact Iff.rfl
  | some v =>
    simp only [mem_keys,get?_set,get?_erase]
    by_cases same : key = k
    · subst key; simp [found]
    · simp [same]

theorem keys_moveToEnd (d : OrderedDict κ α) (k : κ) (held : k ∈ d.keys) : (d.moveToEnd k).keys = d.keys.filter (· ≠ k) ++ [k] := by
  obtain ⟨v,found⟩ := (mem_keys d k).mp held
  have left : (d.erase k).keys = d.keys.filter (· ≠ k) := by
    rw [keys,keys,List.filter_map]
    rfl
  have gone : k ∉ (d.erase k).keys := by simp [left]
  rw [moveToEnd,found]
  exact (keys_set_fresh _ k v gone).trans (by rw [left])

theorem get?_moveToEnd (d : OrderedDict κ α) (k key : κ) : (d.moveToEnd k).get? key = d.get? key := by
  unfold moveToEnd
  cases found : d.get? k with
  | none => rfl
  | some v =>
    simp only [get?_set,get?_erase]
    by_cases same : key = k
    · subst key; simp [found]
    · simp [same]

theorem get?_popFirst (d : OrderedDict κ α) (found : d.popFirst.get? key = some v) : d.get? key = some v := by
  rw [← get?_entry] at found ⊢
  exact List.mem_of_mem_tail found

-- Going over the entries for one key finds its value.
theorem flatMap_key (d : OrderedDict κ α) (k : κ) (f : α → List β) :
    (d.entries.flatMap fun entry => if entry.1 ≠ k then [] else f entry.2) = ((d.get? k).map f).getD [] := by
  obtain ⟨entries,unique⟩ := d
  simp only [OrderedDict.get?]
  induction entries with
  | nil => rfl
  | cons head rest ih =>
    obtain ⟨key,v⟩ := head
    obtain ⟨fresh,others⟩ := List.nodup_cons.mp unique
    rw [List.flatMap_cons,ih others]
    by_cases same : key = k
    · subst same
      have absent : OrderedDict.lookupEntry key rest = none := (OrderedDict.get?_eq_none ⟨rest,others⟩ key).mpr fresh
      simp [OrderedDict.lookupEntry,absent]
    · simp [OrderedDict.lookupEntry,same]

-- A value that counts as the one it replaces, or as nothing where there is none.
theorem flatMap_set (d : OrderedDict κ α) (k : κ) (v : α) (f : κ × α → List β)
    (same : f (k,v) = ((d.get? k).map fun old => f (k,old)).getD []) : (d.set k v).entries.flatMap f = d.entries.flatMap f := by
  obtain ⟨entries,unique⟩ := d
  simp only [OrderedDict.get?,set] at same ⊢
  clear unique
  induction entries with
  | nil => simpa [insertEntry,lookupEntry] using same
  | cons head rest ih =>
    obtain ⟨key,old⟩ := head
    by_cases equal : key = k
    · subst equal
      have here : f (key,v) = f (key,old) := by simpa [lookupEntry] using same
      simp [insertEntry,here]
    · have later := ih (by simpa [lookupEntry,equal] using same)
      simp [insertEntry,equal,later]

omit [DecidableEq κ] in
theorem popFirst_keys (d : OrderedDict κ α) (key : κ) (kept : key ∈ d.popFirst.keys) : key ∈ d.keys :=
  ((List.tail_sublist d.entries).map Prod.fst).subset kept

end OrderedDict
