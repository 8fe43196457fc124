import Mathlib.Data.Rat.Defs
import RiskPulse.Library.OrderedDict

namespace RiskPulse

-- A finite float is the number its shortest decimal text denotes.
inductive PyFloat where
  | finite (value : Rat)
  | nan
  | infinity (negative : Bool)
  deriving DecidableEq

-- Python's > on floats; nan compares false.
def PyFloat.greater : PyFloat → PyFloat → Bool
  | .finite a,.finite b => decide (b < a)
  | .finite _,.infinity negative => negative
  | .infinity negative,.finite _ => !negative
  | .infinity a,.infinity b => !a && b
  | _,_ => false

-- The values a transaction record can hold. A datetime is its wall clock in
-- microseconds and, when it is aware, its UTC offset in seconds.
inductive Value where
  | none
  | bool (value : Bool)
  | int (value : Int)
  | float (value : PyFloat)
  | decimal (coefficient exponent : Int)
  | str (text : String)
  | bytes (content : List UInt8)
  | datetime (wall : Int) (offset : Option Int)
  | list (items : List Value)
  | dict (entries : List (String × Value))

namespace Value

mutual
def same : Value → Value → Bool
  | .none,.none => true
  | .bool a,.bool b => decide (a = b)
  | .int a,.int b => decide (a = b)
  | .float a,.float b => decide (a = b)
  | .decimal a b,.decimal c d => decide (a = c ∧ b = d)
  | .str a,.str b => decide (a = b)
  | .bytes a,.bytes b => decide (a = b)
  | .datetime a b,.datetime c d => decide (a = c ∧ b = d)
  | .list a,.list b => sameItems a b
  | .dict a,.dict b => sameEntries a b
  | _,_ => false
def sameItems : List Value → List Value → Bool
  | [],[] => true
  | a :: as,b :: bs => same a b && sameItems as bs
  | _,_ => false
def sameEntries : List (String × Value) → List (String × Value) → Bool
  | [],[] => true
  | (k,a) :: as,(l,b) :: bs => decide (k = l) && same a b && sameEntries as bs
  | _,_ => false
end

mutual
theorem same_exact : (a b : Value) → (same a b = true ↔ a = b)
  | .list a,b => by cases b <;> simp [same,sameItems_exact a]
  | .dict a,b => by cases b <;> simp [same,sameEntries_exact a]
  | .none,b | .bool _,b | .int _,b | .float _,b | .str _,b | .bytes _,b => by cases b <;> simp [same]
  | .decimal _ _,b | .datetime _ _,b => by cases b <;> simp [same]
theorem sameItems_exact : (a b : List Value) → (sameItems a b = true ↔ a = b)
  | [],b => by cases b <;> simp [sameItems]
  | a :: as,b => by cases b <;> simp [sameItems,same_exact a,sameItems_exact as]
theorem sameEntries_exact : (a b : List (String × Value)) → (sameEntries a b = true ↔ a = b)
  | [],b => by cases b <;> simp [sameEntries]
  | (k,a) :: as,b => by
    cases b with
    | nil => simp [sameEntries]
    | cons head rest =>
      obtain ⟨l,v⟩ := head
      simp [sameEntries,same_exact a,sameEntries_exact as]
end

instance : DecidableEq Value := fun a b => decidable_of_iff _ (same_exact a b)

-- What an if makes of a value.
def truthy : Value → Bool
  | .none => false
  | .bool b => b
  | .int n => decide (n ≠ 0)
  | .float x => decide (x ≠ .finite 0)
  | .decimal coefficient _ => decide (coefficient ≠ 0)
  | .str text => decide (text ≠ "")
  | .bytes content => !content.isEmpty
  | .datetime _ _ => true
  | .list items => !items.isEmpty
  | .dict entries => !entries.isEmpty

-- Whether the value can be the key of a dict.
def hashable : Value → Bool
  | .list _ | .dict _ => false
  | _ => true

end Value

abbrev Record := OrderedDict String Value

namespace Record

-- record.get(key), with None for an absent key.
def value (record : Record) (key : String) : Value := record.getD key .none

-- A field a reader can use: present and not None.
def known (record : Record) (key : String) : Prop := record.value key ≠ .none

instance (record : Record) (key : String) : Decidable (known record key) := inferInstanceAs (Decidable (_ ≠ _))

-- A record with a value has an entry.
theorem entries_nonempty (record : Record) (key : String) (found : record.value key ≠ .none) : record.entries.isEmpty = false := by
  apply Bool.eq_false_iff.mpr
  intro empty
  apply found
  rw [Record.value,OrderedDict.getD,OrderedDict.get?,List.isEmpty_iff.mp empty]
  rfl

theorem value_set (record : Record) (key : String) (v : Value) (other : String) :
    Record.value (record.set key v) other = if other = key then v else record.value other :=
  OrderedDict.getD_set record key v other .none

theorem value_update (record changes : Record) (key : String) :
    Record.value (record.update changes) key =
      if key ∈ changes.keys then Record.value changes key else record.value key := by
  simp only [Record.value,OrderedDict.getD,OrderedDict.get?_update]
  by_cases written : key ∈ changes.keys
  · obtain ⟨v,found⟩ := (OrderedDict.mem_keys changes key).mp written
    simp [written,found]
  · simp [written,(OrderedDict.get?_eq_none changes key).mpr written]

-- A run of updates: a key none of them writes keeps its value, and a key one of
-- them writes has the value written there when no two write the same key.
theorem value_updates_other (changes : List Record) (record : Record) (key : String)
    (unwritten : ∀ change ∈ changes, key ∉ change.keys) :
    Record.value (changes.foldl OrderedDict.update record) key = record.value key := by
  induction changes generalizing record with
  | nil => rfl
  | cons first rest ih =>
    rw [List.foldl_cons,ih _ fun change member => unwritten change (List.mem_cons_of_mem _ member),value_update,
      if_neg (unwritten first List.mem_cons_self)]

theorem value_updates (changes : List Record) (record : Record)
    (apart : changes.Pairwise fun a b => ∀ key ∈ a.keys, key ∉ b.keys) (member : change ∈ changes)
    (written : key ∈ change.keys) :
    Record.value (changes.foldl OrderedDict.update record) key = Record.value change key := by
  induction changes generalizing record with
  | nil => cases member
  | cons first rest ih =>
    obtain ⟨others,later⟩ := List.pairwise_cons.mp apart
    rw [List.foldl_cons]
    rcases List.mem_cons.mp member with rfl | further
    · rw [value_updates_other rest _ key fun other found => others other found key written,value_update,if_pos written]
    · exact ih _ later further

theorem ofList_blank (entries : List (String × Value)) (unique : (entries.map Prod.fst).Nodup) (key : String) :
    (key ∈ (OrderedDict.ofList entries).keys ∧ Record.value (OrderedDict.ofList entries) key = .none) ↔
      (key,Value.none) ∈ entries := by
  rw [OrderedDict.mem_keys_ofList,Record.value,OrderedDict.getD,OrderedDict.get?_ofList entries unique]
  induction entries with
  | nil => simp
  | cons head rest ih =>
    obtain ⟨k,v⟩ := head
    obtain ⟨fresh,others⟩ := List.nodup_cons.mp unique
    by_cases same : k = key
    · subst same
      have absent : (k,Value.none) ∉ rest := fun found => fresh (List.mem_map.mpr ⟨_,found,rfl⟩)
      simp [OrderedDict.lookupEntry,absent,eq_comm]
    · have different : key ≠ k := fun swapped => same swapped.symm
      simpa [OrderedDict.lookupEntry,same,different] using ih others

end Record
end RiskPulse
